/-
  The locks of the calls that deal with seats.

  At each statement of a seat request, `SeatRequest.Holds` says what the locks
  that it holds are, and `SeatRequest.Wants` what those that it waits for are:
  the seats in ascending order, then the reservations with a lapsed hold in
  ascending order, their rows, then the (visitor, key) entry, then a live hold
  on one of the seats.  `SeatRequest.always_reserve`: all statements of
  `SeatReservationService.reserve` are so.  `always_moveTo`: `cancel` and
  `confirm` hold nothing when they wait for their reservation, and then want
  only its rows.
-/
import TicketReservation.Atomic.Seats
import TicketReservation.Txn.Always

namespace TicketReservation

open Txn

/-- What a seat request asks for. -/
structure SeatRequest where
  visitorSessionId : UUID
  idempotencyKey : String
  orderedSeatIds : List UUID
  uuid4 : ℕ → UUID
  now : Instant

namespace SeatRequest

/-- **What a lock that the request holds is**, when it holds `Λ`. -/
inductive Holds (a : SeatRequest) (d : Database) (Λ : List Lock) : Lock → Prop
  | seat (s : UUID) : Holds a d Λ (.seat s)
  | parent (r : Reservation) : r ∈ d.reservations → Holds a d Λ (.reservation r.id)
  | row (q : ReservationSeat) : q ∈ d.reservationSeats → q.status = .reserved → q.expiresAt ≤ a.now →
      .reservation q.reservationId ∈ Λ → Holds a d Λ (.reservationSeat q.id)
  | header : (∀ r ∈ d.reservations, r.id ≠ a.uuid4 0) → Holds a d Λ (.reservation (a.uuid4 0))
  | key : (∀ s ∈ a.orderedSeatIds, .seat s ∈ Λ) →
      Holds a d Λ (.visitorKey a.visitorSessionId a.idempotencyKey)
  | newRow (n : ℕ) : n ≤ a.orderedSeatIds.length → (∀ q ∈ d.reservationSeats, q.id ≠ a.uuid4 n) →
      Holds a d Λ (.reservationSeat (a.uuid4 n))
  | active (s : UUID) : .seat s ∈ Λ → Holds a d Λ (.activeSeat s)

/-- **What a lock that the request wants is**, when it holds `Λ`. -/
inductive Wants (a : SeatRequest) (d : Database) (Λ : List Lock) : Lock → Prop
  | held (l : Lock) : l ∈ Λ → Wants a d Λ l
  | seat (s : UUID) : (∀ l ∈ Λ, ∃ s' < s, l = .seat s') → Wants a d Λ (.seat s)
  | parent (r : Reservation) : r ∈ d.reservations →
      (∀ l ∈ Λ, (∃ s, l = .seat s) ∨ ∃ x < r.id, l = .reservation x) →
      Wants a d Λ (.reservation r.id)
  | child (q : ReservationSeat) : q ∈ d.reservationSeats → .reservation q.reservationId ∈ Λ →
      Wants a d Λ (.reservationSeat q.id)
  | header : (∀ r ∈ d.reservations, r.id ≠ a.uuid4 0) → Wants a d Λ (.reservation (a.uuid4 0))
  | key : (∀ s ∈ a.orderedSeatIds, .seat s ∈ Λ) →
      Wants a d Λ (.visitorKey a.visitorSessionId a.idempotencyKey)
  | newRow (n : ℕ) : n ≤ a.orderedSeatIds.length → (∀ q ∈ d.reservationSeats, q.id ≠ a.uuid4 n) →
      Wants a d Λ (.reservationSeat (a.uuid4 n))
  | active (s : UUID) : .seat s ∈ Λ → Wants a d Λ (.activeSeat s)
  | hold (q : ReservationSeat) : q ∈ d.reservationSeats → q.seatId ∈ a.orderedSeatIds →
      (q.status = .reserved → a.now < q.expiresAt) → (∀ s ∈ a.orderedSeatIds, .seat s ∈ Λ) →
      Wants a d Λ (.reservationSeat q.id)

/-- Every statement of a seat request. -/
def guard (a : SeatRequest) : Guard Database Write Lock where
  stmt d σ Λ := (∀ l ∈ σ.locks, a.Holds d σ.locks l) ∧ ∀ l ∈ Λ, a.Wants d σ.locks l
  commit _ _ := True

variable {a : SeatRequest} {d : Database} {Λ Λ' : List Lock} {l : Lock} {σ : Session}

theorem Holds.mono (h : a.Holds d Λ l) (hsub : Λ ⊆ Λ') : a.Holds d Λ' l := by
  cases h with
  | seat s => exact .seat s
  | parent r hr => exact .parent r hr
  | row q hq hst hle hl => exact .row q hq hst hle (hsub hl)
  | header h => exact .header h
  | key h => exact .key fun s hs => hsub (h s hs)
  | newRow n hn h => exact .newRow n hn h
  | active s h => exact .active s (hsub h)

theorem guard_nil (d : Database) (a : SeatRequest) : a.guard.stmt d ∅ [] :=
  ⟨by simp, by simp⟩

theorem guard_rest (h : ∀ l ∈ σ.locks, a.Holds d σ.locks l) : a.guard.stmt d σ [] :=
  ⟨h, by simp⟩

end SeatRequest

/-! ## Seat requests -/

section
variable {a : SeatRequest} {d : Database} {eventId : UUID} {seatIds ids : List UUID}
  {rows : List ReservationSeat} {held : List Reservation} {Λ Λ' : List Lock}

/-- Of strictly sorted ids, those locked are below the next one. -/
theorem lt_next_of_sorted {lock : UUID → Lock} {Λ Λ' : List Lock} (hinj : Function.Injective lock)
    (hs : ids.Pairwise (· < ·)) (hp : Λ ++ Λ' <+: ids.map lock) {s : UUID} (hl : lock s ∈ Λ') :
    ∀ l ∈ Λ, ∃ s' < s, l = lock s' := by
  obtain ⟨ids', hids, hΛ⟩ : ∃ ids', ids' <+: ids ∧ Λ ++ Λ' = ids'.map lock := by
    obtain ⟨rest, hrest⟩ := hp
    obtain ⟨l₁, l₂, rfl, h1, -⟩ := List.map_eq_append_iff.1 hrest.symm
    exact ⟨l₁, List.prefix_append _ _, h1.symm⟩
  obtain ⟨l₁, l₂, rfl, h1, h2⟩ := List.map_eq_append_iff.1 hΛ.symm
  obtain ⟨s₂, hs₂, heq⟩ := List.mem_map.1 (h2 ▸ hl)
  obtain rfl := hinj heq
  intro l hl
  obtain ⟨s₁, hs₁, rfl⟩ := List.mem_map.1 (h1 ▸ hl)
  exact ⟨s₁, (List.pairwise_append.1 (hs.sublist hids.sublist)).2.2 s₁ hs₁ s₂ hs₂, rfl⟩

theorem sorted_insertionSort {l : List UUID} (h : l.Nodup) :
    (l.insertionSort (· ≤ ·)).Pairwise (· < ·) := by
  have hn : (l.insertionSort (· ≤ ·)).Nodup := (List.perm_insertionSort _ l).nodup_iff.2 h
  exact (List.pairwise_insertionSort (· ≤ ·) l).imp₂ (fun x y hle hne => lt_of_le_of_ne hle hne) hn

theorem eventSeats_sorted (hi : Inv d) (eventId : UUID) (seatIds : List UUID) :
    (d.eventSeats eventId seatIds).Pairwise (· < ·) :=
  sorted_insertionSort (hi.seatIds.sublist (List.filter_sublist.map _))

theorem staleHolders_sorted (d : Database) (seatIds : List UUID) (now : Instant) :
    (d.staleHolders seatIds now).Pairwise (· < ·) :=
  sorted_insertionSort (List.nodup_dedup _)

/-- Locking the seats. -/
theorem guard_seats {τ : Session} (hs : ids.Pairwise (· < ·)) (hp : τ.locks ++ Λ' <+: ids.map .seat)
    (hw : Λ ⊆ τ.locks ++ Λ') : a.guard.stmt d τ Λ := by
  have hseat : ∀ l ∈ τ.locks ++ Λ', ∃ s, l = .seat s := fun l hl =>
    (List.mem_map.1 (hp.subset hl)).imp fun _ h => h.2.symm
  refine ⟨fun l hl => ?_, fun l hl => ?_⟩
  · obtain ⟨s, rfl⟩ := hseat l (List.mem_append_left _ hl)
    exact .seat s
  · rcases List.mem_append.1 (hw hl) with hl | hl
    · exact .held l hl
    · obtain ⟨s, rfl⟩ := hseat l (List.mem_append_right _ hl)
      exact .seat s (lt_next_of_sorted (fun _ _ h => Lock.seat.inj h) hs hp hl)

/-- Locking the reservations that were found. -/
theorem guard_found {τ : Session} {now : Instant} (hd : Found eventId seatIds now ids d)
    (hs : ids.Pairwise (· < ·)) (hσ : seatIds.map .seat <+: τ.locks)
    (hp : τ.locks ++ Λ' <+: foundLocks seatIds ids) (hw : Λ ⊆ τ.locks ++ Λ') :
    a.guard.stmt d τ Λ := by
  obtain ⟨Λ₁, hτ⟩ := hσ
  rw [← hτ, List.append_assoc] at hp
  have hp₁ : Λ₁ ++ Λ' <+: ids.map .reservation := (List.prefix_append_right_inj _).1 hp
  have hparent : ∀ x ∈ ids, ∃ r ∈ d.reservations, r.id = x := fun x hx => by
    obtain ⟨r, hr, hid, -⟩ := hd.lapsed.parent hd.inv hx
    exact ⟨r, hr, hid⟩
  have hres : ∀ l ∈ Λ₁ ++ Λ', ∃ r ∈ d.reservations, l = .reservation r.id := by
    intro l hl
    obtain ⟨x, hx, rfl⟩ := List.mem_map.1 (hp₁.subset hl)
    obtain ⟨r, hr, rfl⟩ := hparent x hx
    exact ⟨r, hr, rfl⟩
  refine ⟨fun l hl => ?_, fun l hl => ?_⟩
  · rw [← hτ] at hl
    rcases List.mem_append.1 hl with hl | hl
    · obtain ⟨s, -, rfl⟩ := List.mem_map.1 hl
      exact .seat s
    · obtain ⟨r, hr, rfl⟩ := hres l (List.mem_append_left _ hl)
      exact .parent r hr
  · rcases List.mem_append.1 (hw hl) with hl | hl
    · exact .held l hl
    · obtain ⟨r, hr, rfl⟩ := hres l (List.mem_append_right _ hl)
      refine .parent r hr fun m hm => ?_
      rw [← hτ] at hm
      rcases List.mem_append.1 hm with hm | hm
      · obtain ⟨s, -, rfl⟩ := List.mem_map.1 hm
        exact Or.inl ⟨s, rfl⟩
      · exact Or.inr (lt_next_of_sorted (fun _ _ h => Lock.reservation.inj h) hs hp₁ hl m hm)

/-- A row of a reservation that was found has lapsed. -/
theorem Found.expiresAt_le {now : Instant} (hd : Found eventId seatIds now ids d)
    {q : ReservationSeat} (hq : q ∈ d.reservationSeats) (hx : q.reservationId ∈ ids) :
    q.expiresAt ≤ now := by
  obtain ⟨q', hq', hid, -, hle⟩ := hd.lapsed.had _ hx
  obtain ⟨r, hr, hrq, -, -, he, -⟩ := hd.inv.seat q hq
  obtain ⟨r', hr', hrq', -, -, he', -⟩ := hd.inv.seat q' hq'
  obtain rfl := hd.inv.eq_of_id hr hr' (hrq.trans (hid.symm.trans hrq'.symm))
  rwa [he, ← he']

/-- The locks of the session that has expired the holds. -/
theorem holds_cleared (hd : FoundLocked eventId seatIds a.now ids rows held d)
    (hsub : foundLocks seatIds ids ⊆ Λ) {l : Lock}
    (hl : l ∈ (clearedSession seatIds ids rows held).locks) : a.Holds d Λ l ∧ a.Wants d Λ l := by
  rcases List.mem_append.1 hl with hl | hl
  · rcases List.mem_append.1 hl with hl | hl
    · refine ⟨?_, .held l (hsub hl)⟩
      rcases List.mem_append.1 hl with hl | hl
      · obtain ⟨s, -, rfl⟩ := List.mem_map.1 hl
        exact .seat s
      · obtain ⟨x, hx, rfl⟩ := List.mem_map.1 hl
        obtain ⟨r, hr, rfl, -⟩ := hd.lapsed.parent hd.inv hx
        exact .parent r hr
    · obtain ⟨q, hq, rfl⟩ := List.mem_map.1 hl
      rw [← hd.rows] at hq
      obtain ⟨hqm, hp⟩ := List.mem_filter.1 hq
      simp only [Bool.and_eq_true, decide_eq_true_eq] at hp
      have hparent : Lock.reservation q.reservationId ∈ Λ :=
        hsub (List.mem_append_right _ (List.mem_map_of_mem hp.1))
      exact ⟨.row q hqm hp.2 (hd.toFound.expiresAt_le hqm hp.1) hparent, .child q hqm hparent⟩
  · obtain ⟨r, hr, rfl⟩ := List.mem_map.1 hl
    rw [← hd.held] at hr
    obtain ⟨hrm, hp⟩ := List.mem_filter.1 hr
    simp only [Bool.and_eq_true, decide_eq_true_eq] at hp
    exact ⟨.parent r hrm, .held _ (hsub (List.mem_append_right _ (List.mem_map_of_mem hp.1)))⟩

/-- **Expiring the lapsed holds**, with the seats locked. -/
theorem always_expireReservationsForSeats {Q : Except Error Unit → Database → Session → Prop}
    (hQ : ∀ live σ K d, Cleared eventId seatIds a.now live σ K →
      (∀ d, K d → ∀ l ∈ σ.locks, a.Holds d σ.locks l) → Inv d → K d → Q (.ok ()) d σ)
    (hi : Inv d) (hd : d.eventSeats eventId seatIds = seatIds) :
    always protocol a.guard (expireReservationsForSeats seatIds a.now) Q d
      ⟨[], seatIds.map .seat⟩ := by
  have hseats : ∀ {d : Database}, ∀ l ∈ seatIds.map Lock.seat, a.Holds d (seatIds.map .seat) l := by
    intro d l hl
    obtain ⟨s, -, rfl⟩ := List.mem_map.1 hl
    exact .seat s
  refine always_bind (always_ofPlan (keeps_eventSeats _ eventId seatIds) (fun d hi hd => ?_) hi hd)
  refine ⟨⟨hseats, by simp⟩, ?_⟩
  simp only [Session.view_nil, List.append_nil]
  have hsorted := staleHolders_sorted d seatIds a.now
  have hfound : Found eventId seatIds a.now (d.staleHolders seatIds a.now) d :=
    ⟨hi, hd, lapsed_staleHolders seatIds a.now d⟩
  by_cases hnil : d.staleHolders seatIds a.now = []
  · simp only [eq_true hnil, if_true]
    rw [hnil] at hfound
    exact hQ [] _ _ d cleared_nil (fun _ _ => hseats) hi hfound
  · simp only [eq_false hnil, if_false]
    refine always_bind (settled_lockFound.always (keeps_found (List.Subset.refl _))
      (fun d τ Λ Λ' _ hd hσ hp hw => guard_found hd hsorted hσ hp hw) (fun d hi hd => ?_) hi hfound)
    refine settled_expireFound.always (keeps_foundLocked (List.Subset.refl _))
      (fun d τ Λ Λ' _ hd hσ hp hw => ?_) (fun e hi he => ?_) hi ⟨hd, rfl, rfl⟩
    · exact ⟨fun l hl => (holds_cleared hd hσ.subset (hp.subset (List.mem_append_left _ hl))).1,
        fun l hl => (holds_cleared hd hσ.subset (hp.subset (hw hl))).2⟩
    · refine hQ _ _ _ e (cleared_found (nodup_heldReservations hd.inv)) ?_ hi he
      exact fun d hd l hl => (holds_cleared hd (by simp [clearedSession]) hl).1

/-- One flushed `INSERT`. -/
theorem always_flushInsert {fits : Database → Prop} [DecidablePred fits]
    {waits : Database → List Lock} {takes : List Lock} {write : Write} {σ : Session}
    {K : Database → Prop} {Q : Except Error Unit → Database → Session → Prop}
    (hK : protocol.Keeps σ.locks K) (hholds : ∀ d, K d → ∀ l ∈ σ.locks, a.Holds d σ.locks l)
    (hok : ∀ d, Inv d → K d → fits (σ.view d) → (∀ l ∈ takes, a.Wants d σ.locks l) ∧
      Q (.ok ()) d ⟨σ.writes ++ [write], σ.locks ++ takes⟩)
    (hbad : ∀ d, Inv d → K d → ¬ fits (σ.view d) → ∀ l ∈ waits (σ.view d), a.Wants d σ.locks l)
    (hQ : ∀ d, Inv d → Q (.error .integrityError) d ∅) (hi : Inv d) (hk : K d) :
    always protocol a.guard (flushInsert fits waits takes write) Q d σ := by
  refine always_bind (always_ofPlan hK (fun d hi hk => ?_) hi hk)
  by_cases hf : fits (σ.view d)
  · obtain ⟨hw, hq⟩ := hok d hi hk hf
    simp only [hf, if_true, List.nil_append]
    exact ⟨⟨hholds d hk, hw⟩, hq⟩
  · simp only [hf, if_false, List.append_nil]
    refine ⟨⟨hholds d hk, hbad d hi hk hf⟩, always_bind ?_⟩
    exact always_rollback hK (fun d _ hk => SeatRequest.guard_rest (hholds d hk))
      (fun d hi _ => hQ d hi) hi hk

/-- The request has inserted its header `x` and the rows `done`. -/
structure Inserting (a : SeatRequest) (x : Reservation) (live : List UUID)
    (done : List ReservationSeat) (σ : Session) (K : Database → Prop) : Prop where
  keeps : protocol.Keeps σ.locks K
  seats : ∀ s ∈ a.orderedSeatIds, .seat s ∈ σ.locks
  view : ∀ d, K d → σ.view d = (d.expireSeats live).addSeats x done
  stale : ∀ d, K d → ∀ y, y ∈ live ↔ y ∈ d.staleHolders a.orderedSeatIds a.now
  holds : ∀ d, K d → ∀ l ∈ σ.locks, a.Holds d σ.locks l
  done : ∀ q ∈ done, .reservationSeat q.id ∈ σ.locks

/-- A row that fits has a new id. -/
theorem fits_id_ne {live : List UUID} {x : Reservation} {done : List ReservationSeat}
    {r : ReservationSeat} (h : r.Fits ((d.expireSeats live).addSeats x done)) :
    ∀ q ∈ d.reservationSeats, q.id ≠ r.id := by
  intro q hq
  have := h.id _ (List.mem_append_left _ (List.mem_map_of_mem hq))
  split_ifs at this <;> exact this

/-- **The `INSERT`s of the seat rows** wait only for live holds. -/
theorem always_insertReservationSeats {x : Reservation} {live : List UUID}
    (done : List ReservationSeat) {rows : List ReservationSeat} {σ : Session} {K : Database → Prop}
    {Q : Except Error Unit → Database → Session → Prop} (h : Inserting a x live done σ K)
    (hrows : ∀ r ∈ rows, (∃ n ≤ a.orderedSeatIds.length, r.id = a.uuid4 n) ∧
      r.seatId ∈ a.orderedSeatIds)
    (hQ : ∀ d σ K, protocol.Keeps σ.locks K → Inv d → K d → Q (.ok ()) d σ)
    (hbad : ∀ d, Inv d → Q (.error .integrityError) d ∅) (hi : Inv d) (hk : K d) :
    always protocol a.guard (insertReservationSeats rows) Q d σ := by
  induction rows generalizing done σ K d with
  | nil => exact hQ d σ K h.keeps hi hk
  | cons r rows ih =>
    obtain ⟨⟨n, hn, hid⟩, hseat⟩ := hrows r List.mem_cons_self
    refine always_bind (always_flushInsert h.keeps h.holds (fun d hi hk hf => ⟨?_, ?_⟩)
      (fun d hi hk _ => ?_) hbad hi hk)
    · rw [h.view d hk] at hf
      have hnew := fits_id_ne hf
      simp only [List.mem_cons, List.not_mem_nil, or_false, forall_eq_or_imp, forall_eq]
      exact ⟨hid ▸ .newRow n hn (hid ▸ hnew), .active _ (h.seats _ hseat)⟩
    · rw [h.view d hk] at hf
      have hid' : Lock.reservationSeat r.id ∈
          σ.locks ++ [Lock.reservationSeat r.id, Lock.activeSeat r.seatId] := by simp
      refine ih (done ++ [r]) (K := fun d => K d ∧ ∀ q ∈ d.reservationSeats, q.id ≠ r.id)
        ⟨?_, fun s hs => List.mem_append_left _ (h.seats s hs), fun d hd => ?_,
          fun d hd => h.stale d hd.1, fun d hd l hl => ?_, fun q hq => ?_⟩
        (fun q hq => hrows q (List.mem_cons_of_mem _ hq)) hi ⟨hk, fits_id_ne hf⟩
      · exact (h.keeps.mono (List.subset_append_left _ _)).and (keeps_seatRowId hid')
      · rw [Session.view_snoc, h.view d hd.1]
        simp [Database.addSeats]
      · rcases List.mem_append.1 hl with hl | hl
        · exact (h.holds d hd.1 l hl).mono (List.subset_append_left _ _)
        · simp only [List.mem_cons, List.not_mem_nil, or_false] at hl
          rcases hl with rfl | rfl
          · rw [hid]
            exact .newRow n hn (hid ▸ hd.2)
          · exact .active _ (List.mem_append_left _ (h.seats _ hseat))
      · rcases List.mem_append.1 hq with hq | hq
        · exact List.mem_append_left _ (h.done q hq)
        · obtain rfl := List.mem_singleton.1 hq
          exact hid'
    · intro l hl
      obtain ⟨q, hq, rfl⟩ := List.mem_map.1 hl
      obtain ⟨hqm, hp⟩ := List.mem_filter.1 hq
      simp only [Bool.and_eq_true, decide_eq_true_eq] at hp
      rw [h.view d hk, Database.addSeats_reservationSeats, List.mem_append] at hqm
      rcases hqm with hqm | hqm
      · obtain ⟨q, hqd, rfl⟩ := List.mem_map.1 hqm
        -- an active row is not one that the request has expired
        by_cases hlive : q.reservationId ∈ live
        · simp [hlive] at hp
        · simp only [if_neg hlive] at hp ⊢
          refine .hold q hqd (hp.2 ▸ hseat) (fun hst => ?_) h.seats
          by_contra hle
          exact hlive ((h.stale d hk _).2 (mem_staleHolders.2
            ⟨q, hqd, rfl, hp.2 ▸ hseat, hst, not_lt.1 hle⟩))
      · exact .held _ (h.done q hqm)

/-- **The `INSERT`s and the commit.** -/
theorem always_createSeats {x : Reservation} {live : List UUID} {rows : List ReservationSeat}
    {σ : Session} {K : Database → Prop}
    {Q : Except Error SeatReservationResponse → Database → Session → Prop}
    (hid : x.id = a.uuid4 0) (hv : x.visitorSessionId = a.visitorSessionId)
    (hkey : x.idempotencyKey = a.idempotencyKey)
    (hrows : ∀ r ∈ rows, (∃ n ≤ a.orderedSeatIds.length, r.id = a.uuid4 n) ∧
      r.seatId ∈ a.orderedSeatIds)
    (hc : Cleared eventId a.orderedSeatIds a.now live σ K)
    (hholds : ∀ d, K d → ∀ l ∈ σ.locks, a.Holds d σ.locks l)
    (hQ : ∀ r d, Q (.ok r) d ∅) (hbad : ∀ d, Inv d → Q (.error .integrityError) d ∅) (hi : Inv d)
    (hk : K d) : always protocol a.guard (SeatReservationService.create x rows) Q d σ := by
  refine always_bind (always_flushInsert hc.keeps hholds (fun d hi hk hf => ⟨?_, ?_⟩)
    (fun d _ _ _ => by simp) hbad hi hk)
  · rw [hc.view d hk, Reservation.fits_expireSeats] at hf
    simp only [List.mem_cons, List.not_mem_nil, or_false, forall_eq_or_imp, forall_eq]
    rw [hid, hv, hkey]
    exact ⟨.header (hid ▸ hf.id), .key hc.seats⟩
  · rw [hc.view d hk, Reservation.fits_expireSeats] at hf
    have hsub := List.subset_append_left σ.locks [.reservation x.id,
      .visitorKey x.visitorSessionId x.idempotencyKey]
    have hins : Inserting a x live [] ⟨σ.writes ++ [.insertReservation x],
        σ.locks ++ [.reservation x.id, .visitorKey x.visitorSessionId x.idempotencyKey]⟩
        fun d => K d ∧ x.Fits d := by
      refine ⟨(hc.keeps.mono hsub).and (keeps_fits (by simp) (by simp)),
        fun s hs => hsub (hc.seats s hs), fun d hd => ?_, fun d hd => hc.stale d hd.1,
        fun d hd l hl => ?_, by simp⟩
      · rw [Session.view_snoc, hc.view d hd.1]
        simp [Database.addSeats]
      · rcases List.mem_append.1 hl with hl | hl
        · exact (hholds d hd.1 l hl).mono hsub
        · simp only [List.mem_cons, List.not_mem_nil, or_false] at hl
          rcases hl with rfl | rfl
          · rw [hid]
            exact .header (hid ▸ hd.2.id)
          · rw [hv, hkey] at hsub ⊢
            exact .key fun s hs => hsub (hc.seats s hs)
    refine always_bind (always_insertReservationSeats [] hins hrows (fun d σ K hK hi hk => ?_) hbad hi
      ⟨hk, hf⟩)
    exact always_bind (always_commitTx hK (fun d _ _ => ⟨trivial, hQ _ _⟩) hi hk)

/-- A look-up, with the guard of a call that holds nothing. -/
theorem always_lookup {G : Guard Database Write Lock} {β : Type} {query : Database → Except Error β}
    {Q : Except Error β → Database → Session → Prop} (hG : ∀ d, G.stmt d ∅ [])
    (hQ : ∀ d, Inv d → Q (query d) d ∅) (hi : Inv d) :
    always protocol G (executeOrRaise fun d => { result := query d }) Q d ∅ := by
  refine always_bind (always_ofPlan (K := fun _ => True) .const
    (fun d hi _ => ⟨hG d, ?_⟩) hi trivial)
  have := hQ d hi
  simp only [Session.view_empty, Session.empty_writes, Session.empty_locks, List.append_nil,
    Session.mk_nil]
  cases hq : query d with
  | ok b => rwa [hq] at this
  | error e => rwa [hq] at this

theorem always_resolve {G : Guard Database Write Lock} {ρ β : Type}
    {query : Database → Except Error (Option ρ)} {toResponse : ρ → β} {conflict : Error}
    {Q : Except Error β → Database → Session → Prop} (hG : ∀ d, G.stmt d ∅ [])
    (hQ : ∀ r d, Q r d ∅) (hi : Inv d) : always protocol G
      (resolveConflictOrReplayBy (executeOrRaise fun d => { result := query d }) toResponse conflict)
      Q d ∅ := by
  have hrollback : ∀ {Q : Except Error Unit → Database → Session → Prop} {d : Database},
      (∀ d, Inv d → Q (.ok ()) d ∅) → Inv d →
      always protocol G (Prog.rollback : Tx Unit) Q d ∅ := fun hQ hi =>
    always_rollback (K := fun _ => True) .const (fun d _ _ => hG d)
      (fun d hi _ => hQ d hi) hi trivial
  refine always_bind (hrollback (fun d hi => ?_) hi)
  refine always_bind (always_lookup hG (fun d hi => ?_) hi)
  cases query d with
  | error e => exact hQ _ d
  | ok o =>
    cases o with
    | some existing => exact hQ _ d
    | none => exact always_bind (hrollback (fun d _ => hQ _ d) hi)

end

/-- The seat request of a call. -/
def Call.seatRequest? : Call → Option SeatRequest
  | .reserveSeats visitorSession payload uuid4 now =>
    some ⟨visitorSession.id, payload.idempotencyKey, payload.seatIds.insertionSort (· ≤ ·), uuid4, now⟩
  | _ => none

/-- **All statements of a seat request are guarded.** -/
theorem SeatRequest.always_reserve {settings : Settings} {c : Call} {a : SeatRequest} {d : Database}
    (hc : c.seatRequest? = some a) (hi : Inv d) :
    always protocol a.guard (c.prog settings) (fun _ _ _ => True) d ∅ := by
  cases c with
  | reserveSeats visitorSession payload uuid4 now =>
    obtain rfl := Option.some.inj hc
    refine always_bind (always_mono (Q := fun _ _ _ => True) (fun r d σ _ => by cases r <;> trivial) ?_)
    refine always_bind (always_lookup (fun d => guard_nil d _) (fun d hi => ?_) hi)
    cases hq : d.seatLookup visitorSession.id payload.idempotencyKey with
    | error e => trivial
    | ok o =>
      cases o with
      | some existing => trivial
      | none =>
        have hsorted := eventSeats_sorted hi payload.eventId (payload.seatIds.insertionSort (· ≤ ·))
        refine always_bind (settled_lockEventSeats.always (keeps_seats ∅ d)
          (fun e τ Λ Λ' _ _ _ hp hw => guard_seats hsorted hp hw) (fun e he hed => ?_) hi rfl)
        have heq := eventSeats_congr hed payload.eventId (payload.seatIds.insertionSort (· ≤ ·))
        by_cases hs : d.eventSeats payload.eventId (payload.seatIds.insertionSort (· ≤ ·)) =
          payload.seatIds.insertionSort (· ≤ ·)
        · simp only [hs, ne_eq, not_true, if_false]
          refine always_bind (always_expireReservationsForSeats (fun live σ K e hc hholds he hk => ?_) he
            (heq.trans hs))
          refine always_tryCatch (always_createSeats rfl rfl rfl (fun r hr => ?_) hc hholds
            (fun _ _ => trivial) (fun e he => ?_) he hk)
          · have hseat := (SeatReservationService.newSeats_mem hr).2.2.2
            obtain ⟨n, hn, rfl⟩ := List.mem_mapIdx.1 hr
            exact ⟨⟨n + 1, hn, rfl⟩, hseat⟩
          · simp only [if_true]
            exact always_resolve (fun d => guard_nil d _) (fun _ _ => trivial) he
        · simp only [hs, ne_eq, not_false_eq_true, if_true]
          refine always_bind (always_rollback (K := fun _ => True) .const
            (fun e _ _ => guard_rest fun l hl => ?_) (fun _ _ _ => trivial) he trivial)
          obtain ⟨s, -, rfl⟩ := List.mem_map.1 hl
          exact .seat s
  | _ => cases hc

/-! ## `cancel` and `confirm` -/

/-- Every statement of `cancel` and `confirm`: nothing is held yet, or the locks held and wanted
    are those of the reservation and its children. -/
def moveGuard (reservationId : UUID) : Guard Database Write Lock where
  stmt d σ Λ := (σ.locks = [] ∧ ∀ l ∈ Λ, l = .reservation reservationId) ∨
    ∃ w : Whole, w.In d ∧ w.reservation.id = reservationId ∧
      .reservation w.reservation.id ∈ σ.locks ∧ σ.locks ⊆ w.locks ∧ Λ ⊆ w.locks
  commit _ _ := True

section
variable {s : ReservationStatus} {now : Instant} {w : Whole} {d : Database} {reservationId : UUID}

open ReservationLifecycleService

theorem Whole.reservation_mem_locks (w : Whole) : .reservation w.reservation.id ∈ w.locks :=
  List.mem_append_right _ (List.mem_singleton_self _)

theorem keeps_inv_in {Λ : List Lock} (hl : .reservation w.reservation.id ∈ Λ) :
    protocol.Keeps Λ fun d => Inv d ∧ w.In d :=
  Protocol.Keeps.inv.and (Whole.keeps_in hl)

/-- What is settled once the reservation is locked takes the locks of its children only. -/
theorem always_settled {α : Type} {p : Tx α} {r : Except Error α} {σ σ' : Session}
    {Q : Except Error α → Database → Session → Prop}
    (hp : Settled (fun d => Inv d ∧ w.In d) p σ r σ') (hid : w.reservation.id = reservationId)
    (hl : .reservation w.reservation.id ∈ σ.locks) (hsub : σ'.locks ⊆ w.locks)
    (hQ : ∀ d, Inv d → w.In d → Q r d σ') (hi : Inv d) (hw : w.In d) :
    always protocol (moveGuard reservationId) p Q d σ := by
  refine hp.always (keeps_inv_in hl) (fun d τ Λ Λ' _ hd hσ hτ hΛ => ?_)
    (fun d _ hd => hQ d hd.1 hd.2) hi ⟨hi, hw⟩
  exact Or.inr ⟨w, hd.2, hid, hσ.subset hl, fun l hl => hsub (hτ.subset (List.mem_append_left _ hl)),
    fun l hl => hsub (hτ.subset (hΛ hl))⟩

/-- A call that has locked the reservation gives it up. -/
theorem always_giveUp {α : Type} {k : Unit → Tx α} (hid : w.reservation.id = reservationId)
    (hk : ∀ d, always protocol (moveGuard reservationId) (k ()) (fun _ _ _ => True) d ∅) (hi : Inv d)
    (hw : w.In d) : always protocol (moveGuard reservationId) (Prog.rollback.bind k)
      (fun _ _ _ => True) d ⟨[], [.reservation w.reservation.id]⟩ := by
  refine always_bind (always_rollback (keeps_inv_in List.mem_cons_self) (fun d _ hd => ?_)
    (fun d _ _ => hk d) hi ⟨hi, hw⟩)
  exact Or.inr ⟨w, hd.2, hid, List.mem_cons_self,
    List.cons_subset.2 ⟨w.reservation_mem_locks, List.nil_subset _⟩, List.nil_subset _⟩

/-- A locked reservation is moved with the locks of its children. -/
theorem always_moveLocked (hid : w.reservation.id = reservationId) (hi : Inv d) (hw : w.In d) :
    always protocol (moveGuard reservationId) (moveLocked s now w.reservation) (fun _ _ _ => True) d
      ⟨[], [.reservation w.reservation.id]⟩ := by
  have hself : [Lock.reservation w.reservation.id] ⊆ w.locks :=
    List.cons_subset.2 ⟨w.reservation_mem_locks, List.nil_subset _⟩
  have hall : [Lock.reservation w.reservation.id] ++ w.locks ⊆ w.locks :=
    List.append_subset.2 ⟨hself, List.Subset.refl _⟩
  have htransition := fun (s' : ReservationStatus) (hr : w.reservation.status = .reserved) =>
    settled_transition (σ := ⟨[], [.reservation w.reservation.id]⟩) s' rfl (fun _ h => h)
      ⟨d, hi, hw⟩ hr
  unfold moveLocked
  split_ifs with h1 h2 h3
  · exact always_bind (always_settled (settled_toDetailResponse (w := w) fun d hd => hd.2) hid
      List.mem_cons_self hself (fun d hi hw => always_giveUp hid (fun _ => trivial) hi hw) hi hw)
  · exact always_giveUp hid (fun _ => trivial) hi hw
  · refine always_bind (always_settled (htransition .expired (not_not.1 h2)) hid List.mem_cons_self
      hall (fun d hi hw => ?_) hi hw)
    exact always_bind (always_commitTx (keeps_inv_in (by simp)) (fun _ _ _ => ⟨trivial, trivial⟩) hi
      ⟨hi, hw⟩)
  · refine always_bind (always_settled (htransition s (not_not.1 h2)) hid List.mem_cons_self hall
      (fun d hi hw => ?_) hi hw)
    refine always_bind (always_settled (settled_detail_after s fun _ h => h) hid (by simp) hall
      (fun d hi hw => ?_) hi hw)
    exact always_bind (always_commitTx (keeps_inv_in (by simp)) (fun _ _ _ => ⟨trivial, trivial⟩) hi
      ⟨hi, hw⟩)

/-- **All statements of `cancel` and `confirm` are guarded.** -/
theorem always_moveTo {visitorSession : VisitorSession} (f : ReservationDetailResponse → Response)
    (hi : Inv d) : always protocol (moveGuard reservationId)
      (Prog.map f (moveTo s reservationId visitorSession now)) (fun _ _ _ => True) d ∅ := by
  have htrue : protocol.Keeps [] fun _ => True := .const
  refine always_bind (always_mono (Q := fun _ _ _ => True) (fun r d σ _ => by cases r <;> trivial) ?_)
  refine always_bind (always_bind (always_ofPlan htrue (fun d hi _ => ?_) hi trivial))
  simp only [if_true, Session.view_empty, Session.empty_writes, Session.empty_locks, List.nil_append]
  cases hx : d.ownedReservation reservationId visitorSession.id visitorSession.userId with
  | none =>
    refine ⟨Or.inl ⟨rfl, by simp⟩, always_bind (always_rollback htrue
      (fun d _ _ => Or.inl ⟨rfl, by simp⟩) (fun _ _ _ => trivial) hi trivial)⟩
  | some x =>
    obtain ⟨hxm, hid, -⟩ := (ownedReservation_eq_some hi).1 hx
    refine ⟨Or.inl ⟨rfl, by simp [hid]⟩, ?_⟩
    exact always_moveLocked (w := .of d x) hid hi (Whole.of_in hi hxm)

end

end TicketReservation
