/-
  Calls that deal with seats and wait for each other.

  The seat requests lock what they need in the order of `SeatRequest.Wants`;
  `cancel`, `confirm` and the workers want nothing that a waiting call holds
  once they have locked their reservations (`Waiting`).  What is left are two
  requests with the same visitor and key and no common seat: the one that has
  inserted its reservation may wait for a hold that the other one has expired,
  and the other one for the (visitor, key) entry (`seat_transactions_deadlocked`).

  * `seat_transactions_not_deadlocked`: the calls do not deadlock, as long as such
    requests agree on which holds have lapsed (`Agreeing`).
-/
import TicketReservation.SeatLocks
import TicketReservation.Deadlock
import Mathlib.Data.Prod.Lex

namespace TicketReservation

open Txn Relation

/-! ## What a waiting call holds and wants -/

/-- The call holds locks of the seat reservations `ws` and of their rows only, and wants no others. -/
structure OnWholes (d : Database) (s : CallStatus) (ws : List Whole) : Prop where
  mem : ∀ w ∈ ws, w.In d
  seats : ∀ w ∈ ws, w.reservation.reservationType = .seats
  parent : ∀ w ∈ ws, .reservation w.reservation.id ∈ s.locks
  locks : s.locks ⊆ ws.flatMap Whole.locks
  wants : s.wants d ⊆ ws.flatMap Whole.locks

/-- **What a waiting call holds and wants.** -/
inductive Waiting (d : Database) (c : Call) (s : CallStatus) : Prop
  | request (a : SeatRequest) : c.seatRequest? = some a → (∀ l ∈ s.locks, a.Holds d s.locks l) →
      (∀ l ∈ s.wants d, a.Wants d s.locks l) → Waiting d c s
  | idle : s.locks = [] → (∀ l ∈ s.wants d, ∃ x, l = .reservation x) → Waiting d c s
  | wholes (ws : List Whole) : OnWholes d s ws → Waiting d c s

section
variable {settings : Settings} {d : Database} {c : Call} {s : CallStatus} {ws : List Whole}

/-- The locks of seat reservations. -/
theorem OnWholes.cases (h : OnWholes d s ws) {l : Lock} (hl : l ∈ ws.flatMap Whole.locks) :
    ∃ w ∈ ws, l = .reservation w.reservation.id ∨
      ∃ q ∈ d.reservationSeats, q.reservationId = w.reservation.id ∧ l = .reservationSeat q.id := by
  obtain ⟨w, hw, hl⟩ := List.mem_flatMap.1 hl
  refine ⟨w, hw, ?_⟩
  rw [Whole.locks, h.seats w hw] at hl
  rcases List.mem_append.1 hl with hl | hl
  · obtain ⟨q, hq, rfl⟩ := List.mem_map.1 hl
    rw [← (h.mem w hw).seats, mem_orderBy] at hq
    obtain ⟨hqd, hid⟩ := List.mem_filter.1 hq
    exact Or.inr ⟨q, hqd, of_decide_eq_true hid, rfl⟩
  · exact Or.inl (List.mem_singleton.1 hl)

/-- A waiting call that has locked a row has locked its reservation. -/
theorem Waiting.parent (h : Waiting d c s) (hi : Inv d) {q : ReservationSeat}
    (hq : q ∈ d.reservationSeats) (hl : .reservationSeat q.id ∈ s.locks) :
    .reservation q.reservationId ∈ s.locks := by
  cases h with
  | request a hc hholds hwants =>
    generalize hx : Lock.reservationSeat q.id = x at hl
    cases hholds x hl with
    | row q' hq' _ _ hparent =>
      obtain rfl := Table.eq_of_key hi.seatRowIds hq hq' (Lock.reservationSeat.inj hx)
      exact hparent
    | newRow n _ hnew => exact absurd (Lock.reservationSeat.inj hx) (hnew q hq)
    | seat | parent | header | key | active => cases hx
  | idle h0 _ => simp [h0] at hl
  | wholes ws h =>
    obtain ⟨w, hw, hx | ⟨q', hq', hid, hx⟩⟩ := h.cases (h.locks hl)
    · cases hx
    · obtain rfl := Table.eq_of_key hi.seatRowIds hq hq' (Lock.reservationSeat.inj hx)
      exact hid ▸ h.parent w hw

/-- A reservation that a waiting call has locked is there, or the call creates it. -/
theorem Waiting.reservation (h : Waiting d c s) {x : UUID} (hl : .reservation x ∈ s.locks) :
    (∃ r ∈ d.reservations, r.id = x) ∨ ∃ a n, c.seatRequest? = some a ∧ x = a.uuid4 n := by
  cases h with
  | request a hc hholds hwants =>
    generalize hx : Lock.reservation x = m at hl
    cases hholds m hl with
    | parent r hr => exact Or.inl ⟨r, hr, (Lock.reservation.inj hx).symm⟩
    | header => exact Or.inr ⟨a, 0, hc, Lock.reservation.inj hx⟩
    | seat | row | key | newRow | active => cases hx
  | idle h0 _ => simp [h0] at hl
  | wholes ws h =>
    obtain ⟨w, hw, hx | ⟨q, -, -, hx⟩⟩ := h.cases (h.locks hl)
    · exact Or.inl ⟨_, (h.mem w hw).mem, (Lock.reservation.inj hx).symm⟩
    · cases hx

/-- So is a row. -/
theorem Waiting.reservationSeat (h : Waiting d c s) {x : UUID} (hl : .reservationSeat x ∈ s.locks) :
    (∃ q ∈ d.reservationSeats, q.id = x) ∨ ∃ a n, c.seatRequest? = some a ∧ x = a.uuid4 n := by
  cases h with
  | request a hc hholds hwants =>
    generalize hx : Lock.reservationSeat x = m at hl
    cases hholds m hl with
    | row q hq => exact Or.inl ⟨q, hq, (Lock.reservationSeat.inj hx).symm⟩
    | newRow n => exact Or.inr ⟨a, n, hc, Lock.reservationSeat.inj hx⟩
    | seat | parent | header | key | active => cases hx
  | idle h0 _ => simp [h0] at hl
  | wholes ws h =>
    obtain ⟨w, hw, hx | ⟨q, hq, -, hx⟩⟩ := h.cases (h.locks hl)
    · cases hx
    · exact Or.inl ⟨q, hq, (Lock.reservationSeat.inj hx).symm⟩

/-- Only seat requests take a seat, and they have locked it. -/
theorem Waiting.activeSeat (h : Waiting d c s) {x : UUID} (hl : .activeSeat x ∈ s.locks) :
    .seat x ∈ s.locks := by
  cases h with
  | request a hc hholds hwants =>
    generalize hx : Lock.activeSeat x = m at hl
    cases hholds m hl with
    | active y hy => exact Lock.activeSeat.inj hx ▸ hy
    | seat | parent | row | header | key | newRow => cases hx
  | idle h0 _ => simp [h0] at hl
  | wholes ws h =>
    obtain ⟨w, hw, hx | ⟨q, hq, -, hx⟩⟩ := h.cases (h.locks hl) <;> cases hx

/-- A seat request of this visitor and key that has locked its seats. -/
def HasSeats (c : Call) (s : CallStatus) (u : UUID) (k : String) (a : SeatRequest) : Prop :=
  c.seatRequest? = some a ∧ a.visitorSessionId = u ∧ a.idempotencyKey = k ∧
    ∀ x ∈ a.orderedSeatIds, .seat x ∈ s.locks

/-- Only seat requests hold the (visitor, key) entry, once they have locked their seats. -/
theorem Waiting.holds_key (h : Waiting d c s) {u : UUID} {k : String}
    (hl : .visitorKey u k ∈ s.locks) : ∃ a, HasSeats c s u k a := by
  cases h with
  | request a hc hholds hwants =>
    generalize hx : Lock.visitorKey u k = m at hl
    cases hholds m hl with
    | key hseats =>
      obtain ⟨rfl, rfl⟩ := Lock.visitorKey.inj hx
      exact ⟨a, hc, rfl, rfl, hseats⟩
    | seat | parent | row | header | newRow | active => cases hx
  | idle h0 _ => simp [h0] at hl
  | wholes ws h =>
    obtain ⟨w, hw, hx | ⟨q, hq, -, hx⟩⟩ := h.cases (h.locks hl) <;> cases hx

/-- Only they wait for it. -/
theorem Waiting.wants_key (h : Waiting d c s) {u : UUID} {k : String}
    (hl : .visitorKey u k ∈ s.wants d) : ∃ a, HasSeats c s u k a := by
  have hall := h
  cases h with
  | request a hc hholds hwants =>
    generalize hx : Lock.visitorKey u k = m at hl
    cases hwants m hl with
    | held _ hm => exact hall.holds_key (hx ▸ hm)
    | key hseats =>
      obtain ⟨rfl, rfl⟩ := Lock.visitorKey.inj hx
      exact ⟨a, hc, rfl, rfl, hseats⟩
    | seat | parent | child | header | newRow | active | hold => cases hx
  | idle _ hwants =>
    obtain ⟨x, hx⟩ := hwants _ hl
    cases hx
  | wholes ws h =>
    obtain ⟨w, hw, hx | ⟨q, hq, -, hx⟩⟩ := h.cases (h.wants hl) <;> cases hx

/-! ## Waits lead upwards -/

/-- How high a call with the clock reading `now` waits for a lock. -/
def waitHeight (d : Database) (now : Instant) : Lock → ℕ ×ₗ ℤ ×ₗ ℕ
  | .seat x => toLex (0, toLex ((x : ℤ), 0))
  | .reservation x => toLex (1, toLex ((x : ℤ), 0))
  | .reservationSeat x =>
    match d.reservationSeats.find? fun q => q.id = x with
    | some q =>
      if q.status = .reserved then toLex (2, toLex (q.expiresAt, 0)) else toLex (3, toLex (0, 0))
    | none => toLex (0, toLex (0, 0))
  | .visitorKey _ _ => toLex (2, toLex (now, 1))
  | _ => toLex (0, toLex (0, 0))

theorem find_row (hi : Inv d) {q : ReservationSeat} (hq : q ∈ d.reservationSeats) :
    d.reservationSeats.find? (fun r => r.id = q.id) = some q :=
  (Table.find?_eq_some_iff hi.seatRowIds (k := q.id) (fun b hb => of_decide_eq_true hb)).2
    ⟨hq, by simp⟩

/-- What a seat request holds is below its clock reading, but for the (visitor, key) entry. -/
theorem SeatRequest.Holds.height_le {a : SeatRequest} {Λ : List Lock} {l : Lock} (hi : Inv d)
    (h : a.Holds d Λ l) (now : Instant) :
    l = .visitorKey a.visitorSessionId a.idempotencyKey ∨
      waitHeight d now l ≤ toLex (2, toLex (a.now, 0)) := by
  cases h with
  | key => exact Or.inl rfl
  | row q hq hst hle =>
    refine Or.inr ?_
    simp only [waitHeight, find_row hi hq, hst, if_true, Prod.Lex.toLex_le_toLex]
    exact Or.inr ⟨trivial, hle.lt_or_eq.imp_right fun heq => ⟨heq, le_rfl⟩⟩
  | newRow n _ hnew =>
    have hnone : d.reservationSeats.find? (fun q => q.id = a.uuid4 n) = none := by simpa using hnew
    exact Or.inr (by simp [waitHeight, hnone, Prod.Lex.toLex_le_toLex])
  | seat | parent | header | active => exact Or.inr (by simp [waitHeight, Prod.Lex.toLex_le_toLex])

theorem height_lt_hold (hi : Inv d) {q : ReservationSeat} (hq : q ∈ d.reservationSeats)
    {t now' : Instant} (hlt : q.status = .reserved → t < q.expiresAt) (n : ℕ) :
    toLex (2, toLex (t, n)) < waitHeight d now' (.reservationSeat q.id) := by
  simp only [waitHeight, find_row hi hq]
  by_cases hst : q.status = .reserved
  · simp only [hst, if_true, Prod.Lex.toLex_lt_toLex]
    exact Or.inr ⟨trivial, Or.inl (hlt hst)⟩
  · simp only [hst, if_false, Prod.Lex.toLex_lt_toLex]
    exact Or.inl (by decide)

/-- The rows and reservations that a waiting call is at work on are locked by no other one. -/
theorem Waiting.not_mem_of_wholes {c' : Call} {s' : CallStatus} (h : Waiting d c' s') (hi : Inv d)
    (hw : OnWholes d s ws) (hdisj : s.locks.Disjoint s'.locks) {l : Lock} (hl : l ∈ s.wants d) :
    l ∉ s'.locks := by
  intro hl'
  obtain ⟨w, hmem, rfl | ⟨q, hq, hid, rfl⟩⟩ := hw.cases (hw.wants hl)
  · exact hdisj (hw.parent w hmem) hl'
  · exact hdisj (hw.parent w hmem) (hid ▸ h.parent hi hq hl')

/-- **A call that waits for a waiting one is waited for at a lower height.** -/
theorem Waiting.height_lt {c' : Call} {s' : CallStatus} {now now' : Instant} {l l' : Lock}
    (h : Waiting d c s) (h' : Waiting d c' s') (hi : Inv d) (hdisj : s.locks.Disjoint s'.locks)
    (hids : ∀ a b, c.seatRequest? = some a → c'.seatRequest? = some b → ∀ m n, a.uuid4 m ≠ b.uuid4 n)
    (hl : l ∈ s.locks) (hwant : l' ∈ s.wants d) (hl' : l' ∈ s'.locks)
    (hnow : ∀ a, c.seatRequest? = some a → a.now = now')
    (hkey : ∀ u k, l = .visitorKey u k → ∀ a, HasSeats c s u k a → ∀ q ∈ d.reservationSeats,
      q.seatId ∈ a.orderedSeatIds → q.status = .reserved → a.now < q.expiresAt → now < q.expiresAt) :
    waitHeight d now l < waitHeight d now' l' := by
  have hfree : l' ∉ s.locks := fun hm => hdisj hm hl'
  have hall := h
  cases h with
  | idle h0 _ => simp [h0] at hl
  | wholes ws hw => exact absurd hl' (h'.not_mem_of_wholes hi hw hdisj hwant)
  | request a hc hholds hwants =>
    have hle := (hholds l hl).height_le hi now
    cases hwants l' hwant with
    | held _ hm => exact absurd hm hfree
    | seat x hx =>
      obtain ⟨y, hy, rfl⟩ := hx l hl
      simp [waitHeight, Prod.Lex.toLex_lt_toLex, hy]
    | parent r hr hx =>
      rcases hx l hl with ⟨y, rfl⟩ | ⟨y, hy, rfl⟩
      · simp [waitHeight, Prod.Lex.toLex_lt_toLex]
      · simp [waitHeight, Prod.Lex.toLex_lt_toLex, hy]
    | child q hq hparent => exact absurd (h'.parent hi hq hl') (hdisj hparent)
    | header hnew =>
      -- nobody else draws this id
      rcases h'.reservation hl' with ⟨r, hr, hid⟩ | ⟨b, n, hb, hid⟩
      · exact absurd hid (hnew r hr)
      · exact absurd hid (hids a b hc hb 0 n)
    | newRow m _ hnew =>
      rcases h'.reservationSeat hl' with ⟨q, hq, hid⟩ | ⟨b, n, hb, hid⟩
      · exact absurd hid (hnew q hq)
      · exact absurd hid (hids a b hc hb m n)
    | active x hx => exact absurd (h'.activeSeat hl') (hdisj hx)
    | key hseats =>
      rcases hle with rfl | hle
      · exact absurd hl hfree
      · refine hle.trans_lt ?_
        simp [waitHeight, ← hnow a hc, Prod.Lex.toLex_lt_toLex]
    | hold q hq hseat hlive hseats =>
      rcases hle with rfl | hle
      · exact height_lt_hold hi hq (fun hst => hkey _ _ rfl a ⟨hc, rfl, rfl, hseats⟩ q hq hseat hst
          (hlive hst)) 1
      · exact hle.trans_lt (height_lt_hold hi hq hlive 0)

end

/-- A seat request, a `cancel` or `confirm` of a seat reservation, or a worker whose batch holds
    only seat reservations. -/
def SeatTransaction (d : Database) (t : Thread Call Database Write Lock Error Response) : Prop :=
  match t.call with
  | .reserveSeats _ _ _ _ => True
  | .cancel reservationId _ _ | .confirm reservationId _ _ =>
    ∀ r ∈ d.reservations, r.id = reservationId → r.reservationType = .seats
  | .expireBatch _ _ _ => ∀ r ∈ t.call.selection d t.status.locks, r.reservationType = .seats
  | _ => False

section
variable {settings : Settings} {d : Database} {cfg : ServiceConfig} {i : ℕ} {l : Lock} {ok}
  {t : Thread Call Database Write Lock Error Response}

/-- The calls of a kind whose programs are always guarded stay guarded. -/
theorem guarded_run {G : Guard Database Write Lock} (kind : Call → Prop)
    (hG : ∀ c d, kind c → Inv d → always protocol G (c.prog settings) (fun _ _ _ => True) d ∅)
    (h : Inv d) (r : Run.Where (Call.prog settings) ok (start d) cfg) (ht : cfg.threads[i]? = some t)
    (hc : kind t.call) : t.status.Always protocol G (fun _ => True) cfg.db := by
  refine System.threads_run (S := system settings) (A := fun c _ t =>
    kind t.call → t.status.Always protocol G (fun _ => True) c.db) ?_ ?_ ?_ ?_ h r i t ht hc
  · intro c c' call hi _ hact hc
    cases hact
    exact hG call _ hc hi
  · exact fun _ _ _ => trivial
  · exact fun _ _ hp hA hc => (hA hc).progress hp
  · exact fun _ _ _ _ hst hΛ hA hc => (hA hc).others hst hΛ

/-- A waiting `cancel` or `confirm` of a seat reservation. -/
theorem waiting_moveGuard {reservationId : UUID}
    (ha : t.status.Always protocol (moveGuard reservationId) (fun _ => True) d)
    (hs : ∀ r ∈ d.reservations, r.id = reservationId → r.reservationType = .seats)
    (hl : l ∈ t.status.wants d) : Waiting d t.call t.status := by
  obtain ⟨σ, hσ, hg⟩ := ha.wants hl
  rcases hg with ⟨h0, hwants⟩ | ⟨w, hw, hid, hown, hlocks, hwants⟩
  · exact .idle (hσ.trans h0) fun l hl => ⟨_, hwants l hl⟩
  · refine .wholes [w] ⟨?_, ?_, ?_, ?_, ?_⟩
    · exact List.forall_mem_singleton.2 hw
    · exact List.forall_mem_singleton.2 (hs _ hw.mem hid)
    · exact List.forall_mem_singleton.2 (hσ ▸ hown)
    · simpa [hσ] using hlocks
    · simpa using hwants

/-- A worker at work on seat reservations. -/
theorem Worker.waiting {batchSize : ℕ} {now : Instant} {reservationIds : Option (List UUID)}
    {ph : Phase} {s : CallStatus} {c : Call} (hi : Inv d)
    (h : Worker settings d batchSize now reservationIds ph s) (hsort : ph.Sorted)
    (hs : ∀ r ∈ (Call.expireBatch batchSize now reservationIds).selection d s.locks,
      r.reservationType = .seats) (hl : l ∈ s.wants d) : Waiting d c s := by
  have hsel := h
  cases h with
  | arrived | idle | committed | returned => cases hl
  | @busy ws p σ hne hb hpre hset =>
    rw [hsel.selection hi hsort] at hs
    have hsub : (expiredSession ws).locks ⊆ ws.flatMap Whole.locks := by
      refine List.append_subset.2 ⟨fun l hl => ?_, List.Subset.refl _⟩
      obtain ⟨w, hw, rfl⟩ := List.mem_map.1 hl
      exact List.mem_flatMap.2 ⟨w, hw, w.reservation_mem_locks⟩
    refine .wholes ws ⟨hb.mem, fun w hw => hs _ (List.mem_map_of_mem hw),
      fun w hw => hpre.subset (List.mem_map_of_mem hw), fun l hl => hsub (hset.locks.subset hl), ?_⟩
    rcases hset.wants (f := fun n => .commit (.ret (Response.count n))) ⟨hi, hb.mem⟩ with
      ⟨rfl, -⟩ | ⟨Λ, hwants, hnext⟩
    · cases hl
    · exact fun l hl => hsub (hnext.subset (hwants hl))

/-- **What a waiting seat transaction of a run holds and wants.** -/
theorem waiting_run (h : Inv d) (r : Run.Where (Call.prog settings) ok (start d) cfg)
    (ht : cfg.threads[i]? = some t) (hs : SeatTransaction cfg.db t)
    (hl : l ∈ t.status.wants cfg.db) : Waiting cfg.db t.call t.status := by
  have hi : Inv cfg.db := ServiceRun.inv h r
  unfold SeatTransaction at hs
  cases hc : t.call with
  | reserveSeats visitorSession payload uuid4 now =>
    have ha := guarded_run (· = t.call) (fun c d hkind hi =>
      SeatRequest.always_reserve (a := _) (by rw [hkind, hc]; rfl) hi) h r ht rfl
    obtain ⟨σ, hσ, hholds, hwants⟩ := ha.wants hl
    exact .request _ rfl (hσ ▸ hholds) (hσ ▸ hwants)
  | cancel reservationId visitorSession now =>
    rw [hc] at hs
    have ha := guarded_run (· = t.call) (fun c d hkind hi => by
      rw [hkind, hc]; exact always_moveTo _ hi) h r ht rfl
    exact hc ▸ waiting_moveGuard ha hs hl
  | confirm reservationId visitorSession now =>
    rw [hc] at hs
    have ha := guarded_run (· = t.call) (fun c d hkind hi => by
      rw [hkind, hc]; exact always_moveTo _ hi) h r ht rfl
    exact hc ▸ waiting_moveGuard ha hs hl
  | expireBatch batchSize now reservationIds =>
    rw [hc] at hs
    rcases sorted_worker h r ht hc with ha | ⟨ph, hw, hsort⟩
    · rw [ha] at hl
      cases hl
    · exact hw.waiting hi hsort hs hl
  | reserveQuantity | get =>
    rw [hc] at hs
    exact hs.elim

end

/-! ## When the calls do not deadlock -/

/-- If the requests have visitor and key, but no seat, in common, a hold on a seat of `b` that is live
    at its clock reading is live at that of `a`.  This excludes also holds that cannot be the cause
    of a deadlock: those of a reservation that has no seat of `a`. -/
def SeatRequest.Agrees (a b : SeatRequest) (d : Database) : Prop :=
  a.visitorSessionId = b.visitorSessionId → a.idempotencyKey = b.idempotencyKey →
    (∀ x ∈ a.orderedSeatIds, x ∉ b.orderedSeatIds) → ∀ q ∈ d.reservationSeats,
      q.seatId ∈ b.orderedSeatIds → q.status = .reserved → b.now < q.expiresAt → a.now < q.expiresAt

/-- **Running seat requests with the same visitor and key have a common seat or agree on which
    holds have lapsed.** -/
def Agreeing (cfg : ServiceConfig) : Prop :=
  ∀ (i j : ℕ) ti tj, i ≠ j → cfg.threads[i]? = some ti → cfg.threads[j]? = some tj →
    ti.status.isRunning → tj.status.isRunning → ∀ a ∈ ti.call.seatRequest?,
      ∀ b ∈ tj.call.seatRequest?, a.Agrees b cfg.db

/-- Different seat requests draw different ids. -/
def DistinctIds (cfg : ServiceConfig) : Prop :=
  ∀ (i j : ℕ) ti tj, i ≠ j → cfg.threads[i]? = some ti → cfg.threads[j]? = some tj →
    ∀ a ∈ ti.call.seatRequest?, ∀ b ∈ tj.call.seatRequest?, ∀ m n, a.uuid4 m ≠ b.uuid4 n

section
variable {settings : Settings} {d : Database} {cfg cfg' : ServiceConfig} {ok}
  {t t' : Thread Call Database Write Lock Error Response} {u : UUID} {k : String} {a b : SeatRequest}

theorem HasSeats.locks_ne_nil {c : Call} {s : CallStatus} (h : HasSeats c s u k a) :
    s.locks ≠ [] := by
  obtain ⟨hc, -, -, hseats⟩ := h
  cases c with
  | reserveSeats visitorSession payload uuid4 now =>
    obtain rfl := Option.some.inj hc
    obtain ⟨x, hx⟩ := List.exists_mem_of_ne_nil _ payload.seatIds_ne_nil
    exact List.ne_nil_of_mem (hseats x ((List.mem_insertionSort _).2 hx))
  | _ => cases hc

/-- What locked seats keep agreeing on. -/
theorem keeps_agrees {Λ : List Lock} {now now' : Instant} {seatIds : List UUID}
    (hl : ∀ x ∈ seatIds, .seat x ∈ Λ) : protocol.Keeps Λ fun d => ∀ q ∈ d.reservationSeats,
      q.seatId ∈ seatIds → q.status = .reserved → now < q.expiresAt → now' < q.expiresAt := by
  refine keeps_holds hl fun r r' hm h hr hlt => ?_
  rw [hm.same] at hlt ⊢
  rcases hm.status with hst | hst
  · exact h hst hlt
  · exact h (hst ▸ hr) hlt

/-- **Requests that have locked their seats agree after an action**, if all agreed before. -/
theorem agrees_act {act : Action Call} {i j : ℕ} (h : Inv d)
    (r : Run.Where (Call.prog settings) ok (start d) cfg) (hag : Agreeing cfg)
    (hact : cfg.act (Call.prog settings) act = some cfg') (hij : i ≠ j)
    (ht : cfg'.threads[i]? = some t) (ht' : cfg'.threads[j]? = some t')
    (ha : HasSeats t.call t.status u k a) (hb : HasSeats t'.call t'.status u k b) :
    ∀ q ∈ cfg'.db.reservationSeats, q.seatId ∈ b.orderedSeatIds → q.status = .reserved →
      b.now < q.expiresAt → a.now < q.expiresAt := by
  obtain ⟨l, hl⟩ := System.tracks_run (S := system settings) h r
  have hdisj := hl.locks.act hact i j t t' hij ht ht'
  obtain ⟨t₀, ht₀, hc, hrun, -⟩ := act_locked hact ht ha.locks_ne_nil
  obtain ⟨t₁, ht₁, hc', hrun', hdb⟩ := act_locked hact ht' hb.locks_ne_nil
  have hbefore : a.Agrees b cfg.db :=
    hag i j t₀ t₁ hij ht₀ ht₁ hrun hrun' a (hc ▸ ha.1) b (hc' ▸ hb.1)
  have hq := hbefore (ha.2.1.trans hb.2.1.symm) (ha.2.2.1.trans hb.2.2.1.symm)
    fun x hx hx' => hdisj (ha.2.2.2 x hx) (hb.2.2.2 x hx')
  rcases hdb with hdb | ⟨rfl, z, hz, rfl⟩
  · rwa [hdb]
  · rcases hl.commit hact with hdb | ⟨tz, -, htz, -, hsteps⟩
    · rwa [hdb]
    · -- another call commits, while `b` has its seats
      exact Protocol.chain_induct (P := protocol) (fun hst => ⟨_, hst⟩)
        (fun hi hk hst => keeps_agrees hb.2.2.2 hi (hl.locks z j tz t₁ hz htz ht₁) hst hk) hl.inv hq
        hsteps

/-- **Seat transactions do not deadlock** as long as the requests agree. -/
theorem seat_transactions_not_deadlocked {calls : Set ℕ} (h : Reachable settings d)
    (r : Run.Where (Call.prog settings) (fun cfg _ => Agreeing cfg) (start d) cfg)
    (hids : DistinctIds cfg)
    (hcalls : ∀ i ∈ calls, ∀ t, cfg.threads[i]? = some t → SeatTransaction cfg.db t) :
    ¬ Deadlocked (fun _ => True) cfg calls := by
  intro hd
  have hi : Inv cfg.db := ServiceRun.inv h.inv r
  obtain ⟨l, hl⟩ := System.tracks_run (S := system settings) h.inv r
  have hwaiting : ∀ i ∈ calls, ∀ t, cfg.threads[i]? = some t → Waiting cfg.db t.call t.status := by
    intro i hmem t ht
    obtain ⟨l, -, j, -, hw⟩ := hd.waits i hmem
    obtain ⟨t', ht', hl⟩ := hw.wants
    rw [ht] at ht'
    cases ht'
    exact waiting_run h.inv r ht (hcalls i hmem t ht) hl
  let clock (i : ℕ) : Instant :=
    ((cfg.threads[i]?.bind fun t => t.call.seatRequest?).map SeatRequest.now).getD 0
  have hclock : ∀ {i t a}, cfg.threads[i]? = some t → t.call.seatRequest? = some a →
      a.now = clock i := fun ht ha => by simp [clock, ht, ha]
  refine not_deadlocked_of_height (fun i => waitHeight cfg.db (clock i))
    (fun i hi' j hj k hk l l' _ _ hij hjk => ?_) hd
  obtain ⟨ti, hti, hwant⟩ := hij.wants
  obtain ⟨tj, htj, hheld⟩ := hij.holds
  obtain ⟨tj', htj', hwant'⟩ := hjk.wants
  obtain ⟨tk, htk, hheld'⟩ := hjk.holds
  rw [htj] at htj'
  cases htj'
  refine (hwaiting j hj tj htj).height_lt (hwaiting k hk tk htk) hi (hl.locks j k tj tk hjk.ne htj htk)
    (fun a b ha hb => hids j k tj tk hjk.ne htj htk a ha b hb) hheld hwant' hheld'
    (fun a ha => hclock htj ha) ?_
  rintro u key rfl b hb
  obtain ⟨a, ha⟩ := (hwaiting i hi' ti hti).wants_key hwant
  rw [← hclock hti ha.1]
  cases r with
  | refl => cases hti
  | tail act r' hag hact => exact agrees_act h.inv r' hag hact hij.ne hti htj ha hb

end

/-! ## A deadlock -/

namespace Sample

def twoSeats : SeatReservationCreate := ⟨10, [30, 31], "k", by decide, by decide, length_k⟩

def otherSeat : SeatReservationCreate := ⟨10, [31], "k", by decide, by decide, length_k⟩

/-- Alice holds the seats 30 and 31 until 900000005. -/
def pairHeld : Database :=
  ((start inventory).after (Call.prog settings)
    (alone 0 10 (.reserveSeats alice twoSeats (uuid4 100) 5))).db

theorem pairHeld_reachable : Reachable settings pairHeld :=
  .of_run inventory_inventory (run_after (by decide))

/-- Bob asks for the seat 30 at `now` and for the seat 31 at `now'`, with the same key. -/
def sameKey (now now' : Instant) : List Call :=
  [.reserveSeats bob oneSeat (fun n => 200 + 2 * n) now,
    .reserveSeats bob otherSeat (fun n => 201 + 2 * n) now']

theorem sameKey_uuid4 {now now' : Instant} {i : ℕ} {c : Call} {a : SeatRequest}
    (hc : (sameKey now now')[i]? = some c) (ha : c.seatRequest? = some a) :
    i < 2 ∧ ∀ n, a.uuid4 n = 200 + i + 2 * n := by
  rcases i with _ | _ | i
  · cases hc
    cases ha
    exact ⟨by decide, fun _ => rfl⟩
  · cases hc
    cases ha
    exact ⟨by decide, fun _ => rfl⟩
  · cases hc

/-- The first call inserts its reservation; the second one comes to its `INSERT`. -/
def insertsFirst (now now' : Instant) (n : ℕ) : List (Action Call) :=
  (sameKey now now').map .arrive ++ (List.replicate 5 (.step 0) ++ List.replicate n (.step 1))

end Sample

/-- **Two seat requests wait for each other**: the first one for a hold that the second one has
    expired, and the second one for the (visitor, key) entry. -/
theorem seat_transactions_deadlocked : Reachable Sample.settings Sample.pairHeld ∧
    ServiceRun Sample.settings (start Sample.pairHeld) ((start Sample.pairHeld).after
      (Call.prog Sample.settings) (Sample.insertsFirst 900000004 900000005 7)) ∧
    ((start Sample.pairHeld).after (Call.prog Sample.settings)
      (Sample.insertsFirst 900000004 900000005 7)).threads.map Thread.call =
        Sample.sameKey 900000004 900000005 ∧
    Deadlocked (fun _ => True) ((start Sample.pairHeld).after (Call.prog Sample.settings)
      (Sample.insertsFirst 900000004 900000005 7)) {0, 1} := by
  refine ⟨Sample.pairHeld_reachable, run_after (by decide), rfl, ⟨0, Set.mem_insert _ _⟩, ?_⟩
  rintro i (rfl | rfl)
  · exact ⟨.reservationSeat 101, trivial, 1, by simp, by decide⟩
  · exact ⟨.visitorKey 2 "k", trivial, 0, by simp, by decide⟩

/-- Both requests find the hold live: the second one waits for the first one only. -/
theorem seat_transactions_not_deadlocked_live : ¬ Deadlocked (fun _ => True)
    ((start Sample.pairHeld).after (Call.prog Sample.settings)
      (Sample.insertsFirst 900000003 900000004 4)) {0, 1} := by
  have r : Run.Where (Call.prog Sample.settings) (fun cfg _ => ∀ t ∈ cfg.threads,
      ∀ q ∈ cfg.db.reservationSeats, ∀ a ∈ t.call.seatRequest?, a.now < q.expiresAt)
      (start Sample.pairHeld) ((start Sample.pairHeld).after (Call.prog Sample.settings)
        (Sample.insertsFirst 900000003 900000004 4)) :=
    Config.Meets.run (by decide) (by decide)
  have hcalls : ∀ {i : ℕ} {t}, ((start Sample.pairHeld).after (Call.prog Sample.settings)
      (Sample.insertsFirst 900000003 900000004 4)).threads[i]? = some t →
        (Sample.sameKey 900000003 900000004)[i]? = some t.call := by
    intro i t ht
    have hmap : ((start Sample.pairHeld).after (Call.prog Sample.settings)
      (Sample.insertsFirst 900000003 900000004 4)).threads.map Thread.call =
        Sample.sameKey 900000003 900000004 := rfl
    rw [← hmap, List.getElem?_map, ht]
    rfl
  refine seat_transactions_not_deadlocked Sample.pairHeld_reachable (r.mono ?_) ?_ ?_
  · intro cfg _ h i j ti tj _ hti _ _ _ a ha b _ _ _ _ q hq _ _ _
    exact h ti (List.mem_of_getElem? hti) q hq a ha
  · intro i j ti tj hij hti htj a ha b hb m n heq
    obtain ⟨hi, ham⟩ := Sample.sameKey_uuid4 (hcalls hti) ha
    obtain ⟨hj, hbn⟩ := Sample.sameKey_uuid4 (hcalls htj) hb
    have hsum : 200 + i + 2 * m = 200 + j + 2 * n := (ham m).symm.trans (heq.trans (hbn n))
    omega
  · intro i _ t ht
    have hc := hcalls ht
    rcases i with _ | _ | i
    · rw [SeatTransaction, ← Option.some.inj hc]
      trivial
    · rw [SeatTransaction, ← Option.some.inj hc]
      trivial
    · cases hc

end TicketReservation
