/-
  A seat reservation takes effect atomically.

  The seats of an event never change, so the call locks the same rows whenever
  it runs.  With the seats locked, the reservations that it has found to hold
  one of them with a lapsed hold stay the right ones (`Lapsed`), although others
  may still move them until they are locked too.  A call that loses at an
  `INSERT` is refused there or replays; one whose `INSERT`s all succeed holds
  the locks of everything it has checked until it commits.
-/
import TicketReservation.Atomic.Replay
import TicketReservation.Holds

namespace TicketReservation

open Txn Relation

/-! ## The look-up -/

section
variable {d : Database} {u : UUID} {k : String}

theorem seatLookup_of_mem (hi : Inv d) {r : Reservation} (hr : r ∈ d.reservations)
    (hs : r.reservationType = .seats) (hk : Storable r.idempotencyKey) :
    d.seatLookup r.visitorSessionId r.idempotencyKey = .ok (some ⟨r.id, r.status, .seats, r.expiresAt,
      ((d.seatsOf r.id).map ReservationSeat.seatId).insertionSort (· ≤ ·)⟩) := by
  have hrec : d.seatRecords r.visitorSessionId r.idempotencyKey =
      ((d.seatsOf r.id).insertionSort fun a b => a.seatId ≤ b.seatId).map fun s => (r, s) := by
    rw [Database.seatRecords, Table.filter_unique hi.visitorKeys
      (k := (r.visitorSessionId, r.idempotencyKey)) (by simp +contextual) hr (by simp [hs])]
    rw [List.flatMap_cons, List.flatMap_nil, List.append_nil]
    exact (List.map_insertionSort (fun a b : ReservationSeat => a.seatId ≤ b.seatId)
      (fun a b : Reservation × ReservationSeat => a.2.seatId ≤ b.2.seatId) (fun s => (r, s)) _
      fun a _ b _ => Iff.rfl).symm
  have hne : (d.seatsOf r.id).insertionSort (fun a b => a.seatId ≤ b.seatId) ≠ [] := fun h =>
    hi.someSeats r hr hs (List.length_eq_zero_iff.1 (by
      rw [← List.length_insertionSort (fun a b : ReservationSeat => a.seatId ≤ b.seatId), h]; rfl))
  have hmap : ((d.seatsOf r.id).map ReservationSeat.seatId).insertionSort (· ≤ ·) =
      ((d.seatsOf r.id).insertionSort fun a b => a.seatId ≤ b.seatId).map ReservationSeat.seatId :=
    (List.map_insertionSort (fun a b : ReservationSeat => a.seatId ≤ b.seatId) (· ≤ ·)
      ReservationSeat.seatId _ fun a _ b _ => Iff.rfl).symm
  simp only [Database.seatLookup, if_neg (not_not.2 hk), hrec, hmap]
  cases hl : (d.seatsOf r.id).insertionSort fun a b => a.seatId ≤ b.seatId with
  | nil => exact absurd hl hne
  | cons s rows => simp [hs, Function.comp_def]

theorem finds_seatLookup (hk : Storable k) : Finds (·.seatLookup u k) u k .seats := by
  intro d hi
  by_cases h : d.KeyUsed u k .seats
  · obtain ⟨r, hr, rfl, rfl, hs⟩ := h
    exact Or.inl ⟨⟨r, hr, rfl, rfl, hs⟩, _, seatLookup_of_mem hi hr hs hk⟩
  · refine Or.inr ⟨h, ?_⟩
    have hnil : d.seatRecords u k = [] := by
      rw [Database.seatRecords, List.filter_eq_nil_iff.2, List.flatMap_nil, List.insertionSort_nil]
      intro r hr hp
      simp only [Bool.and_eq_true, decide_eq_true_eq] at hp
      exact h ⟨r, hr, hp.1.1, hp.1.2, hp.2⟩
    simp only [Database.seatLookup, if_neg (not_not.2 hk), hnil]

end

/-! ## Locking rows one after another -/

section
variable {K : Database → Prop} {σ : Session}

theorem settled_lockEach {lock : UUID → Lock} {matching : Database → UUID → Bool} {ids : List UUID}
    (hK : ∀ d, K d → ∀ id ∈ ids, matching (σ.view d) id) :
    Settled K (lockEach lock matching ids) σ (.ok ids) ⟨σ.writes, σ.locks ++ ids.map lock⟩ := by
  induction ids generalizing σ with
  | nil =>
    rw [List.map_nil, List.append_nil]
    exact .ret _ σ
  | cons id ids ih =>
    have hone : Settled K (execute fun d => if matching d id then
        ({ result := true, takes := [lock id] } : Plan Write Lock Bool) else { result := false }) σ
        (.ok true) ⟨σ.writes ++ [], σ.locks ++ [lock id]⟩ :=
      settled_execute ⟨true, [], [lock id], []⟩
        (fun d hd => if_pos (hK d hd id List.mem_cons_self)) rfl
    rw [List.append_nil] at hone
    have hrest := ih (σ := ⟨σ.writes, σ.locks ++ [lock id]⟩) fun d hd id' hid =>
      hK d hd id' (List.mem_cons_of_mem _ hid)
    rw [lockEach]
    refine Settled.bind hone (Settled.bind hrest ?_)
    simpa using Settled.ret (id :: ids) _

theorem eventSeats_congr {d d' : Database} (h : d.seats = d'.seats) (eventId : UUID)
    (seatIds : List UUID) : d.eventSeats eventId seatIds = d'.eventSeats eventId seatIds := by
  simp only [Database.eventSeats, h]

/-- `lock_event_seats` reads only the seats, which never change. -/
theorem settled_lockEventSeats {d₀ : Database} {eventId : UUID} {seatIds : List UUID} :
    Settled (fun d => d.seats = d₀.seats) (lockEventSeats eventId seatIds) ∅
      (.ok (d₀.eventSeats eventId seatIds)) ⟨[], (d₀.eventSeats eventId seatIds).map .seat⟩ := by
  refine Settled.bind (settled_read (d₀.eventSeats eventId seatIds) fun d hd => ?_) ?_
  · rw [Session.view_empty, eventSeats_congr hd]
  · refine settled_lockEach (σ := ∅) fun d hd id hid => ?_
    rw [Database.eventSeats, List.mem_insertionSort, List.mem_map] at hid
    obtain ⟨s, hs, rfl⟩ := hid
    obtain ⟨hsm, hp⟩ := List.mem_filter.1 hs
    simp only [Bool.and_eq_true, decide_eq_true_eq] at hp
    exact List.any_eq_true.2 ⟨s, by rwa [Session.view_empty, hd], by simp [hp.1]⟩

theorem keeps_seats (Λ : List Lock) (d₀ : Database) : protocol.Keeps Λ fun d => d.seats = d₀.seats :=
  keeps_catalogue fun _ _ _ seats => seats = d₀.seats

/-- The updates of `expire_reservations_for_seats`, once the reservations are
    locked. -/
theorem settled_expireHolds {ids : List UUID} {rows : List ReservationSeat} {held : List Reservation}
    (hσ : σ.writes = []) (hK : ∀ d, K d → d.heldRows ids = rows ∧ d.heldReservations ids = held) :
    Settled K (do expireHeldRows ids; expireHeldReservations ids) σ (.ok ())
      ⟨[.setSeatStatus (rows.map ReservationSeat.id) .expired,
        .setReservationStatus (held.map Reservation.id) .expired],
        σ.locks ++ rows.map (fun s => .reservationSeat s.id) ++
          held.map (fun r => .reservation r.id)⟩ := by
  have h1 : Settled K (expireHeldRows ids) σ (.ok ())
      ⟨σ.writes ++ [.setSeatStatus (rows.map ReservationSeat.id) .expired],
        σ.locks ++ rows.map fun s => .reservationSeat s.id⟩ :=
    settled_execute ⟨(), [], rows.map fun s => .reservationSeat s.id,
      [.setSeatStatus (rows.map ReservationSeat.id) .expired]⟩
      (fun d hd => by rw [σ.view_of_no_writes hσ, (hK d hd).1]) rfl
  rw [hσ, List.nil_append] at h1
  refine Settled.bind h1 (settled_execute ⟨(), [], held.map fun r => .reservation r.id,
    [.setReservationStatus (held.map Reservation.id) .expired]⟩ (fun d hd => ?_) rfl)
  -- the first update does not touch `reservations`
  have hheld : ∀ Λ, Database.heldReservations ((⟨[.setSeatStatus (rows.map ReservationSeat.id)
      .expired], Λ⟩ : Session).view d) ids = d.heldReservations ids := fun Λ => rfl
  rw [hheld, (hK d hd).2]

end

/-! ## The reservation -/

/-- The row of a seat that no active hold of another reservation than `live` takes. -/
structure RowFree (live : List UUID) (r : ReservationSeat) (d : Database) : Prop where
  id : ∀ q ∈ d.reservationSeats, q.id ≠ r.id
  seat : ∀ q ∈ d.reservationSeats, q.seatId ∈ [r.seatId] → q.status.active → q.reservationId ∈ live

theorem keeps_rowFree {Λ : List Lock} {live : List UUID} {r : ReservationSeat}
    (hid : .reservationSeat r.id ∈ Λ) (hs : .seat r.seatId ∈ Λ) :
    protocol.Keeps Λ (RowFree live r) := by
  have hseats : ∀ s ∈ [r.seatId], Lock.seat s ∈ Λ := by simpa using hs
  have h1 := keeps_seatRowId hid
  have h2 := keeps_holds hseats (A := fun q => q.status.active → q.reservationId ∈ live) ?_
  · exact fun Λ' d d' hi hd hs h => ⟨h1 hi hd hs h.id, h2 hi hd hs h.seat⟩
  · intro q q' hm h ha
    rw [hm.same]
    rcases hm.status with hst | hst
    · exact h (by simp [hst])
    · exact h (hst ▸ ha)

section
variable {d : Database} {live : List UUID} {x : Reservation}

/-- A row fits after `done` if it is free and its id is not among them. -/
theorem row_fits {done : List ReservationSeat} {r : ReservationSeat} (hx : r.reservationId = x.id)
    (hr : r.status = .reserved) (hseat : ∃ c ∈ d.seats, c.id = r.seatId)
    (hd : ∀ q ∈ done, q.seatId ≠ r.seatId) :
    r.Fits ((d.expireSeats live).addSeats x done) ↔ RowFree live r d ∧ ∀ q ∈ done, q.id ≠ r.id := by
  have hmem : ∀ {p : ReservationSeat → Prop},
      (∀ q ∈ (d.expireSeats live).reservationSeats, p q) ↔ ∀ q ∈ d.reservationSeats,
        p (if q.reservationId ∈ live then { q with status := .expired } else q) := by
    intro p
    simp only [Database.expireSeats, List.forall_mem_map]
  constructor
  · intro h
    have hid := h.id
    have hact := h.active (by simp [hr])
    simp only [Database.addSeats_reservationSeats, List.forall_mem_append, hmem] at hid hact
    refine ⟨⟨fun q hq => ?_, fun q hq hs ha => ?_⟩, hid.2⟩
    · have := hid.1 q hq
      split_ifs at this <;> exact this
    · by_contra hlive
      have := hact.1 q hq
      rw [if_neg hlive] at this
      exact this ha (by simpa using hs)
  · rintro ⟨hfree, hids⟩
    refine ⟨?_, ⟨x, by simp, hx.symm⟩, hseat, fun _ => ?_⟩
    · simp only [Database.addSeats_reservationSeats, List.forall_mem_append, hmem]
      refine ⟨fun q hq => ?_, hids⟩
      split_ifs <;> exact hfree.id q hq
    · simp only [Database.addSeats_reservationSeats, List.forall_mem_append, hmem]
      refine ⟨fun q hq => ?_, fun q hq _ => hd q hq⟩
      split_ifs with hlive
      · simp
      · exact fun ha hs => hlive (hfree.seat q hq (by simpa using hs) ha)

/-- What the `INSERT`s have checked. -/
theorem newSeats_iff {rows : List ReservationSeat} (hk : Storable x.idempotencyKey)
    (hr : x.status = .reserved) (hty : x.reservationType = .seats) (hne : rows ≠ [])
    (hs : (rows.map ReservationSeat.seatId).Nodup)
    (hrows : ∀ r ∈ rows, r.reservationId = x.id ∧ r.status = .reserved ∧ r.expiresAt = x.expiresAt)
    (hseats : ∀ r ∈ rows, ∃ c ∈ d.seats, c.id = r.seatId ∧ c.eventId = x.eventId) :
    NewSeats (d.expireSeats live) x rows ↔
      x.Fits d ∧ (rows.map ReservationSeat.id).Nodup ∧ ∀ r ∈ rows, RowFree live r d := by
  constructor
  · intro h
    refine ⟨(x.fits_expireSeats).1 h.fits, h.ids, fun r hrm => ⟨fun q hq => ?_, fun q hq hs ha => ?_⟩⟩
    · have := h.freshIds _ (List.mem_map_of_mem hq) r hrm
      split_ifs at this <;> exact this
    · by_contra hlive
      have := h.free _ (List.mem_map_of_mem hq)
      rw [if_neg hlive] at this
      exact this ha r hrm (by simpa using hs)
  · rintro ⟨hx, hids, hfree⟩
    refine ⟨(x.fits_expireSeats).2 hx, hk, hr, hty, hne, hids, hs, fun r h => (hrows r h).1,
      fun r h => (hrows r h).2.1, fun r h => (hrows r h).2.2, hseats,
      List.forall_mem_map.2 fun q hq r hrm => ?_, List.forall_mem_map.2 fun q hq ha r hrm => ?_⟩
    · split_ifs <;> exact (hfree r hrm).id q hq
    · split_ifs at ha with hlive
      · simp at ha
      · rw [if_neg hlive]
        exact fun hs => hlive ((hfree r hrm).seat q hq (by simpa using hs) ha)

end

section
variable {ρ : Type} {query : Database → Except Error (Option ρ)}
  {spec : Database → Except Error Response → Database → Prop} {conflict : Error}
  {live : List UUID} {x : Reservation}

/-- **The `INSERT`s of the seat rows**, after `done`. -/
theorem wp_insertReservationSeats (done : List ReservationSeat) {rows : List ReservationSeat}
    {σ : Session} {K : Database → Prop} {Q : Except Error Unit → CallPoint → Prop}
    (hkeep : protocol.Keeps [] fun d => query d ≠ .ok none) (hK : protocol.Keeps σ.locks K)
    (hview : ∀ d, K d → σ.view d = (d.expireSeats live).addSeats x done)
    (hrows : ∀ r ∈ rows, r.reservationId = x.id ∧ r.status = .reserved ∧ .seat r.seatId ∈ σ.locks)
    (hseats : ∀ d, K d → ∀ r ∈ rows, ∃ c ∈ d.seats, c.id = r.seatId)
    (hdistinct : ((done ++ rows).map ReservationSeat.seatId).Nodup)
    (hids : (done.map ReservationSeat.id).Nodup)
    (hok : ∀ v : CallPoint, v.At ⟨σ.writes ++ rows.map .insertReservationSeat,
        σ.locks ++ rows.flatMap fun r => [.reservationSeat r.id, .activeSeat r.seatId]⟩
        (fun d => K d ∧ ∀ r ∈ rows, RowFree live r d) →
      ((done ++ rows).map ReservationSeat.id).Nodup → Q (.ok ()) v)
    (hbad : ∀ v : CallPoint, v.promise = none → K v.db →
      ¬ (((done ++ rows).map ReservationSeat.id).Nodup ∧ ∀ r ∈ rows, RowFree live r v.db) →
      Loses spec query conflict v)
    (hQ : ∀ v, Loses spec query conflict v → Q (.error .integrityError) v)
    {v : CallPoint} (hv : v.At σ K) : wp spec (insertReservationSeats rows) Q v := by
  induction rows generalizing done σ K v with
  | nil =>
    simp only [List.map_nil, List.flatMap_nil, List.append_nil] at hok
    exact hok v ⟨hv.promise, hv.session, hv.known, by simp⟩ hids
  | cons r rows ih =>
    obtain ⟨hrx, hrst, hrl⟩ := hrows r List.mem_cons_self
    have hdone : ∀ q ∈ done, q.seatId ≠ r.seatId := by
      rw [List.map_append, List.nodup_append] at hdistinct
      exact fun q hq => hdistinct.2.2 _ (List.mem_map_of_mem hq) _ (by simp)
    have hfits : ∀ d, K d → (r.Fits (σ.view d) ↔ RowFree live r d ∧ ∀ q ∈ done, q.id ≠ r.id) :=
      fun d hd => by rw [hview d hd]; exact row_fits hrx hrst (hseats d hd r List.mem_cons_self) hdone
    refine wp_bind (wp_flushInsert hkeep hK (fun v hv => ?_) (fun v hv hf => ?_)
      (fun v (hl : Loses spec query conflict v) => ?_) hv)
    · have hnew : ∀ q ∈ done, q.id ≠ r.id := ((hfits _ hv.known.1).1 hv.known.2).2
      have happ : (done ++ [r]) ++ rows = done ++ r :: rows := by simp
      refine ih (done ++ [r]) (K := fun d => K d ∧ RowFree live r d) ?_ (fun d hd => ?_)
        (fun q hq => ?_) (fun d hd q hq => hseats d hd.1 q (List.mem_cons_of_mem _ hq))
        (by rwa [happ]) ?_ (fun v hv hn => ?_) (fun v hp hd hn => ?_)
        (hv.mono fun d _ hd => ⟨hd.1, ((hfits d hd.1).1 hd.2).1⟩)
      · exact (hK.mono (List.subset_append_left _ _)).and
          (keeps_rowFree (by simp) (List.mem_append_left _ hrl))
      · rw [Session.view_snoc, hview d hd.1]
        simp [Database.addSeats]
      · obtain ⟨h1, h2, h3⟩ := hrows q (List.mem_cons_of_mem _ hq)
        exact ⟨h1, h2, List.mem_append_left _ h3⟩
      · exact Table.nodup_append_key hids (by simp) (by simpa using hnew)
      · refine hok v ?_ (by rwa [happ] at hn)
        have : v.At _ fun d => K d ∧ ∀ q ∈ r :: rows, RowFree live q d :=
          hv.mono fun d _ hd => ⟨hd.1.1, List.forall_mem_cons.2 ⟨hd.1.2, hd.2⟩⟩
        simpa using this
      · refine hbad v hp hd.1 fun h => hn ⟨by rw [happ]; exact h.1, fun q hq => ?_⟩
        exact h.2 q (List.mem_cons_of_mem _ hq)
    · refine hbad v hv.promise hv.known fun h => hf ((hfits _ hv.known).2 ⟨?_, fun q hq => ?_⟩)
      · exact h.2 r List.mem_cons_self
      · have := h.1
        rw [List.map_append, List.nodup_append] at this
        exact this.2.2 _ (List.mem_map_of_mem hq) _ (by simp)
    · exact hQ v hl

end

/-! ## `reserve` -/

theorem view_insertReservationSeats (σ : Session) (rows : List ReservationSeat) (Λ : List Lock)
    (d : Database) : (⟨σ.writes ++ rows.map .insertReservationSeat, Λ⟩ : Session).view d =
      { σ.view d with reservationSeats := (σ.view d).reservationSeats ++ rows } := by
  rw [Session.view_append _ _ _ []]
  have : ∀ d : Database, (⟨rows.map .insertReservationSeat, []⟩ : Session).view d =
      { d with reservationSeats := d.reservationSeats ++ rows } := by
    induction rows with
    | nil => simp
    | cons r rows ih =>
      intro d
      simp only [Session.view, List.map_cons, List.foldl_cons] at ih ⊢
      rw [ih]
      simp
  exact this _

/-- The reservations `live` are those with a lapsed hold on one of the seats, the session has
    expired them, and its locks keep this so. -/
structure Cleared (eventId : UUID) (seatIds : List UUID) (now : Instant) (live : List UUID)
    (σ : Session) (K : Database → Prop) : Prop where
  keeps : protocol.Keeps σ.locks K
  seats : ∀ s ∈ seatIds, .seat s ∈ σ.locks
  reservations : ∀ x ∈ live, .reservation x ∈ σ.locks
  nodup : live.Nodup
  inv : ∀ d, K d → Inv d
  view : ∀ d, K d → σ.view d = d.expireSeats live
  stale : ∀ d, K d → ∀ x, x ∈ live ↔ x ∈ d.staleHolders seatIds now
  eventSeats : ∀ d, K d → d.eventSeats eventId seatIds = seatIds

theorem holdsSeats_of_stale {d : Database} (hi : Inv d) {seatIds : List UUID} {now : Instant}
    {x : UUID} (hx : x ∈ d.staleHolders seatIds now) : d.HoldsSeats x := by
  obtain ⟨q, hq, rfl, -, hst, -⟩ := mem_staleHolders.1 hx
  obtain ⟨r, hr, hrq, hty, hst', -⟩ := hi.seat q hq
  exact ⟨r, hr, hrq, hst' ▸ hst, hty⟩

theorem exists_seat_of_eventSeats {d : Database} {eventId : UUID} {seatIds : List UUID}
    (h : d.eventSeats eventId seatIds = seatIds) :
    ∀ s ∈ seatIds, ∃ c ∈ d.seats, c.id = s ∧ c.eventId = eventId := by
  intro s hs
  rw [← h, Database.eventSeats, List.mem_insertionSort, List.mem_map] at hs
  obtain ⟨c, hc, rfl⟩ := hs
  obtain ⟨hcm, hp⟩ := List.mem_filter.1 hc
  simp only [Bool.and_eq_true, decide_eq_true_eq] at hp
  exact ⟨c, hcm, rfl, hp.1⟩

/-- **The `INSERT`s and the commit.** -/
theorem wp_createSeats {x : Reservation} {rows : List ReservationSeat} {live : List UUID}
    {now : Instant} {σ : Session} {K : Database → Prop} {f : SeatReservationResponse → Response}
    {spec : Database → Except Error Response → Database → Prop}
    (hk : Storable x.idempotencyKey) (hxr : x.status = .reserved) (hty : x.reservationType = .seats)
    (hne : rows ≠ []) (hn : (rows.map ReservationSeat.seatId).Nodup)
    (hrows : ∀ r ∈ rows, r.reservationId = x.id ∧ r.status = .reserved ∧ r.expiresAt = x.expiresAt)
    (hc : Cleared x.eventId (rows.map ReservationSeat.seatId) now live σ K)
    (hrefused : ∀ d, Inv d → K d → d.seatLookup x.visitorSessionId x.idempotencyKey = .ok none →
      ¬ NewSeats (d.expireSeats live) x rows → spec d (.error .seatReservationConflictError) d)
    (hcreated : ∀ d, Inv d → K d → d.seatLookup x.visitorSessionId x.idempotencyKey = .ok none →
      NewSeats (d.expireSeats live) x rows → spec d
        (.ok (f ⟨x.id, .reserved, .seats, x.expiresAt, rows.map ReservationSeat.seatId⟩))
        ((d.expireSeats live).addSeats x rows))
    {v : CallPoint} (hv : v.At σ K) :
    wp spec (SeatReservationService.create x rows) (fun
      | .ok a => Answers spec (.ok (f a))
      | .error e => fun v => e = .integrityError ∧ Loses spec
          (·.seatLookup x.visitorSessionId x.idempotencyKey) .seatReservationConflictError v) v := by
  have hfinds : Finds (·.seatLookup x.visitorSessionId x.idempotencyKey) x.visitorSessionId
      x.idempotencyKey .seats := finds_seatLookup hk
  have hseats : ∀ d, K d → ∀ r ∈ rows, ∃ c ∈ d.seats, c.id = r.seatId ∧ c.eventId = x.eventId :=
    fun d hd r hr => exists_seat_of_eventSeats (hc.eventSeats d hd) _ (List.mem_map_of_mem hr)
  have hnew : ∀ d, K d → (NewSeats (d.expireSeats live) x rows ↔
      x.Fits d ∧ (rows.map ReservationSeat.id).Nodup ∧ ∀ r ∈ rows, RowFree live r d) :=
    fun d hd => newSeats_iff hk hxr hty hne hn hrows (hseats d hd)
  have hloses : ∀ v : CallPoint, v.promise = none → K v.db →
      ¬ (x.Fits v.db ∧ (rows.map ReservationSeat.id).Nodup ∧ ∀ r ∈ rows, RowFree live r v.db) →
      Loses spec (·.seatLookup x.visitorSessionId x.idempotencyKey) .seatReservationConflictError v :=
    fun v hp hd hnot => Loses.of_refused hfinds hp fun hnone =>
      hrefused v.db v.inv hd hnone (by rwa [hnew v.db hd])
  refine wp_bind (wp_flushInsert hfinds.keeps hc.keeps (fun v hv => ?_) (fun v hv hf => ?_)
    (fun v hv => ⟨rfl, hv⟩) hv)
  swap
  · rw [hc.view v.db hv.known, Reservation.fits_expireSeats] at hf
    exact hloses v hv.promise hv.known fun h => hf h.1
  have hv : v.At _ fun d => K d ∧ x.Fits d :=
    hv.mono fun d _ h => ⟨h.1, (x.fits_expireSeats).1 (hc.view d h.1 ▸ h.2)⟩
  have hhead := (hc.keeps.mono (List.subset_append_left σ.locks [.reservation x.id,
    .visitorKey x.visitorSessionId x.idempotencyKey])).and (keeps_fits (x := x) (by simp) (by simp))
  refine wp_bind (wp_insertReservationSeats (x := x) [] hfinds.keeps hhead (fun d hd => ?_)
    (fun r hr => ?_) (fun d hd r hr => ?_) (by simpa using hn) (by simp) (fun v hv hids => ?_)
    (fun v hp hd hnot => hloses v hp hd.1 fun h => hnot h.2) (fun v hv => ⟨rfl, hv⟩) hv)
  · rw [Session.view_snoc, hc.view d hd.1]
    simp [Database.addSeats]
  · obtain ⟨h1, h2, -⟩ := hrows r hr
    exact ⟨h1, h2, List.mem_append_left _ (hc.seats _ (List.mem_map_of_mem hr))⟩
  · obtain ⟨c, hcm, hcs, -⟩ := hseats d hd.1 r hr
    exact ⟨c, hcm, hcs⟩
  -- the locks of the rows keep them free
  have hlocks : ∀ r ∈ rows, Lock.reservationSeat r.id ∈ rows.flatMap fun r =>
      [Lock.reservationSeat r.id, Lock.activeSeat r.seatId] :=
    fun r hr => List.mem_flatMap.2 ⟨r, hr, by simp⟩
  have hrowFree : ∀ r ∈ rows, protocol.Keeps (σ.locks ++ [.reservation x.id,
      .visitorKey x.visitorSessionId x.idempotencyKey] ++ rows.flatMap fun r =>
        [.reservationSeat r.id, .activeSeat r.seatId]) (RowFree live r) := fun r hr =>
    keeps_rowFree (List.mem_append_right _ (hlocks r hr)) (List.mem_append_left _
      (List.mem_append_left _ (hc.seats _ (List.mem_map_of_mem hr))))
  have hkeep := (hhead.mono (List.subset_append_left _ (rows.flatMap fun r =>
    [Lock.reservationSeat r.id, Lock.activeSeat r.seatId]))).and (Protocol.Keeps.all hrowFree)
  refine wp_bind (wp_commitTx_at hkeep ?_ (fun v hv => Or.inl hv) hv)
  rintro d hi ⟨⟨hd, hx⟩, hfree⟩
  have hns : NewSeats (d.expireSeats live) x rows := (hnew d hd).2 ⟨hx, by simpa using hids, hfree⟩
  rw [view_insertReservationSeats, Session.view_snoc, hc.view d hd]
  rcases hfinds d hi with ⟨⟨r, hr, h1, h2, -⟩, -⟩ | ⟨-, hnone⟩
  · exact absurd ⟨h1, h2⟩ (hx.visitorKey r hr)
  refine ⟨(effects_expireSeats hi (fun y hy => ?_) hc.nodup fun y hy => ?_).tail
    (.addSeats x rows hns ?_ ?_ (fun r hr => ?_) fun r hr => ?_), hcreated d hi hd hnone hns⟩
  · exact holdsSeats_of_stale hi ((hc.stale d hd y).1 hy)
  · exact List.mem_append_left _ (List.mem_append_left _ (hc.reservations y hy))
  · simp
  · simp
  · exact List.mem_append_left _ (List.mem_append_left _ (hc.seats _ (List.mem_map_of_mem hr)))
  · exact List.mem_append_right _ (hlocks r hr)

/-! ## Expiring the lapsed holds -/

/-- With the seats locked, the reservations `ids` have been found. -/
structure Found (eventId : UUID) (seatIds : List UUID) (now : Instant) (ids : List UUID)
    (d : Database) : Prop where
  inv : Inv d
  eventSeats : d.eventSeats eventId seatIds = seatIds
  lapsed : Lapsed seatIds now ids d

/-- They are locked too; `rows` and `held` are those still RESERVED. -/
structure FoundLocked (eventId : UUID) (seatIds : List UUID) (now : Instant) (ids : List UUID)
    (rows : List ReservationSeat) (held : List Reservation) (d : Database) : Prop extends
    Found eventId seatIds now ids d where
  rows : d.heldRows ids = rows
  held : d.heldReservations ids = held

/-- The locks of the seats and of the reservations that were found. -/
def foundLocks (seatIds ids : List UUID) : List Lock := seatIds.map .seat ++ ids.map .reservation

/-- The session that has expired `rows` and `held`. -/
def clearedSession (seatIds ids : List UUID) (rows : List ReservationSeat)
    (held : List Reservation) : Session :=
  ⟨[.setSeatStatus (rows.map ReservationSeat.id) .expired,
      .setReservationStatus (held.map Reservation.id) .expired],
    foundLocks seatIds ids ++ rows.map (fun s => .reservationSeat s.id) ++
      held.map (fun r => .reservation r.id)⟩

section
variable {eventId : UUID} {seatIds ids : List UUID} {now : Instant} {rows : List ReservationSeat}
  {held : List Reservation} {d : Database}

theorem keeps_eventSeats (Λ : List Lock) (eventId : UUID) (seatIds : List UUID) :
    protocol.Keeps Λ fun d => d.eventSeats eventId seatIds = seatIds :=
  keeps_catalogue fun _ _ _ seats => (((seats.filter fun s => s.eventId = eventId &&
    s.id ∈ seatIds).map Seat.id).insertionSort (· ≤ ·)) = seatIds

theorem keeps_found {Λ : List Lock} (hΛ : seatIds.map .seat ⊆ Λ) :
    protocol.Keeps Λ (Found eventId seatIds now ids) := fun _ _ _ hi hd hs h =>
  ⟨Effect.inv hs hi, keeps_eventSeats Λ eventId seatIds hi hd hs h.eventSeats,
    keeps_lapsed (fun _ hs => hΛ (List.mem_map_of_mem hs)) hi hd hs h.lapsed⟩

theorem keeps_foundLocked {Λ : List Lock} (hΛ : foundLocks seatIds ids ⊆ Λ) :
    protocol.Keeps Λ (FoundLocked eventId seatIds now ids rows held) := by
  have hres : ∀ x ∈ ids, Lock.reservation x ∈ Λ := fun x hx =>
    hΛ (List.mem_append_right _ (List.mem_map_of_mem hx))
  exact fun _ _ _ hi hd hs h =>
    ⟨keeps_found (List.Subset.trans (List.subset_append_left _ _) hΛ) hi hd hs h.toFound,
      keeps_heldRows hres hi hd hs h.rows, keeps_heldReservations hres hi hd hs h.held⟩

theorem settled_lockFound : Settled (Found eventId seatIds now ids)
    (lockEach .reservation (fun d id => d.reservations.any fun r => r.id = id) ids)
    ⟨[], seatIds.map .seat⟩ (.ok ids) ⟨[], foundLocks seatIds ids⟩ := by
  refine settled_lockEach (σ := ⟨[], seatIds.map .seat⟩) fun d hd id hid => ?_
  obtain ⟨r, hr, hrid, -⟩ := hd.lapsed.parent hd.inv hid
  exact List.any_eq_true.2 ⟨r, hr, by simpa using hrid⟩

theorem settled_expireFound : Settled (FoundLocked eventId seatIds now ids rows held)
    (do expireHeldRows ids; expireHeldReservations ids) ⟨[], foundLocks seatIds ids⟩ (.ok ())
    (clearedSession seatIds ids rows held) :=
  settled_expireHolds rfl fun _ hd => ⟨hd.rows, hd.held⟩

/-- Nothing was found. -/
theorem cleared_nil : Cleared eventId seatIds now [] ⟨[], seatIds.map .seat⟩
    (Found eventId seatIds now []) where
  keeps := keeps_found (List.Subset.refl _)
  seats s hs := List.mem_map_of_mem hs
  reservations := by simp
  nodup := List.nodup_nil
  inv _ hd := hd.inv
  view d _ := by simp
  stale d hd x := by
    rw [← hd.lapsed.mem_heldReservations hd.inv]
    simp [Database.heldReservations]
  eventSeats _ hd := hd.eventSeats

theorem cleared_found (hn : (held.map Reservation.id).Nodup) :
    Cleared eventId seatIds now (held.map Reservation.id) (clearedSession seatIds ids rows held)
      (FoundLocked eventId seatIds now ids rows held) where
  keeps := keeps_foundLocked (by simp [clearedSession])
  seats s hs := by simp [clearedSession, foundLocks, hs]
  reservations x hx := by
    obtain ⟨r, hr, rfl⟩ := List.mem_map.1 hx
    exact List.mem_append_right _ (List.mem_map_of_mem hr)
  nodup := hn
  inv _ hd := hd.inv
  view d hd := by
    rw [← hd.rows, ← hd.held]
    exact view_expireHolds hd.inv ids _
  stale d hd x := by
    rw [← hd.held]
    exact hd.lapsed.mem_heldReservations hd.inv
  eventSeats _ hd := hd.eventSeats

end

/-- **Expiring the lapsed holds**, with the seats locked. -/
theorem wp_expireReservationsForSeats {eventId : UUID} {seatIds : List UUID} {now : Instant}
    {spec : Database → Except Error Response → Database → Prop}
    {Q : Except Error Unit → CallPoint → Prop}
    (hQ : ∀ live σ K (v : CallPoint), Cleared eventId seatIds now live σ K → v.At σ K → Q (.ok ()) v)
    {v : CallPoint} (hv : v.At ⟨[], seatIds.map .seat⟩ fun d => d.eventSeats eventId seatIds = seatIds) :
    wp spec (expireReservationsForSeats seatIds now) Q v := by
  refine wp_bind (wp_exec (Point.At.stable (keeps_eventSeats _ eventId seatIds))
    (fun v hv => hv.promise) (fun v _ hv _ => ?_) hv)
  have hσ := hv.session
  simp only [Stmt.ofPlan, hσ, Session.view_nil, List.append_nil]
  have hlapsed := lapsed_staleHolders seatIds now v.db
  generalize v.db.staleHolders seatIds now = ids at hlapsed ⊢
  have hv' : (v.goto ⟨[], seatIds.map .seat⟩).At ⟨[], seatIds.map .seat⟩
      (Found eventId seatIds now ids) := ⟨hv.promise, rfl, v.inv, hv.known, hlapsed⟩
  split_ifs with hnil
  · subst hnil
    exact hQ [] _ _ _ cleared_nil hv'
  · refine wp_bind (Settled.wp settled_lockFound (keeps_found (List.Subset.refl _)) (fun w hw => ?_) hv')
    -- from here on the reservations are locked
    exact Settled.wp settled_expireFound (keeps_foundLocked (List.Subset.refl _))
      (fun u hu => hQ _ _ _ u (cleared_found (nodup_heldReservations w.inv)) hu)
      ⟨hw.promise, hw.session, hw.known, rfl, rfl⟩

namespace SeatReservationService

section
variable (settings : Settings) (visitorSession : VisitorSession) (eventId : UUID)
  (seatIds orderedSeatIds : List UUID) (idempotencyKey : String) (uuid4 : ℕ → UUID) (now : Instant)

/-- What `reserve` would create fits when the lapsed holds are gone. -/
abbrev CanReserve (d : Database) : Prop :=
  NewSeats (d.expireSeats (d.staleHolders orderedSeatIds now))
    (newReservation settings visitorSession eventId idempotencyKey uuid4 now)
    (newSeats settings orderedSeatIds uuid4 now)

/-- What `reserve` answers when it creates its reservation. -/
def created : SeatReservationResponse :=
  ⟨uuid4 0, .reserved, .seats, settings.expiresAt now, orderedSeatIds⟩

/-- What `reserve` leaves when it creates its reservation. -/
def afterCreate (d : Database) : Database :=
  (d.expireSeats (d.staleHolders orderedSeatIds now)).addSeats
    (newReservation settings visitorSession eventId idempotencyKey uuid4 now)
    (newSeats settings orderedSeatIds uuid4 now)

/-- **What `reserve` answers and leaves.** -/
def reserveOutcome (d : Database) : Except Error SeatReservationResponse × Database :=
  match d.seatLookup visitorSession.id idempotencyKey with
  | .error e => (.error e, d)
  | .ok (some existing) => (.ok (toResponse existing), d)
  | .ok none =>
    if d.eventSeats eventId (seatIds.insertionSort (· ≤ ·)) ≠ seatIds.insertionSort (· ≤ ·) then
      (.error .seatsNotFoundError, d)
    else if CanReserve settings visitorSession eventId (seatIds.insertionSort (· ≤ ·)) idempotencyKey
        uuid4 now d then
      (.ok (created settings (seatIds.insertionSort (· ≤ ·)) uuid4 now),
        afterCreate settings visitorSession eventId (seatIds.insertionSort (· ≤ ·)) idempotencyKey
          uuid4 now d)
    else (.error .seatReservationConflictError, d)

theorem newSeats_seatIds :
    (newSeats settings orderedSeatIds uuid4 now).map ReservationSeat.seatId = orderedSeatIds :=
  List.ext_getElem (by simp [newSeats]) (by simp [newSeats])

variable {settings visitorSession eventId seatIds orderedSeatIds idempotencyKey uuid4 now}

theorem newSeats_mem {r : ReservationSeat} (hr : r ∈ newSeats settings orderedSeatIds uuid4 now) :
    r.reservationId = uuid4 0 ∧ r.status = .reserved ∧ r.expiresAt = settings.expiresAt now ∧
      r.seatId ∈ orderedSeatIds := by
  have hs : r.seatId ∈ orderedSeatIds := by
    rw [← newSeats_seatIds settings orderedSeatIds uuid4 now]
    exact List.mem_map_of_mem hr
  obtain ⟨n, hn, rfl⟩ := List.mem_mapIdx.1 hr
  exact ⟨rfl, rfl, rfl, hs⟩

/-- What follows in `reserve` when the seats are locked. -/
theorem wp_reserve_locked (hk : Storable idempotencyKey) (hne : orderedSeatIds ≠ [])
    (hn : orderedSeatIds.Nodup) {spec : Database → Except Error Response → Database → Prop}
    {f : SeatReservationResponse → Response}
    (hused : ∀ d a, Inv d → d.seatLookup visitorSession.id idempotencyKey = .ok (some a) →
      spec d (.ok (f (toResponse a))) d)
    (hrefused : ∀ d, Inv d → d.seatLookup visitorSession.id idempotencyKey = .ok none →
      d.eventSeats eventId orderedSeatIds = orderedSeatIds →
      ¬ CanReserve settings visitorSession eventId orderedSeatIds idempotencyKey uuid4 now d →
      spec d (.error .seatReservationConflictError) d)
    (hcreated : ∀ d, Inv d → d.seatLookup visitorSession.id idempotencyKey = .ok none →
      d.eventSeats eventId orderedSeatIds = orderedSeatIds →
      CanReserve settings visitorSession eventId orderedSeatIds idempotencyKey uuid4 now d →
      spec d (.ok (f (created settings orderedSeatIds uuid4 now)))
        (afterCreate settings visitorSession eventId orderedSeatIds idempotencyKey uuid4 now d))
    {v : CallPoint} (hv : v.At ⟨[], orderedSeatIds.map .seat⟩ fun d =>
      d.eventSeats eventId orderedSeatIds = orderedSeatIds) :
    wp spec (do
      expireReservationsForSeats orderedSeatIds now
      (create (newReservation settings visitorSession eventId idempotencyKey uuid4 now)
        (newSeats settings orderedSeatIds uuid4 now)).tryCatch fun e =>
          if e = .integrityError then resolveConflictOrReplay visitorSession.id idempotencyKey
          else .raise e)
      (fun r => Answers spec (r.map f)) v := by
  have hids : (newSeats settings orderedSeatIds uuid4 now).map ReservationSeat.seatId =
      orderedSeatIds := newSeats_seatIds settings orderedSeatIds uuid4 now
  refine wp_bind (wp_expireReservationsForSeats (fun live σ K v hc hv => ?_) hv)
  have hlive : ∀ d, K d → d.expireSeats live = d.expireSeats (d.staleHolders orderedSeatIds now) :=
    fun d hd => Database.expireSeats_congr (hc.stale d hd)
  refine wp_tryCatch (wp_mono (fun r v hr => ?_) (wp_createSeats
    (x := newReservation settings visitorSession eventId idempotencyKey uuid4 now) (f := f) (σ := σ)
    (K := K) hk rfl rfl (fun h => hne (by rw [← hids, h, List.map_nil])) (by rwa [hids])
    (fun r hr => ?_) (by rw [hids]; exact hc) (fun d hi hd hnone hnot => ?_)
    (fun d hi hd hnone hnew => ?_) hv))
  · cases r with
    | ok a => exact hr
    | error e =>
      obtain ⟨rfl, hl⟩ := hr
      exact wp_resolve (finds_seatLookup hk) hused hl
  · obtain ⟨h1, h2, h3, -⟩ := newSeats_mem hr
    exact ⟨h1, h2, h3⟩
  · rw [hlive d hd] at hnot
    exact hrefused d hi hnone (hc.eventSeats d hd) hnot
  · rw [hlive d hd, hids] at *
    exact hcreated d hi hnone (hc.eventSeats d hd) hnew

/-- **`SeatReservationService.reserve` takes effect atomically.** -/
theorem atomically_reserve (hne : seatIds ≠ []) (hn : seatIds.Nodup)
    (f : SeatReservationResponse → Response) :
    Atomically (reserve settings visitorSession eventId seatIds idempotencyKey uuid4 now)
      (reserveOutcome settings visitorSession eventId seatIds idempotencyKey uuid4 now) f := by
  intro d hd
  have hperm := List.perm_insertionSort (· ≤ ·) seatIds
  have hne' : seatIds.insertionSort (· ≤ ·) ≠ [] := fun h => hne (by
    rw [h] at hperm; exact hperm.symm.eq_nil)
  have hn' : (seatIds.insertionSort (· ≤ ·)).Nodup := hperm.nodup_iff.2 hn
  refine wp_map (wp_bind (wp_bind (wp_exec (A := Point.At ∅ fun _ => True) (Point.At.stable .const)
    (fun v hv => hv.promise) (fun v _ hv _ => ?_) ⟨rfl, rfl, trivial⟩)))
  obtain ⟨hp, hσ, -⟩ := hv
  simp only [Stmt.ofPlan, hσ, Session.view_empty]
  cases h : v.db.seatLookup visitorSession.id idempotencyKey with
  | error e =>
    exact (could_of_outcome (r := .error e) hp (by simp only [reserveOutcome, h])).answers
  | ok o =>
    cases o with
    | some a =>
      exact (could_of_outcome (r := .ok (toResponse a)) hp
        (by simp only [reserveOutcome, h])).answers
    | none =>
      have hk : Storable idempotencyKey := by
        by_contra hk
        simp [Database.seatLookup, hk] at h
      have hv : (v.goto ∅).At ∅ fun d => d.seats = v.db.seats := ⟨hp, rfl, rfl⟩
      by_cases hs : v.db.eventSeats eventId (seatIds.insertionSort (· ≤ ·)) =
        seatIds.insertionSort (· ≤ ·)
      · refine wp_bind (Settled.wp settled_lockEventSeats (keeps_seats _ _) (fun w hw => ?_) hv)
        simp only [hs, ne_eq, not_true, if_false] at hw ⊢
        refine wp_reserve_locked hk hne' hn' (fun d a hi ha => ?_) (fun d hi hnone hs hc => ?_)
          (fun d hi hnone hs hc => ?_) (hw.mono fun d _ hd => ?_)
        · exact gives_of_outcome (r := .ok (toResponse a)) hi (by simp only [reserveOutcome, ha])
        · exact gives_of_outcome (r := .error Error.seatReservationConflictError) hi
            (by simp only [reserveOutcome, hnone, if_neg (not_not.2 hs), if_neg hc])
        · exact gives_of_outcome (r := .ok (created settings (seatIds.insertionSort (· ≤ ·)) uuid4
            now)) hi (by simp only [reserveOutcome, hnone, if_neg (not_not.2 hs), if_pos hc])
        · exact (eventSeats_congr hd _ _).trans hs
      · have hcould : Could (Gives (reserveOutcome settings visitorSession eventId seatIds
            idempotencyKey uuid4 now) f) (.error .seatsNotFoundError) v :=
          could_of_outcome (r := .error Error.seatsNotFoundError) hp
            (by simp only [reserveOutcome, h, if_pos hs])
        refine wp_bind (Settled.wp_and settled_lockEventSeats (keeps_seats _ _) (Could.stable _)
          (fun v σ hv => hv.goto σ) (fun w hw hc => ?_) hv (hcould.goto _))
        dsimp only
        rw [if_pos hs]
        refine wp_rollback ?_ hc
        exact fun v hv => hv.answers

end

end SeatReservationService

end TicketReservation
