/-
  What each call answers and leaves, in closed form.

  The calls of the services do alone what `reserveOutcome` and `moveToOutcome`
  say; a batch expires the reservations it takes.  `Call.moves` collects what
  this means for the table `reservations`: the rows that move to one status,
  why they may, and the rows that are added.
-/
import TicketReservation.System

namespace TicketReservation

open Txn

variable {settings : Settings} {d d' : Database} {r : Except Error Response}

/-! ## The outcome of a call -/

/-- **What is done atomically is its outcome.** -/
theorem Atomically.solo_iff {α : Type} {p : Tx α}
    {outcome : Database → Except Error α × Database} {f : α → Response}
    (h : Atomically p outcome f) (hf : Function.Injective f) (hd : Inv d) :
    Solo p f d r d' ↔ r = (outcome d).1.map f ∧ d' = (outcome d).2 := by
  have halone : p.alone d = ((outcome d).1, (outcome d).2) := h.alone hf hd
  rw [Solo, Prog.alone_map halone, Prod.mk.injEq]
  exact and_congr eq_comm eq_comm

/-- A success is the success of the outcome. -/
theorem ok_eq_map {α : Type} {x : Except Error α} {f : α → Response} {a : Response}
    (h : .ok a = x.map f) : ∃ b, x = .ok b ∧ a = f b := by
  cases x with
  | error e => cases h
  | ok b => exact ⟨b, rfl, Except.ok.inj h⟩

namespace Call

section
variable {visitorSession : VisitorSession} {uuid4 : ℕ → UUID} {now : Instant}
  {reservationId : UUID}

theorem spec_reserveQuantity (hd : Inv d) {payload : QuantityReservationCreate} :
    (Call.reserveQuantity visitorSession payload uuid4 now).spec settings d r d' ↔
      r = (QuantityReservationService.reserveOutcome settings visitorSession payload.eventId
        payload.ticketTypeId payload.quantity payload.idempotencyKey uuid4 now d).1.map .quantity ∧
      d' = (QuantityReservationService.reserveOutcome settings visitorSession payload.eventId
        payload.ticketTypeId payload.quantity payload.idempotencyKey uuid4 now d).2 :=
  (QuantityReservationService.atomically_reserve payload.quantity_pos _).solo_iff
    (fun _ _ h => by cases h; rfl) hd

theorem spec_reserveSeats (hd : Inv d) {payload : SeatReservationCreate} :
    (Call.reserveSeats visitorSession payload uuid4 now).spec settings d r d' ↔
      r = (SeatReservationService.reserveOutcome settings visitorSession payload.eventId
        payload.seatIds payload.idempotencyKey uuid4 now d).1.map .seats ∧
      d' = (SeatReservationService.reserveOutcome settings visitorSession payload.eventId
        payload.seatIds payload.idempotencyKey uuid4 now d).2 :=
  (SeatReservationService.atomically_reserve payload.seatIds_ne_nil payload.seats_unique _).solo_iff
    (fun _ _ h => by cases h; rfl) hd

theorem spec_cancel (hd : Inv d) : (Call.cancel reservationId visitorSession now).spec settings d r d' ↔
    r = (moveToOutcome .cancelled reservationId visitorSession now d).1.map .detail ∧
      d' = (moveToOutcome .cancelled reservationId visitorSession now d).2 :=
  (atomically_moveTo (by simp) now _).solo_iff (fun _ _ h => by cases h; rfl) hd

theorem spec_confirm (hd : Inv d) :
    (Call.confirm reservationId visitorSession now).spec settings d r d' ↔
      r = (moveToOutcome .confirmed reservationId visitorSession now d).1.map .detail ∧
        d' = (moveToOutcome .confirmed reservationId visitorSession now d).2 :=
  (atomically_moveTo (by simp) now _).solo_iff (fun _ _ h => by cases h; rfl) hd

/-- A batch expires the reservations it takes and counts them. -/
theorem spec_expireBatch (hd : Inv d) {batchSize : ℕ} {reservationIds : Option (List UUID)} :
    (Call.expireBatch batchSize now reservationIds).spec settings d r d' ↔
      ∃ xs, Expirable d batchSize now reservationIds xs ∧ r = .ok (.count xs.length) ∧
        d' = d.finishAll (xs.map Reservation.id) .expired := by
  refine exists_congr fun xs => and_congr_right fun hx => ?_
  obtain ⟨ws, rfl, hw⟩ := hx.wholes hd
  have hn : (ws.map fun w => w.reservation.id).Nodup := by simpa [Function.comp_def] using hx.nodup
  have hr : ∀ w ∈ ws, w.reservation.status = .reserved := fun w hw =>
    (hx.mem _ (List.mem_map_of_mem hw)).2.1
  obtain ⟨σ', hrun⟩ := run_expireLocked (σ := ∅) rfl hd hw hn hr
  have hsolo := Solo.of_run (f := Response.count) hrun
  rw [Solo] at hsolo
  rw [hsolo, Prod.mk.injEq, List.length_map, List.map_map]
  exact and_congr eq_comm eq_comm

end

end Call

/-- With nothing else running, the first stale reservations are locked. -/
theorem run_lockExpiredReservations (d : Database) (now : Instant) (batchSize : ℕ)
    (reservationIds : Option (List UUID)) :
    ∃ Λ, (lockExpiredReservations now batchSize reservationIds).run d ∅ =
      (.ok ((d.expiredReservations now reservationIds).take batchSize), d, ⟨[], Λ⟩) := by
  conv in List.take _ _ => rw [← List.filter_true (d.expiredReservations now reservationIds)]
  exact ⟨_, rfl⟩

/-- With nothing else running, a batch expires the first stale reservations. -/
theorem alone_expireBatch_inv (hd : Inv d) (batchSize : ℕ) (now : Instant)
    (reservationIds : Option (List UUID)) :
    (ReservationLifecycleService.expireBatch batchSize now reservationIds).alone d =
      (.ok ((d.expiredReservations now reservationIds).take batchSize).length,
        d.finishAll (((d.expiredReservations now reservationIds).take batchSize).map Reservation.id)
          .expired) := by
  have hx := expirable_pick hd batchSize now reservationIds fun _ => true
  rw [List.filter_true] at hx
  obtain ⟨ws, hws, hw⟩ := hx.wholes hd
  obtain ⟨Λ, hlock⟩ := run_lockExpiredReservations d now batchSize reservationIds
  rw [ReservationLifecycleService.expireBatch, Prog.bind_eq, Prog.alone, Prog.run_bind_ok hlock,
    ← hws]
  obtain ⟨σ, hrun⟩ := run_expireLocked (σ := ⟨[], Λ⟩) rfl hd hw
    (by simpa [← hws, Function.comp_def] using hx.nodup)
    fun w hw => (hx.mem _ (hws ▸ List.mem_map_of_mem hw)).2.1
  rw [hrun, List.length_map, List.map_map]
  rfl

/-- The owner moves a RESERVED reservation. -/
theorem moveToOutcome_reserved {s : ReservationStatus} {visitorSession : VisitorSession}
    {now : Instant} {x : Reservation} (hd : Inv d) (hx : x ∈ d.reservations)
    (hr : x.status = .reserved) (hs : s ≠ .reserved)
    (ho : x.ownedBy visitorSession.id visitorSession.userId) :
    moveToOutcome s x.id visitorSession now d = if x.expiresAt < now then
        (.error .reservationTransitionConflictError, d.finish x.id .expired)
      else (.ok ((Whole.of d x).finish s).detail, d.finish x.id s) := by
  have h1 : (Whole.of d x).reservation.status ≠ s := hr ▸ hs.symm
  have h2 : ¬ (Whole.of d x).reservation.status ≠ .reserved := not_not.2 hr
  rw [moveToOutcome, (ownedReservation_eq_some hd).2 ⟨hx, rfl, ho⟩]
  show moveOutcome s now (Whole.of d x) d = _
  rw [moveOutcome, if_neg h1, if_neg h2]
  rfl

/-- **A successful `cancel` or `confirm` shows the reservation it leaves**, in its
    target status. -/
theorem moveToOutcome_ok {s : ReservationStatus} {reservationId : UUID}
    {visitorSession : VisitorSession} {now : Instant} {a : ReservationDetailResponse} (hd : Inv d)
    (h : (moveToOutcome s reservationId visitorSession now d).1 = .ok a) :
    ∃ w : Whole, w.In (moveToOutcome s reservationId visitorSession now d).2 ∧
      w.reservation.id = reservationId ∧ w.reservation.status = s ∧ a = w.detail := by
  unfold moveToOutcome at h ⊢
  cases hx : d.ownedReservation reservationId visitorSession.id visitorSession.userId with
  | none => simp only [hx, reduceCtorEq] at h
  | some x =>
    obtain ⟨hxm, rfl, -⟩ := (ownedReservation_eq_some hd).1 hx
    simp only [hx, moveOutcome] at h ⊢
    split_ifs at h ⊢ with h1 h2 h3
    · cases h
      exact ⟨_, Whole.of_in hd hxm, rfl, h1, rfl⟩
    · cases h
      exact ⟨_, (Whole.of_in hd hxm).finish_self s, rfl, rfl, rfl⟩

/-! ## What a call does to the reservations -/

theorem Database.finishAll_reservations (d : Database) (ids : List UUID) (s : ReservationStatus) :
    (d.finishAll ids s).reservations =
      d.reservations.map fun r => if r.id ∈ ids then { r with status := s } else r := by
  induction ids generalizing d with
  | nil => simp [Database.finishAll]
  | cons x ids ih =>
    show ((d.finish x s).finishAll ids s).reservations = _
    rw [ih, Database.finish_reservations, List.map_map]
    refine List.map_congr_left fun r _ => ?_
    by_cases h1 : r.id = x <;> by_cases h2 : r.id ∈ ids <;> simp [Reservation.finish, h1, h2]

namespace Call

/-- **The call may change the status of the reservation `r`.**  The expiry
    checks are those of the code: `expires_at < now` in `cancel`, `confirm` and
    the worker, `expires_at <= now` when seats are reserved. -/
inductive MayMove (r : Reservation) : Call → ReservationStatus → Prop
  | confirm (visitorSession : VisitorSession) (now : Instant) :
      r.ownedBy visitorSession.id visitorSession.userId → now ≤ r.expiresAt →
      MayMove r (.confirm r.id visitorSession now) .confirmed
  | cancel (visitorSession : VisitorSession) (now : Instant) :
      r.ownedBy visitorSession.id visitorSession.userId → now ≤ r.expiresAt →
      MayMove r (.cancel r.id visitorSession now) .cancelled
  | staleConfirm (visitorSession : VisitorSession) (now : Instant) :
      r.ownedBy visitorSession.id visitorSession.userId → r.expiresAt < now →
      MayMove r (.confirm r.id visitorSession now) .expired
  | staleCancel (visitorSession : VisitorSession) (now : Instant) :
      r.ownedBy visitorSession.id visitorSession.userId → r.expiresAt < now →
      MayMove r (.cancel r.id visitorSession now) .expired
  | worker (batchSize : ℕ) (now : Instant) (reservationIds : Option (List UUID)) :
      r.expiresAt < now → MayMove r (.expireBatch batchSize now reservationIds) .expired
  | reserveSeats (visitorSession : VisitorSession) (payload : SeatReservationCreate)
      (uuid4 : ℕ → UUID) (now : Instant) : r.expiresAt ≤ now →
      MayMove r (.reserveSeats visitorSession payload uuid4 now) .expired

/-- The rows `ids` of `reservations` move from RESERVED to `s`, as the call may
    do, and the RESERVED rows `new` are added. -/
structure Moves (c : Call) (d d' : Database) (ids : List UUID) (s : ReservationStatus)
    (new : List Reservation) : Prop where
  reservations : d'.reservations =
    (d.reservations.map fun r => if r.id ∈ ids then { r with status := s } else r) ++ new
  may : ∀ r ∈ d.reservations, r.id ∈ ids → r.status = .reserved ∧ c.MayMove r s
  new : ∀ r ∈ new, r.status = .reserved

theorem Moves.refl (c : Call) (d : Database) : c.Moves d d [] .reserved [] :=
  ⟨by simp, by simp, by simp⟩

theorem moves_finish {c : Call} {x : Reservation} (hd : Inv d) (hx : x ∈ d.reservations)
    (hr : x.status = .reserved) {s : ReservationStatus} (hmay : c.MayMove x s) :
    c.Moves d (d.finish x.id s) [x.id] s [] := by
  refine ⟨?_, fun r hrm hrx => ?_, by simp⟩
  · rw [List.append_nil]
    exact List.map_congr_left fun r _ => by simp [Reservation.finish]
  · rw [hd.eq_of_id hrm hx (by simpa using hrx)]
    exact ⟨hr, hmay⟩

theorem moves_moveTo {c : Call} {target : ReservationStatus} {reservationId : UUID}
    {visitorSession : VisitorSession} {now : Instant} (hd : Inv d)
    (hlive : ∀ x : Reservation, x.id = reservationId →
      x.ownedBy visitorSession.id visitorSession.userId → now ≤ x.expiresAt → c.MayMove x target)
    (hstale : ∀ x : Reservation, x.id = reservationId →
      x.ownedBy visitorSession.id visitorSession.userId → x.expiresAt < now → c.MayMove x .expired) :
    ∃ ids s new, c.Moves d (moveToOutcome target reservationId visitorSession now d).2 ids s new := by
  unfold moveToOutcome
  cases hx : d.ownedReservation reservationId visitorSession.id visitorSession.userId with
  | none => exact ⟨_, _, _, .refl c d⟩
  | some x =>
    obtain ⟨hxm, hid, hown⟩ := (ownedReservation_eq_some hd).1 hx
    simp only [moveOutcome]
    split_ifs with h1 h2 h3
    · exact ⟨_, _, _, .refl c d⟩
    · exact ⟨_, _, _, .refl c d⟩
    · exact ⟨_, _, _, moves_finish hd hxm (not_not.1 h2) (hstale x hid hown h3)⟩
    · exact ⟨_, _, _, moves_finish hd hxm (not_not.1 h2) (hlive x hid hown (not_lt.1 h3))⟩

/-- **What a call does to the reservations.** -/
theorem moves {c : Call} (hd : Inv d) (h : c.spec settings d r d') :
    ∃ ids s new, c.Moves d d' ids s new := by
  cases c with
  | reserveQuantity visitorSession payload uuid4 now =>
    obtain ⟨-, rfl⟩ := (spec_reserveQuantity hd).1 h
    unfold QuantityReservationService.reserveOutcome
    split
    · exact ⟨_, _, _, .refl _ d⟩
    · exact ⟨_, _, _, .refl _ d⟩
    · split_ifs with hq hc
      · refine ⟨[], .reserved, _, by simp; rfl, by simp, fun r hr => ?_⟩
        rw [List.mem_singleton.1 hr, hc.reserved]
      · exact ⟨_, _, _, .refl _ d⟩
      · exact ⟨_, _, _, .refl _ d⟩
  | reserveSeats visitorSession payload uuid4 now =>
    obtain ⟨-, rfl⟩ := (spec_reserveSeats hd).1 h
    unfold SeatReservationService.reserveOutcome
    split
    · exact ⟨_, _, _, .refl _ d⟩
    · exact ⟨_, _, _, .refl _ d⟩
    · split_ifs with hq hc
      · exact ⟨_, _, _, .refl _ d⟩
      · refine ⟨_, _, _, rfl, fun r hr hrx => ?_, fun r hr => ?_⟩
        · obtain ⟨q, hq, hqr, -, hst, hle⟩ := mem_staleHolders.1 hrx
          obtain ⟨x, hx, hxq, -, hxst, hxe, -⟩ := hd.seat q hq
          rw [← hd.eq_of_id hx hr (hxq.trans hqr)]
          exact ⟨hxst ▸ hst, .reserveSeats _ _ _ _ (hxe ▸ hle)⟩
        · rw [List.mem_singleton.1 hr]; exact hc.reserved
      · exact ⟨_, _, _, .refl _ d⟩
  | get reservationId visitorSession =>
    obtain rfl : d' = d := h
    exact ⟨_, _, _, .refl _ d'⟩
  | cancel reservationId visitorSession now =>
    obtain ⟨-, rfl⟩ := (spec_cancel hd).1 h
    exact moves_moveTo hd (by rintro x rfl ho hn; exact .cancel _ _ ho hn)
      (by rintro x rfl ho hn; exact .staleCancel _ _ ho hn)
  | confirm reservationId visitorSession now =>
    obtain ⟨-, rfl⟩ := (spec_confirm hd).1 h
    exact moves_moveTo hd (by rintro x rfl ho hn; exact .confirm _ _ ho hn)
      (by rintro x rfl ho hn; exact .staleConfirm _ _ ho hn)
  | expireBatch batchSize now reservationIds =>
    obtain ⟨xs, hx, -, rfl⟩ := (spec_expireBatch hd).1 h
    refine ⟨xs.map Reservation.id, .expired, [], ?_, fun r hr hrx => ?_, by simp⟩
    · rw [Database.finishAll_reservations, List.append_nil]
    · obtain ⟨x, hxm, hxr⟩ := List.mem_map.1 hrx
      obtain ⟨h1, h2, h3, -⟩ := hx.mem x hxm
      rw [← hd.eq_of_id h1 hr hxr]
      exact ⟨h2, .worker _ _ _ h3⟩

end Call

end TicketReservation
