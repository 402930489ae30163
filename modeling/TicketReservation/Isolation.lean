/-
  Calls on any database that satisfies the schema.

  The schema also allows reservations that the services never create: several
  items, children in a status of their own, counters that do not match.

  * `expireBatch_fold`: a batch is a fold over its reservations; each expires
    as a whole or stays as it is, whatever happens to the others;
  * `failed_call_intact`: a call that fails leaves the tables as they were,
    but for `cancel` and `confirm`, which expire a stale reservation first.
-/
import TicketReservation.Starvation

namespace TicketReservation

open Txn ReservationLifecycleService

/-! ## The fold -/

/-- Take the reservations one after another; expire each that can expire in
    what the earlier ones have left, and count these. -/
def Database.expireInOrder (d : Database) : List Reservation → ℕ × Database
  | [] => (0, d)
  | x :: xs =>
    if d.CanExpire x then
      (((d.expireReservation x).expireInOrder xs).1 + 1, ((d.expireReservation x).expireInOrder xs).2)
    else d.expireInOrder xs

section
variable {d : Database} {x : Reservation} {σ : Session}

theorem held_nonneg_schema (h : Schema d) (y t : UUID) : 0 ≤ d.held y t :=
  Table.sum_nonneg fun i hi => (h.itemQuantities i (List.mem_filter.1 hi).1).le

/-- **An expiration keeps the constraints.** -/
theorem Schema.expireReservation (h : Schema d) (hc : d.CanExpire x) :
    Schema (d.expireReservation x) := by
  unfold Database.CanExpire at hc
  unfold Database.expireReservation
  cases hkind : x.reservationType with
  | quantity =>
    simp only [hkind] at hc ⊢
    exact { h with
      ticketTypeIds := Table.nodup_map_key (by simp) h.ticketTypeIds
      ticketTypeEvents := List.forall_mem_map.2 h.ticketTypeEvents
      ticketTypeChecks := List.forall_mem_map.2 fun t ht => by
        have hchecks := h.ticketTypeChecks t ht
        have hheld := held_nonneg_schema h x.id t.id
        have hle := hc.2.2 t ht
        have hsum := hchecks.allocated
        refine ⟨hchecks.total, ?_, ?_, ?_⟩ <;>
          simp only [TicketType.add_soldQuantity, TicketType.add_reservedQuantity,
            TicketType.add_totalQuantity, add_zero]
        · exact hchecks.sold
        · omega
        · omega
      ticketTypeInts := List.forall_mem_map.2 h.ticketTypeInts
      reservationIds := Table.nodup_map_key (by simp) h.reservationIds
      visitorKeys := Table.nodup_map_key (by simp) h.visitorKeys
      reservationKeys := by simpa using h.reservationKeys
      reservationEvents := by simpa using h.reservationEvents
      reservationSessions := by simpa using h.reservationSessions
      reservationUsers := by simpa using h.reservationUsers
      itemIds := Table.nodup_map_key (by simp) h.itemIds
      itemReservations := by simpa using h.itemReservations
      itemTicketTypes := by simpa using h.itemTicketTypes
      itemQuantities := by simpa using h.itemQuantities
      seatRowReservations := by simpa using h.seatRowReservations }
  | seats =>
    simp only [hkind] at hc ⊢
    exact { h with
      reservationIds := Table.nodup_map_key (by simp) h.reservationIds
      visitorKeys := Table.nodup_map_key (by simp) h.visitorKeys
      reservationKeys := by simpa using h.reservationKeys
      reservationEvents := by simpa using h.reservationEvents
      reservationSessions := by simpa using h.reservationSessions
      reservationUsers := by simpa using h.reservationUsers
      itemReservations := by simpa using h.itemReservations
      seatRowIds := Table.nodup_map_key (by simp) h.seatRowIds
      seatRowReservations := by simpa using h.seatRowReservations
      seatRowSeats := by simpa using h.seatRowSeats
      activeSeats := Table.nodup_filter_map (by simp) (fun q _ hact => by
        by_cases hq : q.reservationId = x.id
        · simp [ReservationSeat.finish_status, hq] at hact
        · simpa [ReservationSeat.finish_status, hq] using hact) h.activeSeats }

/-- **The loop of the worker is the fold.** -/
theorem run_expireEach_fold {xs : List Reservation} (h : Schema (σ.view d))
    (hx : ∀ x ∈ xs, x.status = .reserved) :
    ∃ σ', (expireEach xs).run d σ = (.ok ((σ.view d).expireInOrder xs).1, d, σ') ∧
      σ'.view d = ((σ.view d).expireInOrder xs).2 := by
  induction xs generalizing σ with
  | nil => exact ⟨σ, rfl, rfl⟩
  | cons x xs ih =>
    rw [expireEach, Prog.bind_eq]
    have hx' := fun y hy => hx y (List.mem_cons_of_mem _ hy)
    rcases run_expireOne h (hx x List.mem_cons_self) with ⟨hc, σ₁, hone, hview⟩ | ⟨hc, Λ, hone⟩
    · -- it has expired: the others go on from there
      obtain ⟨σ', hrest, hview'⟩ := ih (σ := σ₁) (hview ▸ h.expireReservation hc) hx'
      refine ⟨σ', ?_, ?_⟩
      · rw [Prog.run_bind_ok hone, Prog.bind_eq, Prog.run_bind_ok hrest, hview,
          Database.expireInOrder, if_pos hc, Nat.add_comm]
        rfl
      · rw [hview', hview, Database.expireInOrder, if_pos hc]
    · -- the savepoint has undone it
      obtain ⟨σ', hrest, hview'⟩ := ih (σ := ⟨σ.writes, Λ⟩) h hx'
      refine ⟨σ', ?_, ?_⟩
      · rw [Prog.run_bind_ok hone, Prog.bind_eq, Prog.run_bind_ok hrest, Database.expireInOrder,
          if_neg hc]
        simp only [Prog.pure_eq, Prog.run_ret, Nat.zero_add]
        rfl
      · rw [hview', Database.expireInOrder, if_neg hc]
        rfl

/-- **A batch is a fold over the first stale reservations**: each of them expires as a whole, if
    it can in what the earlier ones have left, or keeps its rows and the stock as they are. -/
theorem expireBatch_fold (h : Schema d) (batchSize : ℕ) (now : Instant)
    (reservationIds : Option (List UUID)) :
    (expireBatch batchSize now reservationIds).alone d =
      (.ok (d.expireInOrder ((d.expiredReservations now reservationIds).take batchSize)).1,
        (d.expireInOrder ((d.expiredReservations now reservationIds).take batchSize)).2) := by
  obtain ⟨Λ, hlock⟩ := run_lockExpiredReservations d now batchSize reservationIds
  set xs := (d.expiredReservations now reservationIds).take batchSize with hxs
  have hx : ∀ x ∈ xs, x.status = .reserved := by
    intro x hx
    have hx := List.mem_of_mem_take hx
    rw [Database.expiredReservations, mem_orderBy, List.mem_filter] at hx
    simp only [Bool.and_eq_true, decide_eq_true_eq] at hx
    exact hx.2.1.1
  rw [expireBatch, Prog.bind_eq, Prog.alone, Prog.run_bind_ok hlock, expireLocked]
  by_cases hnil : xs = []
  · rw [if_pos hnil, hnil]
    rfl
  · obtain ⟨σ', hrun, hview⟩ := run_expireEach_fold (σ := ⟨[], Λ⟩) h hx
    rw [if_neg hnil, Prog.bind_eq, Prog.run_bind_ok hrun, Prog.bind_eq,
      Prog.run_bind_ok (Prog.run_commitTx d σ'), hview]
    rfl

/-! ## Calls that fail -/

theorem reads_execute {β : Type} (plan : Database → Plan Write Lock β) : (execute plan).Reads :=
  Prog.reads_exec _

theorem reads_executeOrRaise {β : Type} (plan : Database → Plan Write Lock (Except Error β)) :
    (executeOrRaise plan).Reads :=
  (reads_execute plan).bind fun r => by cases r <;> trivial

theorem reads_resolveConflictOrReplayBy {ρ β : Type} {lookup : Tx (Option ρ)} {toResponse : ρ → β}
    {conflict : Error} (h : lookup.Reads) :
    (resolveConflictOrReplayBy lookup toResponse conflict).Reads :=
  Prog.Reads.bind (Prog.reads_exec _) fun _ => Prog.Reads.bind h fun o => by
    cases o with
    | none => exact Prog.Reads.bind (Prog.reads_exec _) fun _ => trivial
    | some existing => trivial

theorem reads_flushInsert {fits : Database → Prop} [DecidablePred fits]
    {waits : Database → List Lock} {takes : List Lock} {write : Write} :
    (flushInsert fits waits takes write).Reads :=
  Prog.Reads.bind (reads_execute _) fun inserted => by
    cases inserted
    · exact Prog.Reads.bind (Prog.reads_exec _) fun _ => trivial
    · trivial

theorem reads_insertReservationSeats (rows : List ReservationSeat) :
    (insertReservationSeats rows).Reads := by
  induction rows with
  | nil => trivial
  | cons row rows ih => exact Prog.Reads.bind reads_flushInsert fun _ => ih

theorem reads_lockEach {lock : UUID → Lock} {matching : Database → UUID → Bool} (ids : List UUID) :
    (lockEach lock matching ids).Reads := by
  induction ids with
  | nil => trivial
  | cons id ids ih =>
    exact Prog.Reads.bind (reads_execute _) fun _ => Prog.Reads.bind ih fun _ => trivial

/-- **A failed `reserve` leaves the tables as they were.** -/
theorem QuantityReservationService.undone_reserve (settings : Settings)
    (visitorSession : VisitorSession) (eventId ticketTypeId : UUID) (quantity : ℤ)
    (idempotencyKey : String) (uuid4 : ℕ → UUID) (now : Instant) :
    (reserve settings visitorSession eventId ticketTypeId quantity idempotencyKey uuid4 now).Undone := by
  have hlookup : (getQuantityByIdempotencyKey visitorSession.id idempotencyKey).Reads :=
    reads_executeOrRaise _
  have hreplay : (resolveConflictOrReplay visitorSession.id idempotencyKey).Reads :=
    reads_resolveConflictOrReplayBy hlookup
  refine Prog.Undone.bind hlookup fun o => ?_
  cases o with
  | some existing => exact Prog.Reads.undone trivial
  | none =>
    refine Prog.Undone.bind (p := reserveTicketQuantity eventId ticketTypeId quantity) ?_ fun b => ?_
    · unfold reserveTicketQuantity
      split
      · exact reads_executeOrRaise _
      · trivial
    cases b with
    | false => exact hreplay.undone
    | true =>
      refine Prog.Undone.tryCatch ?_ fun e => ?_
      · exact Prog.Undone.bind reads_flushInsert fun _ => Prog.Undone.bind reads_flushInsert fun _ =>
          Prog.undone_commit _
      · split
        · exact hreplay.undone
        · exact Prog.Reads.undone trivial

theorem SeatReservationService.undone_reserve (settings : Settings)
    (visitorSession : VisitorSession) (eventId : UUID) (seatIds : List UUID)
    (idempotencyKey : String) (uuid4 : ℕ → UUID) (now : Instant) :
    (reserve settings visitorSession eventId seatIds idempotencyKey uuid4 now).Undone := by
  have hlookup : (getSeatsByIdempotencyKey visitorSession.id idempotencyKey).Reads :=
    reads_executeOrRaise _
  have hreplay : (resolveConflictOrReplay visitorSession.id idempotencyKey).Reads :=
    reads_resolveConflictOrReplayBy hlookup
  refine Prog.Undone.bind hlookup fun o => ?_
  cases o with
  | some existing => exact Prog.Reads.undone trivial
  | none =>
    refine Prog.Undone.bind (Prog.Reads.bind (reads_execute _) fun _ => reads_lockEach _) fun ids => ?_
    split
    · exact Prog.Reads.undone (Prog.Reads.bind (Prog.reads_exec _) fun _ => trivial)
    · refine Prog.Undone.bind ?_ fun _ => Prog.Undone.tryCatch ?_ fun e => ?_
      · refine Prog.Reads.bind (reads_execute _) fun ids => ?_
        split
        · trivial
        · exact Prog.Reads.bind (reads_lockEach _) fun _ =>
            Prog.Reads.bind (reads_execute _) fun _ => reads_execute _
      · exact Prog.Undone.bind reads_flushInsert fun _ =>
          Prog.Undone.bind (reads_insertReservationSeats _) fun _ => Prog.undone_commit _
      · split
        · exact hreplay.undone
        · exact Prog.Reads.undone trivial

theorem reads_toDetailResponse (x : Reservation) : (toDetailResponse x).Reads :=
  Prog.Reads.bind (reads_execute _) fun _ => Prog.Reads.bind (reads_execute _) fun _ => trivial

theorem raises_toDetailResponse {E : Error → Prop} (x : Reservation) : (toDetailResponse x).Raises E :=
  Prog.Raises.bind (Prog.Raises.exec _) fun _ =>
    Prog.Raises.bind (Prog.Raises.exec _) fun _ => Prog.Raises.ret _

/-- What a transition raises. -/
abbrev TransitionError (e : Error) : Prop := e = .reservationInventoryConflictError ∨ e = .integrityError

theorem raises_updateTicketType (ticketTypeId : UUID) (guard : TicketType → Bool) (Δr Δs : ℤ) :
    (updateTicketType ticketTypeId guard Δr Δs).Raises TransitionError := by
  have hplan : ∀ d : Database, (d.updateTicketType ticketTypeId guard Δr Δs).result =
      .error .integrityError ∨ ∃ b, (d.updateTicketType ticketTypeId guard Δr Δs).result = .ok b := by
    intro d
    unfold Database.updateTicketType
    split
    · exact Or.inr ⟨false, rfl⟩
    · split
      · exact Or.inr ⟨true, rfl⟩
      · exact Or.inl rfl
  intro d σ e he
  rw [updateTicketType, executeOrRaise, Prog.bind_eq, Prog.run_bind, execute, Prog.run_exec] at he
  rcases hplan (σ.view d) with hr | ⟨b, hr⟩
  · simp only [Stmt.ofPlan, hr] at he
    cases he
    exact Or.inr rfl
  · simp only [Stmt.ofPlan, hr] at he
    cases he

theorem raises_transitionItems (s : ReservationStatus) (items : List ReservationItem) :
    (transitionItems s items).Reads ∧ (transitionItems s items).Raises TransitionError := by
  induction items with
  | nil => exact ⟨trivial, Prog.Raises.ret _⟩
  | cons i items ih =>
    rw [transitionItems]
    split
    · exact ⟨trivial, Prog.Raises.raise (Or.inl rfl)⟩
    · have hmove : (moveQuantity s i).Reads ∧ (moveQuantity s i).Raises TransitionError := by
        unfold moveQuantity
        split <;> exact ⟨reads_executeOrRaise _, raises_updateTicketType _ _ _ _⟩
      refine ⟨Prog.Reads.bind hmove.1 fun updated => ?_, Prog.Raises.bind hmove.2 fun updated => ?_⟩
      · split
        · trivial
        · exact Prog.Reads.bind (reads_execute _) fun _ => ih.1
      · split
        · exact Prog.Raises.raise (Or.inl rfl)
        · exact Prog.Raises.bind (Prog.Raises.exec _) fun _ => ih.2

theorem raises_transitionSeatRows (s : ReservationStatus) (rows : List ReservationSeat) :
    (transitionSeatRows s rows).Reads ∧ (transitionSeatRows s rows).Raises TransitionError := by
  induction rows with
  | nil => exact ⟨trivial, Prog.Raises.ret _⟩
  | cons q rows ih =>
    rw [transitionSeatRows]
    split
    · exact ⟨trivial, Prog.Raises.raise (Or.inl rfl)⟩
    · exact ⟨Prog.Reads.bind (reads_execute _) fun _ => ih.1,
        Prog.Raises.bind (Prog.Raises.exec _) fun _ => ih.2⟩

/-- A transition does not commit, and raises a conflict of the inventory or of a constraint. -/
theorem raises_transitionReserved (x : Reservation) (s : ReservationStatus) :
    (transitionReserved x s).Reads ∧ (transitionReserved x s).Raises TransitionError := by
  have hchildren : (transitionChildren x s).Reads ∧ (transitionChildren x s).Raises TransitionError := by
    unfold transitionChildren
    cases x.reservationType with
    | quantity =>
      refine ⟨Prog.Reads.bind (reads_execute _) fun items => ?_,
        Prog.Raises.bind (Prog.Raises.exec _) fun items => ?_⟩ <;> split
      · trivial
      · exact (raises_transitionItems s items).1
      · exact Prog.Raises.raise (Or.inl rfl)
      · exact (raises_transitionItems s items).2
    | seats =>
      refine ⟨Prog.Reads.bind (reads_execute _) fun rows => ?_,
        Prog.Raises.bind (Prog.Raises.exec _) fun rows => ?_⟩ <;> split
      · trivial
      · exact (raises_transitionSeatRows s rows).1
      · exact Prog.Raises.raise (Or.inl rfl)
      · exact (raises_transitionSeatRows s rows).2
  rw [transitionReserved]
  split
  · exact ⟨trivial, Prog.Raises.ret _⟩
  · exact ⟨Prog.Reads.bind hchildren.1 fun _ => reads_execute _,
      Prog.Raises.bind hchildren.2 fun _ => Prog.Raises.exec _⟩

theorem raises_rollbackOnInventoryConflict {p : Tx Unit} (h : p.Reads ∧ p.Raises TransitionError) :
    (rollbackOnInventoryConflict p).Reads ∧ (rollbackOnInventoryConflict p).Raises TransitionError := by
  refine ⟨Prog.Reads.tryCatch h.1 fun e => ?_, Prog.Raises.tryCatch h.2 fun e he => ?_⟩ <;> split
  · exact Prog.Reads.bind (Prog.reads_exec _) fun _ => trivial
  · trivial
  · exact Prog.Raises.bind (Prog.Raises.exec _) fun _ => Prog.Raises.raise he
  · exact Prog.Raises.raise he

/-- **When `cancel` or `confirm` fails.**  It has changed nothing, or it has expired a stale
    reservation first. -/
theorem run_moveLocked_error {s : ReservationStatus} {now : Instant} {e : Error} (h : Schema d)
    (hσ : σ.writes = []) (he : ((moveLocked s now x).run d σ).1 = .error e) :
    (e ≠ .reservationTransitionConflictError ∧ ((moveLocked s now x).run d σ).2.1 = d) ∨
    (e = .reservationTransitionConflictError ∧
      ((x.status ≠ .reserved ∧ ((moveLocked s now x).run d σ).2.1 = d) ∨
        (x.status = .reserved ∧ x.expiresAt < now ∧
          ((moveLocked s now x).run d σ).2.1 = d.expireReservation x))) := by
  have hview : σ.view d = d := σ.view_of_no_writes hσ d
  have hne : ∀ {e}, TransitionError e → e ≠ .reservationTransitionConflictError := by
    rintro _ (rfl | rfl) <;> simp
  by_cases h1 : x.status = s
  · rw [moveLocked, if_pos h1] at he ⊢
    refine Or.inl ⟨?_, ?_⟩
    · exact hne (Prog.Raises.bind (raises_toDetailResponse x) (fun _ =>
        Prog.Raises.bind (Prog.Raises.exec _) fun _ => Prog.Raises.ret _) d σ e he)
    · refine Prog.Reads.run (Prog.Reads.bind (reads_toDetailResponse x) fun response => ?_) d σ
      exact Prog.Reads.bind (Prog.reads_exec _) fun _ => trivial
  by_cases h2 : x.status ≠ .reserved
  · rw [moveLocked, if_neg h1, if_pos h2] at he ⊢
    cases he
    exact Or.inr ⟨rfl, Or.inl ⟨h2, rfl⟩⟩
  have hr : x.status = .reserved := not_not.1 h2
  by_cases h3 : x.expiresAt < now
  · rw [moveLocked, if_neg h1, if_neg h2, if_pos h3] at he ⊢
    rcases run_transitionReserved (hview.symm ▸ h) hr with ⟨-, σ', hrun, hexpired⟩ | ⟨-, σ', hrun⟩
    · have hroll : (rollbackOnInventoryConflict (transitionReserved x .expired)).run d σ =
          (.ok (), d, σ') := by
        rw [rollbackOnInventoryConflict, Prog.run_tryCatch, hrun]
      rw [Prog.bind_eq, Prog.run_bind_ok hroll] at he ⊢
      cases he
      exact Or.inr ⟨rfl, Or.inr ⟨hr, h3, by rw [← hview, ← hexpired, hview]; rfl⟩⟩
    · have hroll : (rollbackOnInventoryConflict (transitionReserved x .expired)).run d σ =
          (.error .reservationInventoryConflictError, d, ∅) := by
        rw [rollbackOnInventoryConflict, Prog.run_tryCatch, hrun]
        rfl
      rw [Prog.bind_eq, Prog.run_bind_error hroll] at he ⊢
      cases he
      exact Or.inl ⟨by simp, rfl⟩
  · rw [moveLocked, if_neg h1, if_neg h2, if_neg h3] at he ⊢
    have hmove := raises_rollbackOnInventoryConflict (raises_transitionReserved x s)
    have hcommit : (Prog.commitTx : Tx Unit).Raises TransitionError := by
      intro d σ e h
      cases h
    refine Or.inl ⟨?_, ?_⟩
    · exact hne (Prog.Raises.bind hmove.2 (fun _ => Prog.Raises.bind (raises_toDetailResponse _)
        fun _ => Prog.Raises.bind hcommit fun _ => Prog.Raises.ret _) d σ e he)
    · exact Prog.Undone.bind hmove.1 (fun _ => Prog.Undone.bind (reads_toDetailResponse _) fun _ =>
        Prog.undone_commit _) d σ e he

/-- The error of a `cancel` or `confirm`, and the tables it leaves. -/
theorem alone_moveTo_error {s : ReservationStatus} {reservationId : UUID}
    {visitorSession : VisitorSession} {now : Instant} {e : Error} (h : Schema d)
    (he : ((moveTo s reservationId visitorSession now).alone d).1 = .error e) :
    (e ≠ .reservationTransitionConflictError →
      ((moveTo s reservationId visitorSession now).alone d).2 = d) ∧
    (e = .reservationTransitionConflictError → ∃ x ∈ d.reservations, x.id = reservationId ∧
      ((x.status ≠ .reserved ∧ ((moveTo s reservationId visitorSession now).alone d).2 = d) ∨
        (x.status = .reserved ∧ x.expiresAt < now ∧
          ((moveTo s reservationId visitorSession now).alone d).2 = d.expireReservation x))) := by
  cases ho : d.ownedReservation reservationId visitorSession.id visitorSession.userId with
  | none =>
    have hlock : (lockOwned reservationId visitorSession).run d ∅ =
        (.error .reservationNotFoundError, d, ∅) := by
      rw [lockOwned, Prog.bind_eq, getOwnedReservation, execute, Prog.run_bind, Prog.run_exec]
      simp only [Stmt.ofPlan, Session.view_empty, ho]
      rfl
    rw [Prog.alone, moveTo, Prog.bind_eq, Prog.run_bind_error hlock] at he ⊢
    cases he
    exact ⟨fun _ => rfl, by rintro ⟨⟩⟩
  | some x =>
    have hlock : ∃ Λ, (lockOwned reservationId visitorSession).run d ∅ = (.ok x, d, ⟨[], Λ⟩) := by
      rw [lockOwned, Prog.bind_eq, getOwnedReservation, execute, Prog.run_bind, Prog.run_exec]
      simp only [Stmt.ofPlan, Session.view_empty, ho]
      exact ⟨_, rfl⟩
    obtain ⟨Λ, hlock⟩ := hlock
    have hx := List.mem_of_find?_eq_some ho
    have hid := List.find?_some ho
    rw [Bool.and_eq_true, decide_eq_true_eq] at hid
    rw [Prog.alone, moveTo, Prog.bind_eq, Prog.run_bind_ok hlock] at he ⊢
    rcases run_moveLocked_error h rfl he with ⟨hne, hd⟩ | ⟨hcon, hd⟩
    · exact ⟨fun _ => hd, fun hcon => absurd hcon hne⟩
    · exact ⟨fun hne => absurd hcon hne, fun _ => ⟨x, hx, hid.1, hd⟩⟩

theorem alone_map_error {α : Type} {p : Tx α} {f : α → Response} {e : Error} {d' : Database}
    (h : (Prog.map f p).alone d = (.error e, d')) :
    (p.alone d).1 = .error e ∧ (p.alone d).2 = d' := by
  have hmap : (Prog.map f p).alone d = ((p.alone d).1.map f, (p.alone d).2) := Prog.alone_map rfl
  rw [hmap, Prod.mk.injEq] at h
  refine ⟨?_, h.2⟩
  cases hp : (p.alone d).1 with
  | error e' =>
    rw [hp] at h
    cases h.1
    rfl
  | ok a =>
    rw [hp] at h
    cases h.1

/-- **A call that fails leaves the tables intact**, but for a `ReservationTransitionConflictError`:
    then the reservation was final and nothing has changed, or it was stale and has expired. -/
theorem failed_call_intact (settings : Settings) (c : Call) (h : Schema d) {e : Error} {d' : Database}
    (hrun : (c.prog settings).alone d = (.error e, d')) :
    (e ≠ .reservationTransitionConflictError → d' = d) ∧
    ∀ reservationId visitorSession now,
      (c = .cancel reservationId visitorSession now ∨ c = .confirm reservationId visitorSession now) →
      e = .reservationTransitionConflictError →
      ∃ x ∈ d.reservations, x.id = reservationId ∧ ((x.status ≠ .reserved ∧ d' = d) ∨
        (x.status = .reserved ∧ x.expiresAt < now ∧ d' = d.expireReservation x)) := by
  cases c with
  | reserveQuantity visitorSession payload uuid4 now =>
    obtain ⟨he, rfl⟩ := alone_map_error hrun
    refine ⟨fun _ => QuantityReservationService.undone_reserve _ _ _ _ _ _ _ _ d ∅ e he, ?_⟩
    rintro _ _ _ (hc | hc) <;> cases hc
  | reserveSeats visitorSession payload uuid4 now =>
    obtain ⟨he, rfl⟩ := alone_map_error hrun
    refine ⟨fun _ => SeatReservationService.undone_reserve _ _ _ _ _ _ _ d ∅ e he, ?_⟩
    rintro _ _ _ (hc | hc) <;> cases hc
  | get reservationId visitorSession =>
    obtain ⟨-, hd⟩ := Prod.mk.inj hrun
    refine ⟨fun _ => hd.symm.trans ((get_reads reservationId visitorSession settings).run d ∅), ?_⟩
    rintro _ _ _ (hc | hc) <;> cases hc
  | cancel reservationId visitorSession now =>
    obtain ⟨he, rfl⟩ := alone_map_error hrun
    obtain ⟨h1, h2⟩ := alone_moveTo_error h he
    refine ⟨h1, ?_⟩
    rintro _ _ _ (hc | hc) <;> cases hc
    exact h2
  | confirm reservationId visitorSession now =>
    obtain ⟨he, rfl⟩ := alone_map_error hrun
    obtain ⟨h1, h2⟩ := alone_moveTo_error h he
    refine ⟨h1, ?_⟩
    rintro _ _ _ (hc | hc) <;> cases hc
    exact h2
  | expireBatch batchSize now reservationIds =>
    obtain ⟨he, -⟩ := alone_map_error hrun
    rw [expireBatch_fold h] at he
    cases he

end

/-! ## Samples -/

/-- The batch skips the broken reservation and expires the good one. -/
theorem expireBatch_fold_broken : (expireBatch 2 10 none).alone Sample.broken =
    (.ok (Sample.broken.expireInOrder ((Sample.broken.expiredReservations 10 none).take 2)).1,
      (Sample.broken.expireInOrder ((Sample.broken.expiredReservations 10 none).take 2)).2) ∧
    (Sample.broken.expireInOrder ((Sample.broken.expiredReservations 10 none).take 2)).1 = 1 :=
  ⟨expireBatch_fold Sample.schema_broken 2 10 none, by decide⟩

/-- The good reservation expires when its owner cancels it too late. -/
theorem failed_call_intact_late : ∃ x ∈ Sample.broken.reservations, x.id = 101 ∧
    ((x.status ≠ .reserved ∧
      (((Call.cancel 101 Sample.alice 7).prog Sample.settings).alone Sample.broken).2 =
        Sample.broken) ∨
    (x.status = .reserved ∧ x.expiresAt < 7 ∧
      (((Call.cancel 101 Sample.alice 7).prog Sample.settings).alone Sample.broken).2 =
        Sample.broken.expireReservation x)) :=
  (failed_call_intact Sample.settings (.cancel 101 Sample.alice 7) Sample.schema_broken rfl).2
    101 Sample.alice 7 (Or.inl rfl) rfl

end TicketReservation
