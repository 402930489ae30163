/-
  The first lock of a `reserve` call.

  A quantity request locks its ticket type before anything else, a seat request
  the first of its seats.  While the call holds any locks at a statement it
  holds this one, so of several requests for the same at most one is past it.

  * `firstGuard`: the guard that says so;
  * `always_reserveQuantity`, `always_reserveSeats`: all statements of the two
    `reserve` functions meet it.
-/
import TicketReservation.SeatLocks

namespace TicketReservation

open Txn

/-- A call that holds locks at a statement holds the first one. -/
def firstGuard (first : Database → Option Lock) : Guard Database Write Lock where
  stmt d σ _ := σ.locks = [] ∨ ∃ l ∈ first d, l ∈ σ.locks
  commit _ _ := True

/-! ## Past the first lock -/

/-- The call holds the first lock. -/
structure HasFirst (first : Database → Option Lock) (l : Lock) (d : Database) (σ : Session) : Prop where
  inv : Inv d
  first : first d = some l
  holds : l ∈ σ.locks

/-- With the first lock held, the program meets the guard.  It ends in `A`, or it fails after a
    rollback. -/
def PastFirst (first : Database → Option Lock) (l : Lock) (A : Database → Session → Prop) {α : Type}
    (p : Tx α) : Prop :=
  ∀ d σ, HasFirst first l d σ → always protocol (firstGuard first) p (fun r d σ => match r with
    | .ok _ => A d σ
    | .error _ => Inv d ∧ σ = ∅) d σ

section
variable {first : Database → Option Lock} {l : Lock} {A : Database → Session → Prop} {α β : Type}
  {d : Database} {σ : Session}

namespace PastFirst

theorem ret (a : α) : PastFirst first l (HasFirst first l) (.ret a) := fun _ _ h => h

theorem bind {p : Tx α} {f : α → Tx β} (hp : PastFirst first l (HasFirst first l) p)
    (hf : ∀ a, PastFirst first l A (f a)) : PastFirst first l A (p.bind f) := by
  intro d σ h
  refine always_bind (always_mono (fun r d σ hr => ?_) (hp d σ h))
  cases r with
  | ok a => exact hf a d σ hr
  | error e => exact hr

variable (hfirst : protocol.Keeps [] fun d => first d = some l)
include hfirst

theorem execute (plan : Database → Plan Write Lock β) :
    PastFirst first l (HasFirst first l) (execute plan) := by
  intro d σ h
  refine always_ofPlan (hfirst.mono (List.nil_subset _)) (fun d hi hf => ?_) h.inv h.first
  exact ⟨Or.inr ⟨l, hf, h.holds⟩, hi, hf, List.mem_append_left _ h.holds⟩

theorem flushInsert {fits : Database → Prop} [DecidablePred fits] {waits : Database → List Lock}
    {takes : List Lock} {write : Write} :
    PastFirst first l (HasFirst first l) (flushInsert fits waits takes write) := by
  refine bind (execute hfirst _) fun inserted => ?_
  cases inserted with
  | true => exact ret ()
  | false =>
    intro d σ h
    exact always_bind (always_rollback (hfirst.mono (List.nil_subset _))
      (fun d _ hf => Or.inr ⟨l, hf, h.holds⟩) (fun d hi _ => ⟨hi, rfl⟩) h.inv h.first)

theorem insertReservationSeats (rows : List ReservationSeat) :
    PastFirst first l (HasFirst first l) (insertReservationSeats rows) := by
  induction rows with
  | nil => exact ret ()
  | cons row rows ih => exact bind (flushInsert hfirst) fun _ => ih

theorem lockEach (lock : UUID → Lock) (matching : Database → UUID → Bool) (ids : List UUID) :
    PastFirst first l (HasFirst first l) (lockEach lock matching ids) := by
  induction ids with
  | nil => exact ret []
  | cons id ids ih => exact bind (execute hfirst _) fun _ => bind ih fun _ => ret _

theorem expireReservationsForSeats (seatIds : List UUID) (now : Instant) :
    PastFirst first l (HasFirst first l) (expireReservationsForSeats seatIds now) := by
  refine bind (execute hfirst _) fun ids => ?_
  split_ifs
  · exact ret ()
  · exact bind (lockEach hfirst _ _ _) fun _ => bind (execute hfirst _) fun _ => execute hfirst _

/-- The commit ends the transaction. -/
theorem commit (a : α) :
    PastFirst first l (fun _ _ => True) (Prog.commitTx.bind fun _ => .ret a : Tx α) :=
  fun _ _ h => always_bind (always_commitTx (hfirst.mono (List.nil_subset _))
    (fun _ _ _ => ⟨trivial, trivial⟩) h.inv h.first)

end PastFirst

theorem firstGuard_nil (d : Database) : (firstGuard first).stmt d ∅ [] := Or.inl rfl

/-- **The `INSERT`s and the commit**, and the replay if they fail. -/
theorem always_createOrReplay {ρ : Type} {create : Tx β} {query : Database → Except Error (Option ρ)}
    {toResponse : ρ → β} {conflict : Error} (hc : PastFirst first l (fun _ _ => True) create)
    (h : HasFirst first l d σ) : always protocol (firstGuard first) (create.tryCatch fun e =>
      if e = .integrityError then resolveConflictOrReplayBy
        (executeOrRaise fun d => { result := query d }) toResponse conflict
      else .raise e) (fun _ _ _ => True) d σ := by
  refine always_tryCatch (always_mono (fun r d σ hr => ?_) (hc d σ h))
  cases r with
  | ok a => trivial
  | error e =>
    obtain ⟨hi, rfl⟩ := hr
    simp only
    split_ifs
    · exact always_resolve firstGuard_nil (fun _ _ => trivial) hi
    · trivial

/-- The answer may take any form. -/
theorem always_map {G : Guard Database Write Lock} {p : Tx α} {f : α → β}
    (h : always protocol G p (fun _ _ _ => True) d σ) :
    always protocol G (p.map f) (fun _ _ _ => True) d σ :=
  always_bind (always_mono (fun r _ _ _ => by cases r <;> trivial) h)

end

/-! ## The two `reserve` functions -/

section
variable {settings : Settings} {visitorSession : VisitorSession} {uuid4 : ℕ → UUID} {now : Instant}
  {d : Database}

/-- What a guarded update of a ticket type does. -/
theorem updateTicketType_cases (d : Database) (ticketTypeId : UUID) (guard : TicketType → Bool)
    (Δr Δs : ℤ) : d.updateTicketType ticketTypeId guard Δr Δs = { result := .ok false } ∨
      (∃ w, d.updateTicketType ticketTypeId guard Δr Δs =
        { result := .ok true, takes := [.ticketType ticketTypeId], writes := [w] }) ∨
      ∃ Λ, d.updateTicketType ticketTypeId guard Δr Δs =
        { result := .error .integrityError, takes := Λ } := by
  unfold Database.updateTicketType
  split
  · exact Or.inl rfl
  · split_ifs
    · exact Or.inr (Or.inl ⟨_, rfl⟩)
    · exact Or.inr (Or.inr ⟨_, rfl⟩)

/-- **A quantity request locks its ticket type first.** -/
theorem always_reserveQuantity (payload : QuantityReservationCreate) (hi : Inv d) :
    always protocol (firstGuard fun _ => some (.ticketType payload.ticketTypeId))
      ((Call.reserveQuantity visitorSession payload uuid4 now).prog settings) (fun _ _ _ => True) d
      ∅ := by
  have hfirst : protocol.Keeps [] fun _ =>
    some (Lock.ticketType payload.ticketTypeId) = some (.ticketType payload.ticketTypeId) := .const
  refine always_map (always_bind (always_lookup firstGuard_nil (fun d hi => ?_) hi))
  cases hq : d.quantityLookup visitorSession.id payload.idempotencyKey with
  | error e => trivial
  | ok o =>
    cases o with
    | some existing => trivial
    | none =>
      refine always_bind ?_
      unfold reserveTicketQuantity
      split_ifs
      · refine always_bind (always_ofPlan hfirst (fun d hi _ => ⟨Or.inl rfl, ?_⟩) hi rfl)
        simp only [Session.view_empty, Session.empty_writes, Session.empty_locks, List.nil_append]
        rcases updateTicketType_cases d payload.ticketTypeId (fun t => t.eventId = payload.eventId &&
          t.totalQuantity - t.soldQuantity - t.reservedQuantity ≥ payload.quantity) payload.quantity 0
          with h | ⟨w, h⟩ | ⟨Λ, h⟩
        · rw [h]
          exact always_resolve firstGuard_nil (fun _ _ => trivial) hi
        · rw [h]
          refine always_createOrReplay ?_ ⟨hi, rfl, List.mem_singleton_self _⟩
          exact .bind (.flushInsert hfirst) fun _ => .bind (.flushInsert hfirst) fun _ =>
            .commit hfirst _
        · rw [h]
          trivial
      · trivial

/-- Some seats in order, locked one after another. -/
theorem first_of_prefix {ids : List UUID} {Λ : List Lock} (h : Λ <+: ids.map .seat) :
    Λ = [] ∨ ∃ l ∈ ids.head?.map .seat, l ∈ Λ := by
  cases Λ with
  | nil => exact Or.inl rfl
  | cons m Λ =>
    cases ids with
    | nil => simp at h
    | cons s ids =>
      rw [List.map_cons, List.cons_prefix_cons] at h
      obtain ⟨rfl, -⟩ := h
      exact Or.inr ⟨_, rfl, List.mem_cons_self⟩

theorem keeps_firstSeat (eventId : UUID) (seatIds : List UUID) (l : Lock) :
    protocol.Keeps [] fun d => (d.eventSeats eventId seatIds).head?.map .seat = some l :=
  keeps_catalogue fun _ _ _ seats => (((seats.filter fun s => s.eventId = eventId &&
    s.id ∈ seatIds).map Seat.id).insertionSort (· ≤ ·)).head?.map .seat = some l

/-- With all its seats locked, a request has locked the first. -/
theorem exists_hasFirst {eventId : UUID} {ids : List UUID} (hi : Inv d) (hne : ids ≠ [])
    (hids : d.eventSeats eventId ids = ids) : ∃ l,
    HasFirst (fun d => (d.eventSeats eventId ids).head?.map .seat) l d ⟨[], ids.map .seat⟩ := by
  obtain ⟨s, ids', rfl⟩ := List.exists_cons_of_ne_nil hne
  refine ⟨.seat s, hi, ?_, List.mem_cons_self⟩
  simp only [hids, List.head?_cons, Option.map_some]

/-- **A seat request locks its first seat first.** -/
theorem always_reserveSeats (payload : SeatReservationCreate) (hi : Inv d) :
    always protocol (firstGuard fun d => ((d.eventSeats payload.eventId
      (payload.seatIds.insertionSort (· ≤ ·))).head?.map .seat))
      ((Call.reserveSeats visitorSession payload uuid4 now).prog settings) (fun _ _ _ => True) d ∅ := by
  refine always_map (always_bind (always_lookup firstGuard_nil (fun d hi => ?_) hi))
  cases hq : d.seatLookup visitorSession.id payload.idempotencyKey with
  | error e => trivial
  | ok o =>
    cases o with
    | some existing => trivial
    | none =>
      have hlock : Settled (fun e => e.seats = d.seats)
          (lockEventSeats payload.eventId (payload.seatIds.insertionSort (· ≤ ·))) ∅ _ _ :=
        settled_lockEventSeats
      refine always_bind (hlock.always (keeps_seats ∅ d) (fun e τ Λ Λ' _ he _ hp _ => ?_)
        (fun e hi he => ?_) hi rfl)
      · simp only [firstGuard, eventSeats_congr he]
        exact first_of_prefix ((List.prefix_append _ _).trans hp)
      · by_cases hs : d.eventSeats payload.eventId (payload.seatIds.insertionSort (· ≤ ·)) =
          payload.seatIds.insertionSort (· ≤ ·)
        · simp only [hs, ne_eq, not_true, if_false]
          have hne : payload.seatIds.insertionSort (· ≤ ·) ≠ [] := fun h =>
            payload.seatIds_ne_nil (h ▸ List.perm_insertionSort (· ≤ ·) payload.seatIds).nil_eq.symm
          obtain ⟨l, hhas⟩ := exists_hasFirst hi hne ((eventSeats_congr he _ _).trans hs)
          have hpast := keeps_firstSeat payload.eventId (payload.seatIds.insertionSort (· ≤ ·)) l
          refine always_bind (always_mono (fun r d σ hr => ?_)
            (PastFirst.expireReservationsForSeats hpast _ now e _ hhas))
          cases r with
          | error e => trivial
          | ok a =>
            refine always_createOrReplay ?_ hr
            exact .bind (.flushInsert hpast) fun _ => .bind (.insertReservationSeats hpast _) fun _ =>
              .commit hpast _
        · simp only [hs, ne_eq, not_false_eq_true, if_true]
          refine always_bind (always_rollback (keeps_seats _ d) (fun e _ he => ?_)
            (fun _ _ _ => trivial) hi he)
          simp only [firstGuard, eventSeats_congr he]
          exact first_of_prefix (List.prefix_refl _)

end

end TicketReservation
