/-
  The stress data (`StressAdminService.seed` and `reset`, stress_admin/service.py).

  `seed` adds an event whose name begins with `stressEventPrefix`.  `reset`
  finds the stress events by a `LIKE` pattern, deletes what was reserved for
  them and then the events.  Both are only executed alone; the row locks of the
  deletions are left out.

  * `Database.withoutEvents`: the database without some events and all that
    belongs to them; it satisfies the invariant (`Inv.withoutEvents`);
  * `alone_reset`: `reset` deletes the events whose names match the pattern.
-/
import TicketReservation.Events
import TicketReservation.Like

namespace TicketReservation

open Txn

namespace StressAdminService

def stressEventPrefix : String := "__stress_seed__:"

/-! ## Seeding -/

/-- `UUID.hex`: 32 hexadecimal digits. -/
def hex (u : UUID) : String :=
  String.ofList ((List.range 32).map fun k => Nat.digitChar (u / 16 ^ (31 - k) % 16))

structure StressSeedResponse where
  eventId : UUID
  ticketTypeId : UUID
  seatIds : List UUID
  deriving DecidableEq, Repr

def hour : Instant := 3600000000

def stressEvent (now : Instant) (uuid4 : ℕ → UUID) : Event :=
  { id := uuid4 0, name := stressEventPrefix ++ hex (uuid4 1), startsAt := now + 24 * hour,
    endsAt := now + 24 * hour + 3 * hour }

def stressTicketType (uuid4 : ℕ → UUID) : TicketType :=
  { id := uuid4 2, eventId := uuid4 0, name := "General Admission", totalQuantity := 1000,
    soldQuantity := 0, reservedQuantity := 0 }

def stressSeats (uuid4 : ℕ → UUID) : List Seat :=
  (List.range' 1 10).flatMap fun rowNumber => (List.range' 1 10).map fun seatNumber =>
    { id := uuid4 (10 * rowNumber + seatNumber - 8), eventId := uuid4 0, section_ := "A",
      rowName := toString rowNumber, seatNumber := toString seatNumber }

def seed (now : Instant) (uuid4 : ℕ → UUID) : Tx StressSeedResponse := do
  insertEvent (stressEvent now uuid4)
  insertTicketType (stressTicketType uuid4)
  insertSeats (stressSeats uuid4)
  Prog.commitTx
  return ⟨uuid4 0, uuid4 2, (stressSeats uuid4).map Seat.id⟩

end StressAdminService

/-! ## Deletions -/

/-- The rows that a `DELETE` removes. -/
inductive Delete where
  | reservationSeats (reservationIds : List UUID)
  | reservationItems (reservationIds : List UUID)
  | reservations (ids : List UUID)
  | events (ids : List UUID)
  deriving DecidableEq, Repr

/-- The rows that refer to a deleted row by `ON DELETE CASCADE` go with it. -/
@[simp] def Database.delete (d : Database) : Delete → Database
  | .reservationSeats ids =>
    { d with reservationSeats := d.reservationSeats.filter fun s => s.reservationId ∉ ids }
  | .reservationItems ids =>
    { d with reservationItems := d.reservationItems.filter fun i => i.reservationId ∉ ids }
  | .reservations ids =>
    { d with
      reservations := d.reservations.filter fun r => r.id ∉ ids
      reservationItems := d.reservationItems.filter fun i => i.reservationId ∉ ids
      reservationSeats := d.reservationSeats.filter fun s => s.reservationId ∉ ids }
  | .events ids =>
    { d with
      events := d.events.filter fun e => e.id ∉ ids
      ticketTypes := d.ticketTypes.filter fun t => t.eventId ∉ ids
      seats := d.seats.filter fun s => s.eventId ∉ ids }

instance : Txn.Store Database Delete := ⟨Database.delete⟩

/-- `ON DELETE RESTRICT`: a row that stays refers to one of the events, or to a
    ticket type or seat that would go with it. -/
structure Database.Unrestricted (d : Database) (eventIds : List UUID) : Prop where
  reservations : ∀ r ∈ d.reservations, r.eventId ∉ eventIds
  items : ∀ i ∈ d.reservationItems, ∀ t ∈ d.ticketTypes, t.id = i.ticketTypeId →
    t.eventId ∉ eventIds
  seatRows : ∀ s ∈ d.reservationSeats, ∀ c ∈ d.seats, c.id = s.seatId → c.eventId ∉ eventIds

instance (d : Database) (eventIds : List UUID) : Decidable (d.Unrestricted eventIds) :=
  decidable_of_iff ((∀ r ∈ d.reservations, r.eventId ∉ eventIds) ∧
    (∀ i ∈ d.reservationItems, ∀ t ∈ d.ticketTypes, t.id = i.ticketTypeId → t.eventId ∉ eventIds) ∧
    ∀ s ∈ d.reservationSeats, ∀ c ∈ d.seats, c.id = s.seatId → c.eventId ∉ eventIds)
    ⟨fun ⟨h1, h2, h3⟩ => ⟨h1, h2, h3⟩, fun h => ⟨h.1, h.2, h.3⟩⟩

/-! ## Resetting -/

namespace StressAdminService

/-- A function of the code that deletes rows. -/
abbrev ResetTx (α : Type) := Txn.Prog Database Delete Lock Error α

/-- `Event.name.startswith(STRESS_EVENT_PREFIX)`, which SQLAlchemy compiles to
    `name LIKE STRESS_EVENT_PREFIX || '%'`. -/
def isStressEvent (e : Event) : Bool := Sql.like (stressEventPrefix.toList ++ ['%']) e.name.toList

def stressEventIds (d : Database) : List UUID := (d.events.filter isStressEvent).map Event.id

def stressReservationIds (d : Database) : List UUID :=
  (d.reservations.filter fun r => r.eventId ∈ stressEventIds d).map Reservation.id

/-- Execute one `DELETE`. -/
def execDelete (rows : Database → Delete) : ResetTx Unit :=
  Prog.exec (Stmt.ofPlan fun d => { result := (), writes := [rows d] })

def deleteEvents : ResetTx Unit := do
  let deleted ← Prog.exec (Stmt.ofPlan fun d =>
    if d.Unrestricted (stressEventIds d) then
      { result := true, writes := [.events (stressEventIds d)] }
    else { result := false })
  if deleted then return () else .raise .integrityError

def reset : ResetTx ℕ := do
  let eventsDeleted ← Prog.exec (Stmt.read fun d => (d.events.filter isStressEvent).length)
  execDelete fun d => .reservationSeats (stressReservationIds d)
  execDelete fun d => .reservationItems (stressReservationIds d)
  execDelete fun d => .reservations (stressReservationIds d)
  deleteEvents
  Prog.commitTx
  return eventsDeleted

end StressAdminService

/-! ## A database without some events -/

def Database.reservationIdsOf (d : Database) (eventIds : List UUID) : List UUID :=
  (d.reservations.filter fun r => r.eventId ∈ eventIds).map Reservation.id

/-- **Without these events**, their ticket types and seats, and their
    reservations with items and seat rows. -/
def Database.withoutEvents (d : Database) (eventIds : List UUID) : Database :=
  { d with
    events := d.events.filter fun e => e.id ∉ eventIds
    ticketTypes := d.ticketTypes.filter fun t => t.eventId ∉ eventIds
    seats := d.seats.filter fun s => s.eventId ∉ eventIds
    reservations := d.reservations.filter fun r => r.eventId ∉ eventIds
    reservationItems := d.reservationItems.filter fun i => i.reservationId ∉ d.reservationIdsOf eventIds
    reservationSeats := d.reservationSeats.filter fun s =>
      s.reservationId ∉ d.reservationIdsOf eventIds }

section
variable {d : Database} {ids : List UUID}

theorem mem_reservationIdsOf {x : UUID} :
    x ∈ d.reservationIdsOf ids ↔ ∃ r ∈ d.reservations, r.eventId ∈ ids ∧ r.id = x := by
  simp [Database.reservationIdsOf, and_assoc]

/-- A reservation is one of these events' reservations by its id. -/
theorem Inv.id_mem_reservationIdsOf (h : Inv d) {r : Reservation} (hr : r ∈ d.reservations) :
    r.id ∈ d.reservationIdsOf ids ↔ r.eventId ∈ ids := by
  rw [mem_reservationIdsOf]
  constructor
  · rintro ⟨r', hr', hid, heq⟩
    rwa [h.eq_of_id hr hr' heq.symm]
  · intro hid
    exact ⟨r, hr, hid, rfl⟩

/-- An item of a ticket type belongs to a reservation of its event. -/
theorem Inv.item_event (h : Inv d) {i : ReservationItem} (hi : i ∈ d.reservationItems)
    {t : TicketType} (ht : t ∈ d.ticketTypes) (hit : t.id = i.ticketTypeId) :
    i.reservationId ∈ d.reservationIdsOf ids ↔ t.eventId ∈ ids := by
  obtain ⟨r, hr, hri, -, -, t', ht', hti, he⟩ := h.item i hi
  obtain rfl := Table.eq_of_key h.ticketTypeIds ht ht' (hit.trans hti.symm)
  rw [← hri, h.id_mem_reservationIdsOf hr, he]

theorem Inv.seatRow_event (h : Inv d) {s : ReservationSeat} (hs : s ∈ d.reservationSeats)
    {c : Seat} (hc : c ∈ d.seats) (hcs : c.id = s.seatId) :
    s.reservationId ∈ d.reservationIdsOf ids ↔ c.eventId ∈ ids := by
  obtain ⟨r, hr, hrs, -, -, -, c', hc', hcs', he⟩ := h.seat s hs
  obtain rfl := Table.eq_of_key h.seatIds hc hc' (hcs.trans hcs'.symm)
  rw [← hrs, h.id_mem_reservationIdsOf hr, he]

theorem Inv.kept_item (h : Inv d) {i : ReservationItem}
    (hi : i ∈ (d.withoutEvents ids).reservationItems) :
    ∃ r ∈ (d.withoutEvents ids).reservations, r.id = i.reservationId ∧
      r.reservationType = .quantity ∧ i.status = r.status ∧
      ∃ t ∈ (d.withoutEvents ids).ticketTypes, t.id = i.ticketTypeId ∧ t.eventId = r.eventId := by
  obtain ⟨hi, hid⟩ := List.mem_filter.1 hi
  obtain ⟨r, hr, hri, hkind, hst, t, ht, hti, he⟩ := h.item i hi
  have hrid : r.eventId ∉ ids := by
    rw [← h.id_mem_reservationIdsOf hr, hri]
    simpa using hid
  exact ⟨r, List.mem_filter.2 ⟨hr, by simpa using hrid⟩, hri, hkind, hst, t,
    List.mem_filter.2 ⟨ht, by simpa [he] using hrid⟩, hti, he⟩

theorem Inv.kept_seatRow (h : Inv d) {s : ReservationSeat}
    (hs : s ∈ (d.withoutEvents ids).reservationSeats) :
    ∃ r ∈ (d.withoutEvents ids).reservations, r.id = s.reservationId ∧
      r.reservationType = .seats ∧ s.status = r.status ∧ s.expiresAt = r.expiresAt ∧
      ∃ c ∈ (d.withoutEvents ids).seats, c.id = s.seatId ∧ c.eventId = r.eventId := by
  obtain ⟨hs, hid⟩ := List.mem_filter.1 hs
  obtain ⟨r, hr, hrs, hkind, hst, hexp, c, hc, hcs, he⟩ := h.seat s hs
  have hrid : r.eventId ∉ ids := by
    rw [← h.id_mem_reservationIdsOf hr, hrs]
    simpa using hid
  exact ⟨r, List.mem_filter.2 ⟨hr, by simpa using hrid⟩, hrs, hkind, hst, hexp, c,
    List.mem_filter.2 ⟨hc, by simpa [he] using hrid⟩, hcs, he⟩

theorem Inv.itemsOf_withoutEvents (h : Inv d) {r : Reservation} (hr : r ∈ d.reservations)
    (hid : r.eventId ∉ ids) : (d.withoutEvents ids).itemsOf r.id = d.itemsOf r.id := by
  rw [Database.itemsOf, Database.withoutEvents, List.filter_filter, Database.itemsOf]
  refine List.filter_congr fun i _ => ?_
  by_cases hir : i.reservationId = r.id
  · simp [hir, (h.id_mem_reservationIdsOf hr).not.2 hid]
  · simp [hir]

theorem Inv.seatsOf_withoutEvents (h : Inv d) {r : Reservation} (hr : r ∈ d.reservations)
    (hid : r.eventId ∉ ids) : (d.withoutEvents ids).seatsOf r.id = d.seatsOf r.id := by
  rw [Database.seatsOf, Database.withoutEvents, List.filter_filter, Database.seatsOf]
  refine List.filter_congr fun s _ => ?_
  by_cases hsr : s.reservationId = r.id
  · simp [hsr, (h.id_mem_reservationIdsOf hr).not.2 hid]
  · simp [hsr]

/-- The counters of a ticket type that stays are the sums over the same items. -/
theorem Inv.units_withoutEvents (h : Inv d) {t : TicketType} (ht : t ∈ d.ticketTypes)
    (hid : t.eventId ∉ ids) (u : ReservationStatus) :
    (d.withoutEvents ids).units t.id u = d.units t.id u := by
  have heq : ((d.withoutEvents ids).reservationItems.filter fun i =>
      i.ticketTypeId = t.id && i.status = u) =
      d.reservationItems.filter fun i => i.ticketTypeId = t.id && i.status = u := by
    rw [Database.withoutEvents, List.filter_filter]
    refine List.filter_congr fun i hi => ?_
    by_cases hit : i.ticketTypeId = t.id
    · simp [(h.item_event hi ht hit.symm).not.2 hid]
    · simp [hit]
  rw [Database.units, heq, Database.units]

/-- **The invariant without some events.** -/
theorem Inv.withoutEvents (h : Inv d) (ids : List UUID) : Inv (d.withoutEvents ids) where
  userIds := h.userIds
  userEmails := h.userEmails
  sessionIds := h.sessionIds
  sessionTokens := h.sessionTokens
  sessionUsers := h.sessionUsers
  eventIds := h.eventIds.sublist (List.filter_sublist.map _)
  seatIds := h.seatIds.sublist (List.filter_sublist.map _)
  seatPositions := h.seatPositions.sublist (List.filter_sublist.map _)
  seatEvents := by
    intro c hc
    obtain ⟨hc, hid⟩ := List.mem_filter.1 hc
    obtain ⟨e, he, hec⟩ := h.seatEvents c hc
    exact ⟨e, List.mem_filter.2 ⟨he, hec ▸ hid⟩, hec⟩
  ticketTypeIds := h.ticketTypeIds.sublist (List.filter_sublist.map _)
  ticketTypeEvents := by
    intro t ht
    obtain ⟨ht, hid⟩ := List.mem_filter.1 ht
    obtain ⟨e, he, het⟩ := h.ticketTypeEvents t ht
    exact ⟨e, List.mem_filter.2 ⟨he, het ▸ hid⟩, het⟩
  ticketTypeChecks := fun t ht => h.ticketTypeChecks t (List.mem_filter.1 ht).1
  ticketTypeInts := fun t ht => h.ticketTypeInts t (List.mem_filter.1 ht).1
  reservationIds := h.reservationIds.sublist (List.filter_sublist.map _)
  visitorKeys := h.visitorKeys.sublist (List.filter_sublist.map _)
  reservationKeys := fun r hr => h.reservationKeys r (List.mem_filter.1 hr).1
  reservationEvents := by
    intro r hr
    obtain ⟨hr, hid⟩ := List.mem_filter.1 hr
    obtain ⟨e, he, her⟩ := h.reservationEvents r hr
    exact ⟨e, List.mem_filter.2 ⟨he, her ▸ hid⟩, her⟩
  reservationSessions := fun r hr => h.reservationSessions r (List.mem_filter.1 hr).1
  reservationUsers := fun r hr => h.reservationUsers r (List.mem_filter.1 hr).1
  itemIds := h.itemIds.sublist (List.filter_sublist.map _)
  itemReservations := by
    intro i hi
    obtain ⟨r, hr, hri, -⟩ := h.kept_item hi
    exact ⟨r, hr, hri⟩
  itemTicketTypes := by
    intro i hi
    obtain ⟨-, -, -, -, -, t, ht, hti, -⟩ := h.kept_item hi
    exact ⟨t, ht, hti⟩
  itemQuantities := fun i hi => h.itemQuantities i (List.mem_filter.1 hi).1
  seatRowIds := h.seatRowIds.sublist (List.filter_sublist.map _)
  seatRowReservations := by
    intro s hs
    obtain ⟨r, hr, hrs, -⟩ := h.kept_seatRow hs
    exact ⟨r, hr, hrs⟩
  seatRowSeats := by
    intro s hs
    obtain ⟨-, -, -, -, -, -, c, hc, hcs, -⟩ := h.kept_seatRow hs
    exact ⟨c, hc, hcs⟩
  activeSeats := by
    refine h.activeSeats.sublist (List.Sublist.map _ ?_)
    exact List.filter_sublist.filter _
  item := fun i hi => h.kept_item hi
  seat := fun s hs => h.kept_seatRow hs
  oneItem := by
    intro r hr hty
    obtain ⟨hr, hid⟩ := List.mem_filter.1 hr
    obtain ⟨i, hi⟩ := h.oneItem r hr hty
    exact ⟨i, by rw [h.itemsOf_withoutEvents hr (by simpa using hid), hi]⟩
  someSeats := by
    intro r hr hty
    obtain ⟨hr, hid⟩ := List.mem_filter.1 hr
    rw [h.seatsOf_withoutEvents hr (by simpa using hid)]
    exact h.someSeats r hr hty
  distinctSeats := by
    intro r hr
    obtain ⟨hr, hid⟩ := List.mem_filter.1 hr
    rw [h.seatsOf_withoutEvents hr (by simpa using hid)]
    exact h.distinctSeats r hr
  ledger := by
    intro t ht
    obtain ⟨ht, hid⟩ := List.mem_filter.1 ht
    rw [h.units_withoutEvents ht (by simpa using hid), h.units_withoutEvents ht (by simpa using hid)]
    exact h.ledger t ht

end

namespace StressAdminService

theorem maintains_seed {I : Database → Prop} (h : InsertsKeep I) (now : Instant) (uuid4 : ℕ → UUID) :
    (seed now uuid4).Maintains I :=
  .bind (maintains_insertEvent h _) fun _ => .bind (maintains_insertTicketType h ⟨rfl, rfl⟩) fun _ =>
    .bind (maintains_insertSeats h _) fun _ => .bind .commitTx fun _ => .ret _

/-- What the first three deletions leave. -/
def unreserve (d : Database) : Database :=
  ((d.delete (.reservationSeats (stressReservationIds d))).delete
    (.reservationItems (stressReservationIds d))).delete (.reservations (stressReservationIds d))

theorem unrestricted_unreserve {d : Database} (h : Inv d) :
    (unreserve d).Unrestricted (stressEventIds d) where
  reservations := by
    intro r hr
    obtain ⟨hr, hid⟩ := List.mem_filter.1 hr
    exact (h.id_mem_reservationIdsOf hr).not.1 (of_decide_eq_true hid)
  items := by
    intro i hi t ht hit
    obtain ⟨hi, hid⟩ := List.mem_filter.1 (List.mem_filter.1 hi).1
    exact (h.item_event hi ht hit).not.1 (of_decide_eq_true hid)
  seatRows := by
    intro s hs c hc hcs
    obtain ⟨hs, hid⟩ := List.mem_filter.1 (List.mem_filter.1 hs).1
    exact (h.seatRow_event hs hc hcs).not.1 (of_decide_eq_true hid)

theorem delete_unreserve {d : Database} (h : Inv d) :
    (unreserve d).delete (.events (stressEventIds d)) = d.withoutEvents (stressEventIds d) := by
  have hres : (d.reservations.filter fun r => r.id ∉ stressReservationIds d) =
      d.reservations.filter fun r => r.eventId ∉ stressEventIds d := by
    refine List.filter_congr fun r hr => ?_
    rw [decide_eq_decide]
    exact (h.id_mem_reservationIdsOf hr).not
  simp only [unreserve, Database.delete, Database.withoutEvents, hres, List.filter_filter,
    Bool.and_self]
  rfl

theorem run_deleteEvents {d : Database} {σ : Txn.Session Delete Lock}
    (h : (σ.view d).Unrestricted (stressEventIds (σ.view d))) : deleteEvents.run d σ =
      (.ok (), d, ⟨σ.writes ++ [.events (stressEventIds (σ.view d))], σ.locks ++ []⟩) := by
  simp only [deleteEvents, Prog.bind_eq, Prog.run_bind, Prog.run_exec, Stmt.ofPlan, if_pos h]
  rfl

/-- **What `reset` does alone.** -/
theorem alone_reset {d : Database} (h : Inv d) : reset.alone d =
    (.ok (d.events.filter isStressEvent).length, d.withoutEvents (stressEventIds d)) := by
  -- the session after the three deletions that empty the reservations
  let σ : Txn.Session Delete Lock := ⟨[.reservationSeats (stressReservationIds d),
    .reservationItems (stressReservationIds d), .reservations (stressReservationIds d)], []⟩
  have hview : σ.view d = unreserve d := rfl
  have hrun : reset.run d ∅ = (deleteEvents.bind fun _ => Prog.commitTx.bind fun _ =>
      .ret (d.events.filter isStressEvent).length).run d σ := rfl
  rw [Prog.alone, hrun, Prog.run_bind_ok (run_deleteEvents (hview ▸ unrestricted_unreserve h)),
    ← delete_unreserve h]
  rfl

theorem inv_reset {d : Database} (h : Inv d) : Inv (reset.alone d).2 := by
  rw [alone_reset h]
  exact h.withoutEvents _

end StressAdminService

end TicketReservation
