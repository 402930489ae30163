/-
  `EventService` (events/service.py), which creates the inventory.

  These calls run before the reservations; they are only executed alone.  A
  value that its column cannot hold raises `DataError`: a text that is too long
  or that PostgreSQL cannot store, an integer beyond 32 bits, a time whose year
  in UTC is not one of 1 to 9999.  `session.refresh` reads back the row that was
  just committed.

  * `Inventory`: the databases that `EventService` can create for some users
    and visitor sessions;
  * `Inventory.inv`: they satisfy the invariant of the reservations.
-/
import TicketReservation.Invariant

namespace TicketReservation

open Txn

/-! ## Texts -/

/-- Python's `str.isspace`. -/
def isSpace (c : Char) : Bool :=
  let n := c.toNat
  (0x9 ≤ n && n ≤ 0xd) || (0x1c ≤ n && n ≤ 0x20) || n = 0x85 || n = 0xa0 || n = 0x1680 ||
    (0x2000 ≤ n && n ≤ 0x200a) || n = 0x2028 || n = 0x2029 || n = 0x202f || n = 0x205f || n = 0x3000

/-- Python's `str.strip`. -/
def strip (s : String) : String :=
  String.ofList ((s.toList.dropWhile isSpace).reverse.dropWhile isSpace).reverse

/-- A value of a `VARCHAR(n)` column. -/
abbrev VarChar (n : ℕ) (s : String) : Prop := s.length ≤ n ∧ Storable s

/-- A time that asyncpg converts to UTC to bind it to a `TIMESTAMPTZ` column: from
    0001-01-01T00:00:00Z to 9999-12-31T23:59:59.999999Z. -/
abbrev Timestamptz (t : Instant) : Prop := -62135596800000000 ≤ t ∧ t < 253402300800000000

/-! ## Constraints -/

structure Event.Fits (row : Event) (d : Database) : Prop where
  id : ∀ e ∈ d.events, e.id ≠ row.id

instance (row : Event) (d : Database) : Decidable (row.Fits d) :=
  decidable_of_iff (∀ e ∈ d.events, e.id ≠ row.id) ⟨fun h => ⟨h⟩, fun h => h.1⟩

structure TicketType.Fits (row : TicketType) (d : Database) : Prop where
  id : ∀ t ∈ d.ticketTypes, t.id ≠ row.id
  event : ∃ e ∈ d.events, e.id = row.eventId
  checks : row.Checks

instance (row : TicketType) (d : Database) : Decidable (row.Fits d) :=
  decidable_of_iff ((∀ t ∈ d.ticketTypes, t.id ≠ row.id) ∧ (∃ e ∈ d.events, e.id = row.eventId) ∧
    row.Checks) ⟨fun ⟨h1, h2, h3⟩ => ⟨h1, h2, h3⟩, fun h => ⟨h.1, h.2, h.3⟩⟩

structure Seat.Fits (row : Seat) (d : Database) : Prop where
  id : ∀ s ∈ d.seats, s.id ≠ row.id
  event : ∃ e ∈ d.events, e.id = row.eventId
  position : ∀ s ∈ d.seats, (s.eventId, s.section_, s.rowName, s.seatNumber) ≠
    (row.eventId, row.section_, row.rowName, row.seatNumber)

instance (row : Seat) (d : Database) : Decidable (row.Fits d) :=
  decidable_of_iff ((∀ s ∈ d.seats, s.id ≠ row.id) ∧ (∃ e ∈ d.events, e.id = row.eventId) ∧
    ∀ s ∈ d.seats, (s.eventId, s.section_, s.rowName, s.seatNumber) ≠
      (row.eventId, row.section_, row.rowName, row.seatNumber))
    ⟨fun ⟨h1, h2, h3⟩ => ⟨h1, h2, h3⟩, fun h => ⟨h.1, h.2, h.3⟩⟩

/-! ## The service -/

/-- Flush an `INSERT` whose values have to be encodable. -/
def flushEncoded (encodable : Prop) [Decidable encodable] (insert : Tx Unit) : Tx Unit :=
  if encodable then insert else do
    Prog.rollback
    .raise .dataError

/-- The columns of an event hold its name and its times. -/
abbrev Event.Encodable (row : Event) : Prop :=
  VarChar 255 row.name ∧ Timestamptz row.startsAt ∧ Timestamptz row.endsAt

def insertEvent (row : Event) : Tx Unit :=
  flushEncoded row.Encodable
    (flushInsert row.Fits (fun _ => []) [] (.insertEvent row))

def insertTicketType (row : TicketType) : Tx Unit :=
  flushEncoded (VarChar 255 row.name ∧ Int32 row.totalQuantity)
    (flushInsert row.Fits (fun _ => []) [.ticketType row.id] (.insertTicketType row))

def insertSeat (row : Seat) : Tx Unit :=
  flushInsert row.Fits (fun _ => []) [.seat row.id] (.insertSeat row)

def insertEachSeat : List Seat → Tx Unit
  | [] => return ()
  | row :: rows => do
    insertSeat row
    insertEachSeat rows

/-- The columns of a seat hold its position. -/
abbrev Seat.Encodable (row : Seat) : Prop :=
  VarChar 100 row.section_ ∧ VarChar 50 row.rowName ∧ VarChar 50 row.seatNumber

/-- The seats are inserted by one statement, all of whose values are encoded first. -/
def insertSeats (rows : List Seat) : Tx Unit :=
  flushEncoded (∀ row ∈ rows, row.Encodable) (insertEachSeat rows)

structure SeatCreate where
  section_ : String
  rowName : String
  seatNumber : String
  deriving DecidableEq, Repr

namespace EventService

def createEvent (name : String) (startsAt endsAt : Instant) (uuid4 : UUID) : Tx Event := do
  let event : Event := { id := uuid4, name := strip name, startsAt := startsAt, endsAt := endsAt }
  insertEvent event
  Prog.commitTx
  return event

def getEvent (eventId : UUID) : Tx Event := do
  match ← execute fun d => { result := d.events.find? fun e => e.id = eventId } with
  | none => .raise .eventNotFoundError
  | some event => return event

def createTicketType (eventId : UUID) (name : String) (totalQuantity : ℤ) (uuid4 : UUID) :
    Tx TicketType := do
  let _ ← getEvent eventId
  let ticketType : TicketType :=
    { id := uuid4, eventId := eventId, name := strip name, totalQuantity := totalQuantity,
      soldQuantity := 0, reservedQuantity := 0 }
  insertTicketType ticketType
  Prog.commitTx
  return ticketType

def newSeats (eventId : UUID) (seatInputs : List SeatCreate) (uuid4 : ℕ → UUID) : List Seat :=
  seatInputs.mapIdx fun n seat =>
    { id := uuid4 n, eventId := eventId, section_ := strip seat.section_,
      rowName := strip seat.rowName, seatNumber := strip seat.seatNumber }

def createSeats (eventId : UUID) (seatInputs : List SeatCreate) (uuid4 : ℕ → UUID) :
    Tx (List Seat) := do
  let _ ← getEvent eventId
  Prog.tryCatch (do
      insertSeats (newSeats eventId seatInputs uuid4)
      Prog.commitTx)
    fun e =>
      if e = .integrityError then do
        Prog.rollback
        .raise .seatConflictError
      else .raise e
  return newSeats eventId seatInputs uuid4

end EventService

/-! ## The inventory -/

/-- **The databases that `EventService` creates**, for any users and visitor
    sessions. -/
inductive Inventory : Database → Prop
  | sessions (users : List User) (visitorSessions : List VisitorSession) :
      Catalogue { users := users, visitorSessions := visitorSessions } →
      Inventory { users := users, visitorSessions := visitorSessions }
  | createEvent {d : Database} (name : String) (startsAt endsAt : Instant) (uuid4 : UUID) :
      Inventory d → Inventory ((EventService.createEvent name startsAt endsAt uuid4).alone d).2
  | createTicketType {d : Database} (eventId : UUID) (name : String) (totalQuantity : ℤ)
      (uuid4 : UUID) : Inventory d →
      Inventory ((EventService.createTicketType eventId name totalQuantity uuid4).alone d).2
  | createSeats {d : Database} (eventId : UUID) (seatInputs : List SeatCreate) (uuid4 : ℕ → UUID) :
      Inventory d → Inventory ((EventService.createSeats eventId seatInputs uuid4).alone d).2

namespace Schema
variable {d : Database}

theorem insertEvent (h : Schema d) {row : Event} (hf : row.Fits d) :
    Schema (d.apply (.insertEvent row)) := by
  have hev : ∀ {u : UUID}, (∃ e ∈ d.events, e.id = u) → ∃ e ∈ d.events ++ [row], e.id = u :=
    fun ⟨e, he, hid⟩ => ⟨e, List.mem_append_left _ he, hid⟩
  exact
    { h with
      eventIds := Table.nodup_append_key h.eventIds (by simp) (by simpa using hf.id)
      seatEvents := fun s hs => hev (h.seatEvents s hs)
      ticketTypeEvents := fun t ht => hev (h.ticketTypeEvents t ht)
      reservationEvents := fun r hr => hev (h.reservationEvents r hr) }

theorem insertTicketType (h : Schema d) {row : TicketType} (hf : row.Fits d)
    (hint : Int32 row.totalQuantity) : Schema (d.apply (.insertTicketType row)) :=
  { h with
    ticketTypeIds := Table.nodup_append_key h.ticketTypeIds (by simp) (by simpa using hf.id)
    ticketTypeEvents := List.forall_mem_append.2 ⟨h.ticketTypeEvents, by simpa using hf.event⟩
    ticketTypeChecks := List.forall_mem_append.2 ⟨h.ticketTypeChecks, by simpa using hf.checks⟩
    ticketTypeInts := List.forall_mem_append.2 ⟨h.ticketTypeInts, by simpa using hint⟩
    itemTicketTypes := fun i hi =>
      (h.itemTicketTypes i hi).imp fun _ ht => ⟨List.mem_append_left _ ht.1, ht.2⟩ }

theorem insertSeat (h : Schema d) {row : Seat} (hf : row.Fits d) :
    Schema (d.apply (.insertSeat row)) :=
  { h with
    seatIds := Table.nodup_append_key h.seatIds (by simp) (by simpa using hf.id)
    seatPositions := Table.nodup_append_key h.seatPositions (by simp)
      fun s hs b hb => by rw [List.mem_singleton.1 hb]; exact hf.position s hs
    seatEvents := List.forall_mem_append.2 ⟨h.seatEvents, by simpa using hf.event⟩
    seatRowSeats := fun q hq =>
      (h.seatRowSeats q hq).imp fun _ hc => ⟨List.mem_append_left _ hc.1, hc.2⟩ }

end Schema

/-- A database without reservations. -/
structure Unreserved (d : Database) : Prop extends Schema d where
  reservations : d.reservations = []
  items : d.reservationItems = []
  seatRows : d.reservationSeats = []
  unsold : ∀ t ∈ d.ticketTypes, t.reservedQuantity = 0 ∧ t.soldQuantity = 0

namespace Unreserved
variable {d : Database}

theorem inv (h : Unreserved d) : Inv d :=
  { h.toSchema with
    item := by simp [h.items]
    seat := by simp [h.seatRows]
    oneItem := by simp [h.reservations]
    someSeats := by simp [h.reservations]
    distinctSeats := by simp [h.reservations]
    ledger := fun t ht => by simpa [Database.units, h.items] using h.unsold t ht }

theorem insertEvent (h : Unreserved d) {row : Event} (hf : row.Fits d) :
    Unreserved (d.apply (.insertEvent row)) :=
  { h.toSchema.insertEvent hf, h with }

theorem insertTicketType (h : Unreserved d) {row : TicketType} (hf : row.Fits d)
    (hint : Int32 row.totalQuantity) (hr : row.reservedQuantity = 0 ∧ row.soldQuantity = 0) :
    Unreserved (d.apply (.insertTicketType row)) :=
  { h.toSchema.insertTicketType hf hint, h with
    unsold := List.forall_mem_append.2 ⟨h.unsold, by simpa using hr⟩ }

theorem insertSeat (h : Unreserved d) {row : Seat} (hf : row.Fits d) :
    Unreserved (d.apply (.insertSeat row)) :=
  { h.toSchema.insertSeat hf, h with }

end Unreserved

namespace Inv
variable {d : Database}

theorem insertEvent (h : Inv d) {row : Event} (hf : row.Fits d) :
    Inv (d.apply (.insertEvent row)) :=
  { h.toSchema.insertEvent hf, h with }

/-- No item has a ticket type that is new. -/
theorem units_fresh (h : Inv d) {row : TicketType} (hf : row.Fits d) (s : ReservationStatus) :
    d.units row.id s = 0 := by
  have hnil : (d.reservationItems.filter fun i => i.ticketTypeId = row.id && i.status = s) = [] := by
    rw [List.filter_eq_nil_iff]
    intro i hi hboth
    obtain ⟨t, ht, hid⟩ := h.itemTicketTypes i hi
    rw [Bool.and_eq_true, decide_eq_true_eq] at hboth
    exact hf.id t ht (hid.trans hboth.1)
  rw [Database.units, hnil]
  rfl

theorem insertTicketType (h : Inv d) {row : TicketType} (hf : row.Fits d)
    (hint : Int32 row.totalQuantity) (hr : row.reservedQuantity = 0 ∧ row.soldQuantity = 0) :
    Inv (d.apply (.insertTicketType row)) :=
  { h.toSchema.insertTicketType hf hint, h with
    item := fun i hi => by
      obtain ⟨r, hrm, hid, hkind, hst, t, ht, heq⟩ := h.item i hi
      exact ⟨r, hrm, hid, hkind, hst, t, List.mem_append_left _ ht, heq⟩
    ledger := List.forall_mem_append.2 ⟨h.ledger, List.forall_mem_singleton.2
      ⟨hr.1.trans (h.units_fresh hf _).symm, hr.2.trans (h.units_fresh hf _).symm⟩⟩ }

theorem insertSeat (h : Inv d) {row : Seat} (hf : row.Fits d) : Inv (d.apply (.insertSeat row)) :=
  { h.toSchema.insertSeat hf, h with
    seat := fun q hq => by
      obtain ⟨r, hrm, hid, hkind, hst, hexp, c, hc, heq⟩ := h.seat q hq
      exact ⟨r, hrm, hid, hkind, hst, hexp, c, List.mem_append_left _ hc, heq⟩ }

end Inv

/-- What the inserts of `EventService` keep. -/
structure InsertsKeep (I : Database → Prop) : Prop where
  event : ∀ {d : Database} {row : Event}, I d → row.Fits d → I (d.apply (.insertEvent row))
  ticketType : ∀ {d : Database} {row : TicketType}, I d → row.Fits d → Int32 row.totalQuantity →
    row.reservedQuantity = 0 ∧ row.soldQuantity = 0 → I (d.apply (.insertTicketType row))
  seat : ∀ {d : Database} {row : Seat}, I d → row.Fits d → I (d.apply (.insertSeat row))

theorem Unreserved.insertsKeep : InsertsKeep Unreserved where
  event h hf := h.insertEvent hf
  ticketType h hf := h.insertTicketType hf
  seat h hf := h.insertSeat hf

theorem Inv.insertsKeep : InsertsKeep Inv where
  event h hf := h.insertEvent hf
  ticketType h hf := h.insertTicketType hf
  seat h hf := h.insertSeat hf

section
variable {I : Database → Prop}

theorem maintains_flushInsert {fits : Database → Prop} [DecidablePred fits]
    {waits : Database → List Lock} {takes : List Lock} {write : Write}
    (h : ∀ d, I d → fits d → I (d.apply write)) :
    (flushInsert fits waits takes write).Maintains I := by
  refine .bind (.exec fun d hd => ?_) fun b => ?_
  · split_ifs with hf
    · exact h d hd hf
    · exact hd
  · split_ifs
    · exact .ret ()
    · exact .bind .rollback fun _ => .raise _

theorem maintains_flushEncoded {encodable : Prop} [Decidable encodable] {insert : Tx Unit}
    (h : encodable → insert.Maintains I) : (flushEncoded encodable insert).Maintains I := by
  unfold flushEncoded
  split_ifs with henc
  · exact h henc
  · exact .bind .rollback fun _ => .raise _

theorem maintains_insertEvent (h : InsertsKeep I) (row : Event) : (insertEvent row).Maintains I :=
  maintains_flushEncoded fun _ => maintains_flushInsert fun _ hd hf => h.event hd hf

theorem maintains_insertTicketType (h : InsertsKeep I) {row : TicketType}
    (hr : row.reservedQuantity = 0 ∧ row.soldQuantity = 0) : (insertTicketType row).Maintains I :=
  maintains_flushEncoded fun henc => maintains_flushInsert fun _ hd hf =>
    h.ticketType hd hf henc.2 hr

theorem maintains_insertEachSeat (h : InsertsKeep I) (rows : List Seat) :
    (insertEachSeat rows).Maintains I := by
  induction rows with
  | nil => exact .ret ()
  | cons row rows ih =>
    exact .bind (maintains_flushInsert fun _ hd hf => h.seat hd hf) fun _ => ih

theorem maintains_insertSeats (h : InsertsKeep I) (rows : List Seat) :
    (insertSeats rows).Maintains I :=
  maintains_flushEncoded fun _ => maintains_insertEachSeat h rows

namespace EventService

theorem maintains_getEvent (eventId : UUID) : (getEvent eventId).Maintains I :=
  .bind (.exec fun _ hd => hd) fun o => by cases o <;> first | exact .raise _ | exact .ret _

theorem maintains_createEvent (h : InsertsKeep I) (name : String) (startsAt endsAt : Instant)
    (uuid4 : UUID) : (createEvent name startsAt endsAt uuid4).Maintains I :=
  .bind (maintains_insertEvent h _) fun _ => .bind .commitTx fun _ => .ret _

theorem maintains_createTicketType (h : InsertsKeep I) (eventId : UUID) (name : String)
    (totalQuantity : ℤ) (uuid4 : UUID) :
    (createTicketType eventId name totalQuantity uuid4).Maintains I :=
  .bind (maintains_getEvent _) fun _ => .bind (maintains_insertTicketType h ⟨rfl, rfl⟩) fun _ =>
    .bind .commitTx fun _ => .ret _

theorem maintains_createSeats (h : InsertsKeep I) (eventId : UUID) (seatInputs : List SeatCreate)
    (uuid4 : ℕ → UUID) : (createSeats eventId seatInputs uuid4).Maintains I := by
  refine .bind (maintains_getEvent _) fun _ => .bind (.tryCatch
    (.bind (maintains_insertSeats h _) fun _ => .commitTx) fun e => ?_) fun _ => .ret _
  split_ifs
  · exact .bind .rollback fun _ => .raise _
  · exact .raise e

end EventService

end

/-- **The inventory satisfies the invariant.** -/
theorem Inventory.unreserved {d : Database} (h : Inventory d) : Unreserved d := by
  induction h with
  | sessions users visitorSessions hc =>
    exact { hc with
      ticketTypeIds := by simp, ticketTypeEvents := by simp, ticketTypeChecks := by simp
      ticketTypeInts := by simp, reservationKeys := by simp, reservationIds := by simp
      visitorKeys := by simp, reservationEvents := by simp
      reservationSessions := by simp, reservationUsers := by simp, itemIds := by simp
      itemReservations := by simp, itemTicketTypes := by simp, itemQuantities := by simp
      seatRowIds := by simp, seatRowReservations := by simp, seatRowSeats := by simp
      activeSeats := by simp, reservations := rfl, items := rfl, seatRows := rfl
      unsold := by simp }
  | createEvent name startsAt endsAt uuid4 _ ih =>
    exact (EventService.maintains_createEvent Unreserved.insertsKeep _ _ _ _).alone ih
  | createTicketType eventId name totalQuantity uuid4 _ ih =>
    exact (EventService.maintains_createTicketType Unreserved.insertsKeep _ _ _ _).alone ih
  | createSeats eventId seatInputs uuid4 _ ih =>
    exact (EventService.maintains_createSeats Unreserved.insertsKeep _ _ _).alone ih

theorem Inventory.inv {d : Database} (h : Inventory d) : Inv d := h.unreserved.inv

end TicketReservation
