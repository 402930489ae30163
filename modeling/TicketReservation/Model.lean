/-
  The tables of the ticket reservation service and how they change.

  `Database` holds the rows of the eight tables, each table in insertion order.
  The bookkeeping columns `created_at` and `updated_at` are left out: no
  modelled function reads them.  A UUID is its 128-bit value, an instant its
  microseconds since the epoch.

  `Write` is one row-level change, `Database.apply` its effect.  `Lock` names
  what a transaction can hold until its end: the row locks of `FOR UPDATE`,
  `UPDATE` and `INSERT`, and the entries of the unique indexes that an
  uncommitted `INSERT` occupies.  The key-share locks of foreign keys do not
  conflict with any of these and are left out.
-/
import TicketReservation.Txn.Prog
import Mathlib.Data.Int.Basic
import Mathlib.Order.Defs.LinearOrder
import Mathlib.Data.List.Sort

namespace TicketReservation

abbrev UUID := ℕ

/-- Microseconds. -/
abbrev Instant := ℤ

inductive ReservationStatus where
  | reserved
  | confirmed
  | cancelled
  | expired
  deriving DecidableEq, Repr

inductive ReservationType where
  | quantity
  | seats
  deriving DecidableEq, Repr

/-! ## Rows -/

structure User where
  id : UUID
  email : String
  passwordHash : String
  deriving DecidableEq, Repr

structure VisitorSession where
  id : UUID
  userId : Option UUID
  anonymousTokenHash : String
  lastSeenAt : Instant
  expiresAt : Instant
  deriving DecidableEq, Repr

structure Event where
  id : UUID
  name : String
  startsAt : Instant
  endsAt : Instant
  deriving DecidableEq, Repr

structure TicketType where
  id : UUID
  eventId : UUID
  name : String
  totalQuantity : ℤ
  soldQuantity : ℤ
  reservedQuantity : ℤ
  deriving DecidableEq, Repr

structure Seat where
  id : UUID
  eventId : UUID
  section_ : String
  rowName : String
  seatNumber : String
  deriving DecidableEq, Repr

structure Reservation where
  id : UUID
  eventId : UUID
  visitorSessionId : UUID
  userId : Option UUID
  status : ReservationStatus
  reservationType : ReservationType
  idempotencyKey : String
  expiresAt : Instant
  deriving DecidableEq, Repr

structure ReservationItem where
  id : UUID
  reservationId : UUID
  ticketTypeId : UUID
  quantity : ℤ
  status : ReservationStatus
  deriving DecidableEq, Repr

structure ReservationSeat where
  id : UUID
  reservationId : UUID
  seatId : UUID
  status : ReservationStatus
  expiresAt : Instant
  deriving DecidableEq, Repr

/-- The CHECK constraints of `ticket_types`. -/
structure TicketType.Checks (t : TicketType) : Prop where
  total : 0 ≤ t.totalQuantity
  sold : 0 ≤ t.soldQuantity
  reserved : 0 ≤ t.reservedQuantity
  allocated : t.soldQuantity + t.reservedQuantity ≤ t.totalQuantity

instance (t : TicketType) : Decidable t.Checks :=
  decidable_of_iff (0 ≤ t.totalQuantity ∧ 0 ≤ t.soldQuantity ∧ 0 ≤ t.reservedQuantity ∧
    t.soldQuantity + t.reservedQuantity ≤ t.totalQuantity)
    ⟨fun ⟨h1, h2, h3, h4⟩ => ⟨h1, h2, h3, h4⟩, fun h => ⟨h.1, h.2, h.3, h.4⟩⟩

/-- `SET reserved_quantity = reserved_quantity + Δr, sold_quantity = sold_quantity + Δs`. -/
def TicketType.add (t : TicketType) (Δr Δs : ℤ) : TicketType :=
  { t with reservedQuantity := t.reservedQuantity + Δr, soldQuantity := t.soldQuantity + Δs }

/-- The predicate of the partial index `uq_active_reservation_seat`. -/
def ReservationStatus.active (s : ReservationStatus) : Bool := s = .reserved || s = .confirmed

/-! ## The database -/

@[ext] structure Database where
  users : List User := []
  visitorSessions : List VisitorSession := []
  events : List Event := []
  ticketTypes : List TicketType := []
  seats : List Seat := []
  reservations : List Reservation := []
  reservationItems : List ReservationItem := []
  reservationSeats : List ReservationSeat := []
  deriving DecidableEq, Repr

/-- One row-level change; a status is set on the rows with the given ids. -/
inductive Write where
  | insertEvent (row : Event)
  | insertTicketType (row : TicketType)
  | insertSeat (row : Seat)
  | insertReservation (row : Reservation)
  | insertReservationItem (row : ReservationItem)
  | insertReservationSeat (row : ReservationSeat)
  | addQuantities (ticketTypeId : UUID) (Δr Δs : ℤ)
  | setReservationStatus (ids : List UUID) (status : ReservationStatus)
  | setItemStatus (ids : List UUID) (status : ReservationStatus)
  | setSeatStatus (ids : List UUID) (status : ReservationStatus)
  deriving DecidableEq, Repr

@[simp] def Database.apply (d : Database) : Write → Database
  | .insertEvent row => { d with events := d.events ++ [row] }
  | .insertTicketType row => { d with ticketTypes := d.ticketTypes ++ [row] }
  | .insertSeat row => { d with seats := d.seats ++ [row] }
  | .insertReservation row => { d with reservations := d.reservations ++ [row] }
  | .insertReservationItem row => { d with reservationItems := d.reservationItems ++ [row] }
  | .insertReservationSeat row => { d with reservationSeats := d.reservationSeats ++ [row] }
  | .addQuantities id Δr Δs =>
    { d with ticketTypes := d.ticketTypes.map fun t => if t.id = id then t.add Δr Δs else t }
  | .setReservationStatus ids s =>
    { d with reservations := d.reservations.map fun r =>
        if r.id ∈ ids then { r with status := s } else r }
  | .setItemStatus ids s =>
    { d with reservationItems := d.reservationItems.map fun r =>
        if r.id ∈ ids then { r with status := s } else r }
  | .setSeatStatus ids s =>
    { d with reservationSeats := d.reservationSeats.map fun r =>
        if r.id ∈ ids then { r with status := s } else r }

instance : Txn.Store Database Write := ⟨Database.apply⟩

@[simp] theorem store_apply (d : Database) (w : Write) : Txn.Store.apply d w = d.apply w := rfl

/-- Row locks, and the entries of the unique indexes
    `uq_reservations_visitor_session_id_idempotency_key` (`visitorKey`) and
    `uq_active_reservation_seat` (`activeSeat`). -/
inductive Lock where
  | ticketType (id : UUID)
  | seat (id : UUID)
  | reservation (id : UUID)
  | reservationItem (id : UUID)
  | reservationSeat (id : UUID)
  | visitorKey (visitorSessionId : UUID) (idempotencyKey : String)
  | activeSeat (seatId : UUID)
  deriving DecidableEq, Repr

/-- The exceptions that the services raise or let through: those of SQLAlchemy
    first, then their own. -/
inductive Error where
  | integrityError
  | dataError
  | multipleResultsFound
  | quantityReservationConflictError
  | seatReservationConflictError
  | seatsNotFoundError
  | reservationNotFoundError
  | reservationTransitionConflictError
  | reservationInventoryConflictError
  | eventNotFoundError
  | seatConflictError
  deriving DecidableEq, Repr

abbrev Session := Txn.Session Write Lock

/-- A function of the code that runs in a database session. -/
abbrev Tx (α : Type) := Txn.Prog Database Write Lock Error α

/-- Execute one SQL statement. -/
def execute {β : Type} (plan : Database → Txn.Plan Write Lock β) : Tx β :=
  Txn.Prog.exec (Txn.Stmt.ofPlan plan)

/-- A statement that may fail. -/
def executeOrRaise {β : Type} (plan : Database → Txn.Plan Write Lock (Except Error β)) : Tx β := do
  match ← execute plan with
  | .ok b => return b
  | .error e => .raise e

/-! ## Queries -/

/-- `ORDER BY k₁, k₂`. -/
def OrderBy {α κ₁ κ₂ : Type} [LinearOrder κ₁] [LinearOrder κ₂] (k₁ : α → κ₁) (k₂ : α → κ₂)
    (a b : α) : Prop := k₁ a < k₁ b ∨ k₁ a = k₁ b ∧ k₂ a ≤ k₂ b

instance {α κ₁ κ₂ : Type} [LinearOrder κ₁] [LinearOrder κ₂] (k₁ : α → κ₁) (k₂ : α → κ₂) :
    DecidableRel (OrderBy k₁ k₂) := fun _ _ => inferInstanceAs (Decidable (_ ∨ _))

def orderBy {α κ₁ κ₂ : Type} [LinearOrder κ₁] [LinearOrder κ₂] (k₁ : α → κ₁) (k₂ : α → κ₂)
    (rows : List α) : List α := rows.insertionSort (OrderBy k₁ k₂)

end TicketReservation
