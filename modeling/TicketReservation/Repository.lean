/-
  The statements of `ReservationRepository` (reservations/repository.py) and
  the flushes of the ORM.

  Every query runs on the rows it sees (`execute`).  An `UPDATE` or a
  `FOR UPDATE` locks the rows it matches; it waits while another transaction
  holds one of them and then evaluates its `WHERE` again.  A flushed `INSERT`
  is checked against the constraints of its table (`Fits`); a violation rolls
  the transaction back and raises `IntegrityError`.  A value that the driver
  cannot encode raises `DataError`.
-/
import TicketReservation.Model
import Mathlib.Algebra.Group.Int.Defs

namespace TicketReservation

open Txn

/-! ## Constraints -/

/-- A PostgreSQL `INTEGER`. -/
abbrev Int32 (n : ℤ) : Prop := -2 ^ 31 ≤ n ∧ n < 2 ^ 31

/-- A text PostgreSQL can store: it has no U+0000. -/
abbrev Storable (s : String) : Prop := Char.ofNat 0 ∉ s.toList

/-- The constraints of `reservations` for a new row. -/
structure Reservation.Fits (row : Reservation) (d : Database) : Prop where
  id : ∀ r ∈ d.reservations, r.id ≠ row.id
  visitorKey : ∀ r ∈ d.reservations,
    ¬ (r.visitorSessionId = row.visitorSessionId ∧ r.idempotencyKey = row.idempotencyKey)
  event : ∃ e ∈ d.events, e.id = row.eventId
  visitorSession : ∃ v ∈ d.visitorSessions, v.id = row.visitorSessionId
  user : ∀ u ∈ row.userId, ∃ x ∈ d.users, x.id = u

instance (row : Reservation) (d : Database) : Decidable (row.Fits d) :=
  decidable_of_iff ((∀ r ∈ d.reservations, r.id ≠ row.id) ∧
    (∀ r ∈ d.reservations,
      ¬ (r.visitorSessionId = row.visitorSessionId ∧ r.idempotencyKey = row.idempotencyKey)) ∧
    (∃ e ∈ d.events, e.id = row.eventId) ∧
    (∃ v ∈ d.visitorSessions, v.id = row.visitorSessionId) ∧
    (∀ u ∈ row.userId, ∃ x ∈ d.users, x.id = u))
    ⟨fun ⟨h1, h2, h3, h4, h5⟩ => ⟨h1, h2, h3, h4, h5⟩,
      fun h => ⟨h.1, h.2, h.3, h.4, h.5⟩⟩

/-- The constraints of `reservation_items` for a new row. -/
structure ReservationItem.Fits (row : ReservationItem) (d : Database) : Prop where
  id : ∀ i ∈ d.reservationItems, i.id ≠ row.id
  reservation : ∃ r ∈ d.reservations, r.id = row.reservationId
  ticketType : ∃ t ∈ d.ticketTypes, t.id = row.ticketTypeId
  quantity : 0 < row.quantity

instance (row : ReservationItem) (d : Database) : Decidable (row.Fits d) :=
  decidable_of_iff ((∀ i ∈ d.reservationItems, i.id ≠ row.id) ∧
    (∃ r ∈ d.reservations, r.id = row.reservationId) ∧
    (∃ t ∈ d.ticketTypes, t.id = row.ticketTypeId) ∧ 0 < row.quantity)
    ⟨fun ⟨h1, h2, h3, h4⟩ => ⟨h1, h2, h3, h4⟩, fun h => ⟨h.1, h.2, h.3, h.4⟩⟩

/-- The constraints of `reservation_seats` for a new row. -/
structure ReservationSeat.Fits (row : ReservationSeat) (d : Database) : Prop where
  id : ∀ s ∈ d.reservationSeats, s.id ≠ row.id
  reservation : ∃ r ∈ d.reservations, r.id = row.reservationId
  seat : ∃ s ∈ d.seats, s.id = row.seatId
  active : row.status.active → ∀ s ∈ d.reservationSeats, s.status.active → s.seatId ≠ row.seatId

instance (row : ReservationSeat) (d : Database) : Decidable (row.Fits d) :=
  decidable_of_iff ((∀ s ∈ d.reservationSeats, s.id ≠ row.id) ∧
    (∃ r ∈ d.reservations, r.id = row.reservationId) ∧
    (∃ s ∈ d.seats, s.id = row.seatId) ∧
    (row.status.active → ∀ s ∈ d.reservationSeats, s.status.active → s.seatId ≠ row.seatId))
    ⟨fun ⟨h1, h2, h3, h4⟩ => ⟨h1, h2, h3, h4⟩, fun h => ⟨h.1, h.2, h.3, h.4⟩⟩

/-! ## Flushes -/

/-- Flush one `INSERT`. -/
def flushInsert (fits : Database → Prop) [DecidablePred fits] (waits : Database → List Lock)
    (takes : List Lock) (write : Write) : Tx Unit := do
  let inserted ← execute fun d =>
    if fits d then { result := true, takes := takes, writes := [write] }
    else { result := false, waits := waits d }
  if inserted then return () else do
    Prog.rollback
    .raise .integrityError

def insertReservation (row : Reservation) : Tx Unit :=
  flushInsert row.Fits (fun _ => [])
    [.reservation row.id, .visitorKey row.visitorSessionId row.idempotencyKey]
    (.insertReservation row)

def insertReservationItem (row : ReservationItem) : Tx Unit :=
  flushInsert row.Fits (fun _ => []) [.reservationItem row.id] (.insertReservationItem row)

/-- The active row of the same seat may be changing: the unique check waits for
    the transaction that changes it. -/
def insertReservationSeat (row : ReservationSeat) : Tx Unit :=
  flushInsert row.Fits
    (fun d => (d.reservationSeats.filter fun s => s.status.active && s.seatId = row.seatId).map
      fun s => .reservationSeat s.id)
    [.reservationSeat row.id, .activeSeat row.seatId] (.insertReservationSeat row)

def insertReservationSeats : List ReservationSeat → Tx Unit
  | [] => return ()
  | row :: rows => do
    insertReservationSeat row
    insertReservationSeats rows

/-- `reservation.status = status`, flushed. -/
def setReservationStatus (id : UUID) (status : ReservationStatus) : Tx Unit :=
  execute fun _ =>
    { result := (), takes := [.reservation id], writes := [.setReservationStatus [id] status] }

/-- `item.status = status`, flushed. -/
def setItemStatus (id : UUID) (status : ReservationStatus) : Tx Unit :=
  execute fun _ =>
    { result := (), takes := [.reservationItem id], writes := [.setItemStatus [id] status] }

/-- `reservation_seat.status = status`, flushed. -/
def setSeatStatus (id : UUID) (status : ReservationStatus) : Tx Unit :=
  execute fun _ =>
    { result := (), takes := [.reservationSeat id], writes := [.setSeatStatus [id] status] }

/-! ## Queries -/

structure QuantityReservationRecord where
  reservationId : UUID
  status : ReservationStatus
  reservationType : ReservationType
  expiresAt : Instant
  ticketTypeId : UUID
  quantity : ℤ
  deriving DecidableEq, Repr

structure SeatReservationRecord where
  reservationId : UUID
  status : ReservationStatus
  reservationType : ReservationType
  expiresAt : Instant
  seatIds : List UUID
  deriving DecidableEq, Repr

/-- The `ownership` clause of `get_owned_reservation`. -/
def Reservation.ownedBy (r : Reservation) (visitorSessionId : UUID) (userId : Option UUID) : Bool :=
  r.visitorSessionId = visitorSessionId || (userId.isSome && r.userId = userId)

def Database.ownedReservation (d : Database) (reservationId visitorSessionId : UUID)
    (userId : Option UUID) : Option Reservation :=
  d.reservations.find? fun r => r.id = reservationId && r.ownedBy visitorSessionId userId

def Database.itemsOf (d : Database) (reservationId : UUID) : List ReservationItem :=
  d.reservationItems.filter fun i => i.reservationId = reservationId

def Database.seatsOf (d : Database) (reservationId : UUID) : List ReservationSeat :=
  d.reservationSeats.filter fun s => s.reservationId = reservationId

def getOwnedReservation (reservationId visitorSessionId : UUID) (userId : Option UUID)
    (forUpdate : Bool) : Tx (Option Reservation) :=
  execute fun d =>
    { result := d.ownedReservation reservationId visitorSessionId userId
      takes := if forUpdate then
          (d.ownedReservation reservationId visitorSessionId userId).toList.map
            fun r => .reservation r.id
        else [] }

def listReservationItems (reservationId : UUID) : Tx (List ReservationItem) :=
  execute fun d =>
    { result := orderBy ReservationItem.ticketTypeId ReservationItem.id (d.itemsOf reservationId) }

def listReservationSeats (reservationId : UUID) : Tx (List ReservationSeat) :=
  execute fun d =>
    { result := orderBy ReservationSeat.seatId ReservationSeat.id (d.seatsOf reservationId) }

/-- The rows that `lock_expired_reservations` looks through, in its order. -/
def Database.expiredReservations (d : Database) (expiredBefore : Instant)
    (reservationIds : Option (List UUID)) : List Reservation :=
  orderBy Reservation.expiresAt Reservation.id (d.reservations.filter fun r =>
    r.status = .reserved && r.expiresAt < expiredBefore && reservationIds.all fun ids => r.id ∈ ids)

def lockExpiredReservations (expiredBefore : Instant) (batchSize : ℕ)
    (reservationIds : Option (List UUID)) : Tx (List Reservation) :=
  Prog.exec <| Stmt.skipLocked
    (fun d free => ((d.expiredReservations expiredBefore reservationIds).filter fun r =>
      free (.reservation r.id)).take batchSize)
    (fun rows => rows.map fun r => .reservation r.id)

/-- The join of `get_quantity_by_idempotency_key`. -/
def Database.quantityRecords (d : Database) (visitorSessionId : UUID) (idempotencyKey : String) :
    List QuantityReservationRecord :=
  (d.reservations.filter fun r => r.visitorSessionId = visitorSessionId &&
    r.idempotencyKey = idempotencyKey && r.reservationType = .quantity).flatMap fun r =>
      (d.itemsOf r.id).map fun i =>
        ⟨r.id, r.status, r.reservationType, r.expiresAt, i.ticketTypeId, i.quantity⟩

def Database.quantityLookup (d : Database) (visitorSessionId : UUID) (idempotencyKey : String) :
    Except Error (Option QuantityReservationRecord) :=
  if ¬ Storable idempotencyKey then .error .dataError
  else match d.quantityRecords visitorSessionId idempotencyKey with
    | [] => .ok none
    | [row] => .ok (some row)
    | _ => .error .multipleResultsFound

def getQuantityByIdempotencyKey (visitorSessionId : UUID) (idempotencyKey : String) :
    Tx (Option QuantityReservationRecord) :=
  executeOrRaise fun d => { result := d.quantityLookup visitorSessionId idempotencyKey }

/-- The join of `get_seats_by_idempotency_key`, ordered by seat. -/
def Database.seatRecords (d : Database) (visitorSessionId : UUID) (idempotencyKey : String) :
    List (Reservation × ReservationSeat) :=
  ((d.reservations.filter fun r => r.visitorSessionId = visitorSessionId &&
    r.idempotencyKey = idempotencyKey && r.reservationType = .seats).flatMap fun r =>
      (d.seatsOf r.id).map fun s => (r, s)).insertionSort fun a b => a.2.seatId ≤ b.2.seatId

def Database.seatLookup (d : Database) (visitorSessionId : UUID) (idempotencyKey : String) :
    Except Error (Option SeatReservationRecord) :=
  if ¬ Storable idempotencyKey then .error .dataError
  else match d.seatRecords visitorSessionId idempotencyKey with
    | [] => .ok none
    | (r, s) :: rows => .ok (some
        ⟨r.id, r.status, r.reservationType, r.expiresAt, ((r, s) :: rows).map fun row => row.2.seatId⟩)

def getSeatsByIdempotencyKey (visitorSessionId : UUID) (idempotencyKey : String) :
    Tx (Option SeatReservationRecord) :=
  executeOrRaise fun d => { result := d.seatLookup visitorSessionId idempotencyKey }

/-! ## Guarded updates of `ticket_types` -/

/-- `UPDATE ticket_types SET … WHERE id = … AND guard RETURNING id`. -/
def Database.updateTicketType (d : Database) (ticketTypeId : UUID) (guard : TicketType → Bool)
    (Δr Δs : ℤ) : Plan Write Lock (Except Error Bool) :=
  match d.ticketTypes.find? fun t => t.id = ticketTypeId && guard t with
  | none => { result := .ok false }
  | some t =>
    if (t.add Δr Δs).Checks then
      { result := .ok true, takes := [.ticketType ticketTypeId],
        writes := [.addQuantities ticketTypeId Δr Δs] }
    else { result := .error .integrityError, takes := [.ticketType ticketTypeId] }

def updateTicketType (ticketTypeId : UUID) (guard : TicketType → Bool) (Δr Δs : ℤ) : Tx Bool :=
  executeOrRaise fun d => d.updateTicketType ticketTypeId guard Δr Δs

def reserveTicketQuantity (eventId ticketTypeId : UUID) (quantity : ℤ) : Tx Bool :=
  if Int32 quantity then
    updateTicketType ticketTypeId (fun t => t.eventId = eventId &&
      t.totalQuantity - t.soldQuantity - t.reservedQuantity ≥ quantity) quantity 0
  else .raise .dataError

def releaseReservedQuantity (ticketTypeId : UUID) (quantity : ℤ) : Tx Bool :=
  updateTicketType ticketTypeId (fun t => t.reservedQuantity ≥ quantity) (-quantity) 0

def confirmReservedQuantity (ticketTypeId : UUID) (quantity : ℤ) : Tx Bool :=
  updateTicketType ticketTypeId (fun t => t.reservedQuantity ≥ quantity &&
    t.soldQuantity + t.reservedQuantity ≤ t.totalQuantity) (-quantity) quantity

/-! ## Seats -/

/-- Lock the rows with these ids one after another, skipping those that no
    longer match. -/
def lockEach (lock : UUID → Lock) (matching : Database → UUID → Bool) : List UUID → Tx (List UUID)
  | [] => return []
  | id :: ids => do
    let locked ← execute fun d =>
      if matching d id then { result := true, takes := [lock id] } else { result := false }
    let rest ← lockEach lock matching ids
    return if locked then id :: rest else rest

/-- Does the seat belong to the event? -/
def Database.hasSeat (d : Database) (eventId seatId : UUID) : Bool :=
  d.seats.any fun s => s.id = seatId && s.eventId = eventId

def Database.eventSeats (d : Database) (eventId : UUID) (seatIds : List UUID) : List UUID :=
  ((d.seats.filter fun s => s.eventId = eventId && s.id ∈ seatIds).map Seat.id).insertionSort (· ≤ ·)

def lockEventSeats (eventId : UUID) (seatIds : List UUID) : Tx (List UUID) := do
  let candidates ← execute fun d => { result := d.eventSeats eventId seatIds }
  lockEach .seat (fun d id => d.hasSeat eventId id) candidates

/-- The reservations with a lapsed hold on one of the seats, `sorted(set(..))`. -/
def Database.staleHolders (d : Database) (seatIds : List UUID) (expiredAt : Instant) : List UUID :=
  ((d.reservationSeats.filter fun s => s.seatId ∈ seatIds && s.status = .reserved &&
    s.expiresAt ≤ expiredAt).map ReservationSeat.reservationId).dedup.insertionSort (· ≤ ·)

def Database.heldRows (d : Database) (reservationIds : List UUID) : List ReservationSeat :=
  d.reservationSeats.filter fun s => s.reservationId ∈ reservationIds && s.status = .reserved

def Database.heldReservations (d : Database) (reservationIds : List UUID) : List Reservation :=
  d.reservations.filter fun r => r.id ∈ reservationIds && r.status = .reserved

/-- The bulk `UPDATE` of `reservation_seats`. -/
def expireHeldRows (reservationIds : List UUID) : Tx Unit :=
  execute fun d =>
    { result := ()
      takes := (d.heldRows reservationIds).map fun s => .reservationSeat s.id
      writes := [.setSeatStatus ((d.heldRows reservationIds).map ReservationSeat.id) .expired] }

/-- The bulk `UPDATE` of `reservations`. -/
def expireHeldReservations (reservationIds : List UUID) : Tx Unit :=
  execute fun d =>
    { result := ()
      takes := (d.heldReservations reservationIds).map fun r => .reservation r.id
      writes :=
        [.setReservationStatus ((d.heldReservations reservationIds).map Reservation.id) .expired] }

def expireReservationsForSeats (seatIds : List UUID) (expiredAt : Instant) : Tx Unit := do
  let reservationIds ← execute fun d => { result := d.staleHolders seatIds expiredAt }
  if reservationIds = [] then return () else do
    let _ ← lockEach .reservation (fun d id => d.reservations.any fun r => r.id = id) reservationIds
    expireHeldRows reservationIds
    expireHeldReservations reservationIds

end TicketReservation
