/-
  The reservation services (reservations/service.py) as transaction programs.

  The clock reading `now` and the fresh ids `uuid4 0, uuid4 1, ...` that a call
  draws are parameters of the call.  An assignment to a loaded row is written
  when it is made, by the row's `UPDATE`.  The two services that create
  reservations share their shape but not their statements; `cancel` and
  `confirm` are one program with two target statuses.
-/
import TicketReservation.Repository

namespace TicketReservation

open Txn

structure Settings where
  reservationTtlSeconds : ℤ
  deriving DecidableEq, Repr

/-- `now + timedelta(seconds=reservation_ttl_seconds)`. -/
def Settings.expiresAt (settings : Settings) (now : Instant) : Instant :=
  now + settings.reservationTtlSeconds * 1000000

/-! ## Responses -/

structure QuantityReservationItemResponse where
  ticketTypeId : UUID
  quantity : ℤ
  deriving DecidableEq, Repr

structure QuantityReservationResponse where
  reservationId : UUID
  status : ReservationStatus
  reservationType : ReservationType
  expiresAt : Instant
  items : List QuantityReservationItemResponse
  deriving DecidableEq, Repr

structure SeatReservationResponse where
  reservationId : UUID
  status : ReservationStatus
  reservationType : ReservationType
  expiresAt : Instant
  seats : List UUID
  deriving DecidableEq, Repr

structure ReservationItemDetailResponse where
  ticketTypeId : UUID
  quantity : ℤ
  status : ReservationStatus
  deriving DecidableEq, Repr

structure ReservationSeatDetailResponse where
  seatId : UUID
  status : ReservationStatus
  deriving DecidableEq, Repr

structure ReservationDetailResponse where
  reservationId : UUID
  eventId : UUID
  status : ReservationStatus
  reservationType : ReservationType
  expiresAt : Instant
  items : List ReservationItemDetailResponse
  seats : List ReservationSeatDetailResponse
  deriving DecidableEq, Repr

/-- `_resolve_conflict_or_replay`, the same in both services but for its query,
    its response and its error. -/
def resolveConflictOrReplayBy {ρ β : Type} (lookup : Tx (Option ρ)) (toResponse : ρ → β)
    (conflict : Error) : Tx β := do
  Prog.rollback
  match ← lookup with
  | some existing => return toResponse existing
  | none =>
    Prog.rollback
    .raise conflict

/-! ## Quantity reservations -/

namespace QuantityReservationService

def toResponse (record : QuantityReservationRecord) : QuantityReservationResponse :=
  ⟨record.reservationId, record.status, record.reservationType, record.expiresAt,
    [⟨record.ticketTypeId, record.quantity⟩]⟩

def resolveConflictOrReplay (visitorSessionId : UUID) (idempotencyKey : String) :
    Tx QuantityReservationResponse :=
  resolveConflictOrReplayBy (getQuantityByIdempotencyKey visitorSessionId idempotencyKey) toResponse
    .quantityReservationConflictError

/-- The header and the item that `reserve` creates. -/
def newReservation (settings : Settings) (visitorSession : VisitorSession) (eventId : UUID)
    (idempotencyKey : String) (uuid4 : ℕ → UUID) (now : Instant) : Reservation :=
  { id := uuid4 0
    eventId := eventId
    visitorSessionId := visitorSession.id
    userId := visitorSession.userId
    status := .reserved
    reservationType := .quantity
    idempotencyKey := idempotencyKey
    expiresAt := settings.expiresAt now }

def newItem (ticketTypeId : UUID) (quantity : ℤ) (uuid4 : ℕ → UUID) : ReservationItem :=
  { id := uuid4 1
    reservationId := uuid4 0
    ticketTypeId := ticketTypeId
    quantity := quantity
    status := .reserved }

def create (reservation : Reservation) (reservationItem : ReservationItem) :
    Tx QuantityReservationResponse := do
  insertReservation reservation
  insertReservationItem reservationItem
  Prog.commitTx
  return ⟨reservation.id, .reserved, .quantity, reservation.expiresAt,
    [⟨reservationItem.ticketTypeId, reservationItem.quantity⟩]⟩

def reserve (settings : Settings) (visitorSession : VisitorSession) (eventId ticketTypeId : UUID)
    (quantity : ℤ) (idempotencyKey : String) (uuid4 : ℕ → UUID) (now : Instant) :
    Tx QuantityReservationResponse := do
  match ← getQuantityByIdempotencyKey visitorSession.id idempotencyKey with
  | some existing => return toResponse existing
  | none =>
    let stockReserved ← reserveTicketQuantity eventId ticketTypeId quantity
    if !stockReserved then resolveConflictOrReplay visitorSession.id idempotencyKey
    else
      (create (newReservation settings visitorSession eventId idempotencyKey uuid4 now)
        (newItem ticketTypeId quantity uuid4)).tryCatch fun e =>
          if e = .integrityError then resolveConflictOrReplay visitorSession.id idempotencyKey
          else .raise e

end QuantityReservationService

/-! ## Seat reservations -/

namespace SeatReservationService

def toResponse (record : SeatReservationRecord) : SeatReservationResponse :=
  ⟨record.reservationId, record.status, record.reservationType, record.expiresAt, record.seatIds⟩

def resolveConflictOrReplay (visitorSessionId : UUID) (idempotencyKey : String) :
    Tx SeatReservationResponse :=
  resolveConflictOrReplayBy (getSeatsByIdempotencyKey visitorSessionId idempotencyKey) toResponse
    .seatReservationConflictError

/-- The header and the seat rows that `reserve` creates. -/
def newReservation (settings : Settings) (visitorSession : VisitorSession) (eventId : UUID)
    (idempotencyKey : String) (uuid4 : ℕ → UUID) (now : Instant) : Reservation :=
  { id := uuid4 0
    eventId := eventId
    visitorSessionId := visitorSession.id
    userId := visitorSession.userId
    status := .reserved
    reservationType := .seats
    idempotencyKey := idempotencyKey
    expiresAt := settings.expiresAt now }

def newSeats (settings : Settings) (orderedSeatIds : List UUID) (uuid4 : ℕ → UUID) (now : Instant) :
    List ReservationSeat :=
  orderedSeatIds.mapIdx fun n seatId =>
    { id := uuid4 (n + 1)
      reservationId := uuid4 0
      seatId := seatId
      status := .reserved
      expiresAt := settings.expiresAt now }

def create (reservation : Reservation) (reservationSeats : List ReservationSeat) :
    Tx SeatReservationResponse := do
  insertReservation reservation
  insertReservationSeats reservationSeats
  Prog.commitTx
  return ⟨reservation.id, .reserved, .seats, reservation.expiresAt,
    reservationSeats.map ReservationSeat.seatId⟩

def reserve (settings : Settings) (visitorSession : VisitorSession) (eventId : UUID)
    (seatIds : List UUID) (idempotencyKey : String) (uuid4 : ℕ → UUID) (now : Instant) :
    Tx SeatReservationResponse := do
  match ← getSeatsByIdempotencyKey visitorSession.id idempotencyKey with
  | some existing => return toResponse existing
  | none =>
    let orderedSeatIds := seatIds.insertionSort (· ≤ ·)
    let lockedSeatIds ← lockEventSeats eventId orderedSeatIds
    if lockedSeatIds ≠ orderedSeatIds then do
      Prog.rollback
      .raise .seatsNotFoundError
    else do
      expireReservationsForSeats orderedSeatIds now
      (create (newReservation settings visitorSession eventId idempotencyKey uuid4 now)
        (newSeats settings orderedSeatIds uuid4 now)).tryCatch fun e =>
          if e = .integrityError then resolveConflictOrReplay visitorSession.id idempotencyKey
          else .raise e

end SeatReservationService

/-! ## Lifecycle -/

namespace ReservationLifecycleService

def detailResponse (reservation : Reservation) (items : List ReservationItem)
    (seats : List ReservationSeat) : ReservationDetailResponse :=
  ⟨reservation.id, reservation.eventId, reservation.status, reservation.reservationType,
    reservation.expiresAt, items.map fun item => ⟨item.ticketTypeId, item.quantity, item.status⟩,
    seats.map fun seat => ⟨seat.seatId, seat.status⟩⟩

def toDetailResponse (reservation : Reservation) : Tx ReservationDetailResponse := do
  let items ← listReservationItems reservation.id
  let seats ← listReservationSeats reservation.id
  return detailResponse reservation items seats

def get (reservationId : UUID) (visitorSession : VisitorSession) : Tx ReservationDetailResponse := do
  match ← getOwnedReservation reservationId visitorSession.id visitorSession.userId false with
  | none =>
    Prog.rollback
    .raise .reservationNotFoundError
  | some reservation =>
    let response ← toDetailResponse reservation
    Prog.rollback
    return response

def lockOwned (reservationId : UUID) (visitorSession : VisitorSession) : Tx Reservation := do
  match ← getOwnedReservation reservationId visitorSession.id visitorSession.userId true with
  | none =>
    Prog.rollback
    .raise .reservationNotFoundError
  | some reservation => return reservation

/-- The guarded update for one item. -/
def moveQuantity (targetStatus : ReservationStatus) (item : ReservationItem) : Tx Bool :=
  if targetStatus = .confirmed then confirmReservedQuantity item.ticketTypeId item.quantity
  else releaseReservedQuantity item.ticketTypeId item.quantity

def transitionItems (targetStatus : ReservationStatus) : List ReservationItem → Tx Unit
  | [] => return ()
  | item :: items =>
    if item.status ≠ .reserved then .raise .reservationInventoryConflictError
    else do
      let updated ← moveQuantity targetStatus item
      if !updated then .raise .reservationInventoryConflictError
      else do
        setItemStatus item.id targetStatus
        transitionItems targetStatus items

def transitionQuantity (reservationId : UUID) (targetStatus : ReservationStatus) : Tx Unit := do
  let items ← listReservationItems reservationId
  if items = [] then .raise .reservationInventoryConflictError
  else transitionItems targetStatus items

def transitionSeatRows (targetStatus : ReservationStatus) : List ReservationSeat → Tx Unit
  | [] => return ()
  | seat :: seats =>
    if seat.status ≠ .reserved then .raise .reservationInventoryConflictError
    else do
      setSeatStatus seat.id targetStatus
      transitionSeatRows targetStatus seats

def transitionSeats (reservationId : UUID) (targetStatus : ReservationStatus) : Tx Unit := do
  let seats ← listReservationSeats reservationId
  if seats = [] then .raise .reservationInventoryConflictError
  else transitionSeatRows targetStatus seats

def transitionChildren (reservation : Reservation) (targetStatus : ReservationStatus) : Tx Unit :=
  match reservation.reservationType with
  | .quantity => transitionQuantity reservation.id targetStatus
  | .seats => transitionSeats reservation.id targetStatus

def transitionReserved (reservation : Reservation) (targetStatus : ReservationStatus) : Tx Unit :=
  if reservation.status ≠ .reserved then return ()
  else do
    transitionChildren reservation targetStatus
    setReservationStatus reservation.id targetStatus

/-- `except ReservationInventoryConflictError: await session.rollback(); raise`. -/
def rollbackOnInventoryConflict (body : Tx Unit) : Tx Unit :=
  body.tryCatch fun e =>
    if e = .reservationInventoryConflictError then do
      Prog.rollback
      .raise e
    else .raise e

/-- The common text of `cancel` and `confirm`, after the reservation is locked. -/
def moveLocked (targetStatus : ReservationStatus) (now : Instant) (reservation : Reservation) :
    Tx ReservationDetailResponse :=
  if reservation.status = targetStatus then do
    let response ← toDetailResponse reservation
    Prog.rollback
    return response
  else if reservation.status ≠ .reserved then do
    Prog.rollback
    .raise .reservationTransitionConflictError
  else if reservation.expiresAt < now then do
    rollbackOnInventoryConflict (transitionReserved reservation .expired)
    Prog.commitTx
    .raise .reservationTransitionConflictError
  else do
    rollbackOnInventoryConflict (transitionReserved reservation targetStatus)
    let response ← toDetailResponse { reservation with status := targetStatus }
    Prog.commitTx
    return response

def moveTo (targetStatus : ReservationStatus) (reservationId : UUID)
    (visitorSession : VisitorSession) (now : Instant) : Tx ReservationDetailResponse := do
  let reservation ← lockOwned reservationId visitorSession
  moveLocked targetStatus now reservation

def cancel (reservationId : UUID) (visitorSession : VisitorSession) (now : Instant) :
    Tx ReservationDetailResponse :=
  moveTo .cancelled reservationId visitorSession now

def confirm (reservationId : UUID) (visitorSession : VisitorSession) (now : Instant) :
    Tx ReservationDetailResponse :=
  moveTo .confirmed reservationId visitorSession now

/-- One iteration of `expire_batch`, which counts what it processed. -/
def expireOne (reservation : Reservation) : Tx ℕ :=
  Prog.tryCatch (do
      Prog.beginNested (transitionReserved reservation .expired)
      return 1)
    fun e => if e = .reservationInventoryConflictError then return 0 else .raise e

def expireEach : List Reservation → Tx ℕ
  | [] => return 0
  | reservation :: reservations => do
    let processed ← expireOne reservation
    let rest ← expireEach reservations
    return processed + rest

/-- The rest of `expire_batch` when its reservations are locked. -/
def expireLocked (reservations : List Reservation) : Tx ℕ :=
  if reservations = [] then do
    Prog.rollback
    return 0
  else do
    let processed ← expireEach reservations
    Prog.commitTx
    return processed

def expireBatch (batchSize : ℕ) (now : Instant) (reservationIds : Option (List UUID)) : Tx ℕ := do
  let reservations ← lockExpiredReservations now batchSize reservationIds
  expireLocked reservations

end ReservationLifecycleService

end TicketReservation
