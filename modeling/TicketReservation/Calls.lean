/-
  The calls that run concurrently, and what each does atomically.

  A `Call` carries the data of one request: the visitor's session, the
  validated payload, the ids it would draw and its clock reading.  `Call.prog`
  is the program of the service; `Call.spec` says what the call does when it is
  executed atomically.  An `expire_batch` that skips locked rows corresponds to
  the expiration of some of the rows it might have taken; `get`, which reads
  without locks, is only promised not to change anything.
-/
import TicketReservation.Lifecycle

namespace TicketReservation

open Txn

/-! ## Payloads -/

/-- A validated body of `POST /v1/reservations/quantity`. -/
structure QuantityReservationCreate where
  eventId : UUID
  ticketTypeId : UUID
  quantity : ℤ
  idempotencyKey : String
  quantity_pos : 0 < quantity
  key_length : 1 ≤ idempotencyKey.length ∧ idempotencyKey.length ≤ 255

/-- A validated body of `POST /v1/reservations/seats`. -/
structure SeatReservationCreate where
  eventId : UUID
  seatIds : List UUID
  idempotencyKey : String
  seats_length : 1 ≤ seatIds.length ∧ seatIds.length ≤ 100
  seats_unique : seatIds.Nodup
  key_length : 1 ≤ idempotencyKey.length ∧ idempotencyKey.length ≤ 255

theorem SeatReservationCreate.seatIds_ne_nil (payload : SeatReservationCreate) :
    payload.seatIds ≠ [] := by
  have := payload.seats_length.1
  intro h
  simp [h] at this

/-! ## Calls -/

inductive Call where
  | reserveQuantity (visitorSession : VisitorSession) (payload : QuantityReservationCreate)
      (uuid4 : ℕ → UUID) (now : Instant)
  | reserveSeats (visitorSession : VisitorSession) (payload : SeatReservationCreate)
      (uuid4 : ℕ → UUID) (now : Instant)
  | get (reservationId : UUID) (visitorSession : VisitorSession)
  | cancel (reservationId : UUID) (visitorSession : VisitorSession) (now : Instant)
  | confirm (reservationId : UUID) (visitorSession : VisitorSession) (now : Instant)
  | expireBatch (batchSize : ℕ) (now : Instant) (reservationIds : Option (List UUID))

inductive Response where
  | quantity (response : QuantityReservationResponse)
  | seats (response : SeatReservationResponse)
  | detail (response : ReservationDetailResponse)
  | count (processed : ℕ)
  deriving DecidableEq, Repr

/-- The program of a call. -/
def Call.prog (settings : Settings) : Call → Tx Response
  | .reserveQuantity visitorSession payload uuid4 now =>
    .map .quantity (QuantityReservationService.reserve settings visitorSession payload.eventId
      payload.ticketTypeId payload.quantity payload.idempotencyKey uuid4 now)
  | .reserveSeats visitorSession payload uuid4 now =>
    .map .seats (SeatReservationService.reserve settings visitorSession payload.eventId
      payload.seatIds payload.idempotencyKey uuid4 now)
  | .get reservationId visitorSession =>
    .map .detail (ReservationLifecycleService.get reservationId visitorSession)
  | .cancel reservationId visitorSession now =>
    .map .detail (ReservationLifecycleService.cancel reservationId visitorSession now)
  | .confirm reservationId visitorSession now =>
    .map .detail (ReservationLifecycleService.confirm reservationId visitorSession now)
  | .expireBatch batchSize now reservationIds =>
    .map .count (ReservationLifecycleService.expireBatch batchSize now reservationIds)

/-- The reservations that a call of `expire_batch` may take from `d`. -/
structure Expirable (d : Database) (batchSize : ℕ) (now : Instant)
    (reservationIds : Option (List UUID)) (xs : List Reservation) : Prop where
  length : xs.length ≤ batchSize
  nodup : (xs.map Reservation.id).Nodup
  mem : ∀ x ∈ xs, x ∈ d.reservations ∧ x.status = .reserved ∧ x.expiresAt < now ∧
    ∀ ids ∈ reservationIds, x.id ∈ ids

/-- **What a call does atomically.** -/
def Call.spec (settings : Settings) (c : Call) (d : Database) (r : Except Error Response)
    (d' : Database) : Prop :=
  match c with
  | .get _ _ => d' = d
  | .expireBatch batchSize now reservationIds => ∃ xs, Expirable d batchSize now reservationIds xs ∧
      (Prog.map Response.count (ReservationLifecycleService.expireLocked xs)).alone d = (r, d')
  | c => (c.prog settings).alone d = (r, d')

end TicketReservation
