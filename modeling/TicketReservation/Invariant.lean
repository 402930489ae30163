/-
  What holds of every committed database.

  `Schema` collects the constraints of the schema.  `Inv` adds what no
  constraint says: a child row has the status of its reservation, a reservation
  has the children of its kind, and the counters of a ticket type are the sums
  over its items (`Ledger`).

  The commits of the services change the database in three ways: a reservation
  and its children leave RESERVED together (`finish`), a quantity reservation
  is created (`addQuantity`), a seat reservation is created (`addSeats`).  Each
  keeps `Inv` (`Inv.finish`, `Inv.addQuantity`, `Inv.addSeats`).
-/
import TicketReservation.Service
import TicketReservation.Table

namespace TicketReservation

/-! ## Constraints -/

/-- The constraints of the tables that reservations only refer to. -/
structure Catalogue (d : Database) : Prop where
  userIds : (d.users.map User.id).Nodup
  userEmails : (d.users.map User.email).Nodup
  sessionIds : (d.visitorSessions.map VisitorSession.id).Nodup
  sessionTokens : (d.visitorSessions.map VisitorSession.anonymousTokenHash).Nodup
  sessionUsers : ∀ v ∈ d.visitorSessions, ∀ u ∈ v.userId, ∃ x ∈ d.users, x.id = u
  eventIds : (d.events.map Event.id).Nodup
  seatIds : (d.seats.map Seat.id).Nodup
  seatPositions : (d.seats.map fun s => (s.eventId, s.section_, s.rowName, s.seatNumber)).Nodup
  seatEvents : ∀ s ∈ d.seats, ∃ e ∈ d.events, e.id = s.eventId

/-- **The constraints of the schema.** -/
structure Schema (d : Database) : Prop extends Catalogue d where
  ticketTypeIds : (d.ticketTypes.map TicketType.id).Nodup
  ticketTypeEvents : ∀ t ∈ d.ticketTypes, ∃ e ∈ d.events, e.id = t.eventId
  ticketTypeChecks : ∀ t ∈ d.ticketTypes, t.Checks
  ticketTypeInts : ∀ t ∈ d.ticketTypes, Int32 t.totalQuantity
  reservationIds : (d.reservations.map Reservation.id).Nodup
  visitorKeys : (d.reservations.map fun r => (r.visitorSessionId, r.idempotencyKey)).Nodup
  reservationKeys : ∀ r ∈ d.reservations, Storable r.idempotencyKey
  reservationEvents : ∀ r ∈ d.reservations, ∃ e ∈ d.events, e.id = r.eventId
  reservationSessions : ∀ r ∈ d.reservations, ∃ v ∈ d.visitorSessions, v.id = r.visitorSessionId
  reservationUsers : ∀ r ∈ d.reservations, ∀ u ∈ r.userId, ∃ x ∈ d.users, x.id = u
  itemIds : (d.reservationItems.map ReservationItem.id).Nodup
  itemReservations : ∀ i ∈ d.reservationItems, ∃ r ∈ d.reservations, r.id = i.reservationId
  itemTicketTypes : ∀ i ∈ d.reservationItems, ∃ t ∈ d.ticketTypes, t.id = i.ticketTypeId
  itemQuantities : ∀ i ∈ d.reservationItems, 0 < i.quantity
  seatRowIds : (d.reservationSeats.map ReservationSeat.id).Nodup
  seatRowReservations : ∀ s ∈ d.reservationSeats, ∃ r ∈ d.reservations, r.id = s.reservationId
  seatRowSeats : ∀ s ∈ d.reservationSeats, ∃ c ∈ d.seats, c.id = s.seatId
  activeSeats : ((d.reservationSeats.filter fun s => s.status.active).map
    ReservationSeat.seatId).Nodup

/-- The units of a ticket type in items with a status. -/
def Database.units (d : Database) (ticketTypeId : UUID) (status : ReservationStatus) : ℤ :=
  ((d.reservationItems.filter fun i => i.ticketTypeId = ticketTypeId && i.status = status).map
    ReservationItem.quantity).sum

/-- The counters of the ticket types are the sums over their items. -/
def Ledger (d : Database) : Prop :=
  ∀ t ∈ d.ticketTypes, t.reservedQuantity = d.units t.id .reserved ∧
    t.soldQuantity = d.units t.id .confirmed

/-- **The invariant of the committed database.** -/
structure Inv (d : Database) : Prop extends Schema d where
  item : ∀ i ∈ d.reservationItems, ∃ r ∈ d.reservations, r.id = i.reservationId ∧
    r.reservationType = .quantity ∧ i.status = r.status ∧
    ∃ t ∈ d.ticketTypes, t.id = i.ticketTypeId ∧ t.eventId = r.eventId
  seat : ∀ s ∈ d.reservationSeats, ∃ r ∈ d.reservations, r.id = s.reservationId ∧
    r.reservationType = .seats ∧ s.status = r.status ∧ s.expiresAt = r.expiresAt ∧
    ∃ c ∈ d.seats, c.id = s.seatId ∧ c.eventId = r.eventId
  oneItem : ∀ r ∈ d.reservations, r.reservationType = .quantity → ∃ i, d.itemsOf r.id = [i]
  someSeats : ∀ r ∈ d.reservations, r.reservationType = .seats → d.seatsOf r.id ≠ []
  distinctSeats : ∀ r ∈ d.reservations, ((d.seatsOf r.id).map ReservationSeat.seatId).Nodup
  ledger : Ledger d

/-! ## The three changes -/

/-- Does the reservation `x` get the status `s`? -/
def Reservation.finish (x : UUID) (s : ReservationStatus) (r : Reservation) : Reservation :=
  if r.id = x then { r with status := s } else r

def ReservationItem.finish (x : UUID) (s : ReservationStatus) (i : ReservationItem) :
    ReservationItem :=
  if i.reservationId = x then { i with status := s } else i

def ReservationSeat.finish (x : UUID) (s : ReservationStatus) (r : ReservationSeat) :
    ReservationSeat :=
  if r.reservationId = x then { r with status := s } else r

/-- The units of a ticket type that the reservation `x` holds. -/
def Database.held (d : Database) (x ticketTypeId : UUID) : ℤ :=
  ((d.reservationItems.filter fun i => i.reservationId = x && i.ticketTypeId = ticketTypeId).map
    ReservationItem.quantity).sum

/-- The reservation `x` leaves RESERVED with its children; its units go back to
    the stock or are sold. -/
def Database.finish (d : Database) (x : UUID) (s : ReservationStatus) : Database :=
  { d with
    ticketTypes := d.ticketTypes.map fun t =>
      t.add (-d.held x t.id) (if s = .confirmed then d.held x t.id else 0)
    reservations := d.reservations.map (Reservation.finish x s)
    reservationItems := d.reservationItems.map (ReservationItem.finish x s)
    reservationSeats := d.reservationSeats.map (ReservationSeat.finish x s) }

/-- The reservations `xs` one after another. -/
def Database.finishAll (d : Database) (xs : List UUID) (s : ReservationStatus) : Database :=
  xs.foldl (fun d x => d.finish x s) d

def Database.addQuantity (d : Database) (x : Reservation) (i : ReservationItem) : Database :=
  { d with
    ticketTypes := d.ticketTypes.map fun t => if t.id = i.ticketTypeId then t.add i.quantity 0 else t
    reservations := d.reservations ++ [x]
    reservationItems := d.reservationItems ++ [i] }

def Database.addSeats (d : Database) (x : Reservation) (rows : List ReservationSeat) : Database :=
  { d with
    reservations := d.reservations ++ [x]
    reservationSeats := d.reservationSeats ++ rows }

section
variable (x : UUID) (s : ReservationStatus)

@[simp] theorem Reservation.finish_id (r : Reservation) : (r.finish x s).id = r.id := by
  unfold Reservation.finish; split <;> rfl

@[simp] theorem Reservation.finish_eventId (r : Reservation) :
    (r.finish x s).eventId = r.eventId := by
  unfold Reservation.finish; split <;> rfl

@[simp] theorem Reservation.finish_visitorSessionId (r : Reservation) :
    (r.finish x s).visitorSessionId = r.visitorSessionId := by
  unfold Reservation.finish; split <;> rfl

@[simp] theorem Reservation.finish_userId (r : Reservation) :
    (r.finish x s).userId = r.userId := by
  unfold Reservation.finish; split <;> rfl

@[simp] theorem Reservation.finish_reservationType (r : Reservation) :
    (r.finish x s).reservationType = r.reservationType := by
  unfold Reservation.finish; split <;> rfl

@[simp] theorem Reservation.finish_idempotencyKey (r : Reservation) :
    (r.finish x s).idempotencyKey = r.idempotencyKey := by
  unfold Reservation.finish; split <;> rfl

@[simp] theorem Reservation.finish_expiresAt (r : Reservation) :
    (r.finish x s).expiresAt = r.expiresAt := by
  unfold Reservation.finish; split <;> rfl

theorem Reservation.finish_status (r : Reservation) :
    (r.finish x s).status = if r.id = x then s else r.status := by
  unfold Reservation.finish; split <;> rfl

@[simp] theorem ReservationItem.finish_id (i : ReservationItem) : (i.finish x s).id = i.id := by
  unfold ReservationItem.finish; split <;> rfl

@[simp] theorem ReservationItem.finish_reservationId (i : ReservationItem) :
    (i.finish x s).reservationId = i.reservationId := by
  unfold ReservationItem.finish; split <;> rfl

@[simp] theorem ReservationItem.finish_ticketTypeId (i : ReservationItem) :
    (i.finish x s).ticketTypeId = i.ticketTypeId := by
  unfold ReservationItem.finish; split <;> rfl

@[simp] theorem ReservationItem.finish_quantity (i : ReservationItem) :
    (i.finish x s).quantity = i.quantity := by
  unfold ReservationItem.finish; split <;> rfl

theorem ReservationItem.finish_status (i : ReservationItem) :
    (i.finish x s).status = if i.reservationId = x then s else i.status := by
  unfold ReservationItem.finish; split <;> rfl

@[simp] theorem ReservationSeat.finish_id (r : ReservationSeat) : (r.finish x s).id = r.id := by
  unfold ReservationSeat.finish; split <;> rfl

@[simp] theorem ReservationSeat.finish_reservationId (r : ReservationSeat) :
    (r.finish x s).reservationId = r.reservationId := by
  unfold ReservationSeat.finish; split <;> rfl

@[simp] theorem ReservationSeat.finish_seatId (r : ReservationSeat) :
    (r.finish x s).seatId = r.seatId := by
  unfold ReservationSeat.finish; split <;> rfl

@[simp] theorem ReservationSeat.finish_expiresAt (r : ReservationSeat) :
    (r.finish x s).expiresAt = r.expiresAt := by
  unfold ReservationSeat.finish; split <;> rfl

theorem ReservationSeat.finish_status (r : ReservationSeat) :
    (r.finish x s).status = if r.reservationId = x then s else r.status := by
  unfold ReservationSeat.finish; split <;> rfl

end

section
variable (t : TicketType) (Δr Δs : ℤ)

@[simp] theorem TicketType.add_id : (t.add Δr Δs).id = t.id := rfl
@[simp] theorem TicketType.add_eventId : (t.add Δr Δs).eventId = t.eventId := rfl
@[simp] theorem TicketType.add_totalQuantity : (t.add Δr Δs).totalQuantity = t.totalQuantity := rfl
@[simp] theorem TicketType.add_soldQuantity :
    (t.add Δr Δs).soldQuantity = t.soldQuantity + Δs := rfl
@[simp] theorem TicketType.add_reservedQuantity :
    (t.add Δr Δs).reservedQuantity = t.reservedQuantity + Δr := rfl
@[simp] theorem TicketType.add_zero : t.add 0 0 = t := by simp [TicketType.add]

end

@[simp] theorem ReservationStatus.active_reserved : ReservationStatus.reserved.active = true := rfl
@[simp] theorem ReservationStatus.active_confirmed : ReservationStatus.confirmed.active = true := rfl
@[simp] theorem ReservationStatus.active_cancelled : ReservationStatus.cancelled.active = false := rfl
@[simp] theorem ReservationStatus.active_expired : ReservationStatus.expired.active = false := rfl

namespace Database
variable (d : Database) (x y : UUID) (s u : ReservationStatus)

@[simp] theorem finish_users : (d.finish x s).users = d.users := rfl
@[simp] theorem finish_visitorSessions : (d.finish x s).visitorSessions = d.visitorSessions := rfl
@[simp] theorem finish_events : (d.finish x s).events = d.events := rfl
@[simp] theorem finish_seats : (d.finish x s).seats = d.seats := rfl
@[simp] theorem finish_reservations :
    (d.finish x s).reservations = d.reservations.map (Reservation.finish x s) := rfl
@[simp] theorem finish_reservationItems :
    (d.finish x s).reservationItems = d.reservationItems.map (ReservationItem.finish x s) := rfl
@[simp] theorem finish_reservationSeats :
    (d.finish x s).reservationSeats = d.reservationSeats.map (ReservationSeat.finish x s) := rfl

theorem mem_finish_ticketTypes {t : TicketType} : t ∈ (d.finish x s).ticketTypes ↔
    ∃ t' ∈ d.ticketTypes,
      t'.add (-d.held x t'.id) (if s = .confirmed then d.held x t'.id else 0) = t :=
  List.mem_map

@[simp] theorem itemsOf_finish :
    (d.finish x s).itemsOf y = (d.itemsOf y).map (ReservationItem.finish x s) :=
  Table.filter_map_comm (by simp) _

@[simp] theorem seatsOf_finish :
    (d.finish x s).seatsOf y = (d.seatsOf y).map (ReservationSeat.finish x s) :=
  Table.filter_map_comm (by simp) _

/-- The units that change their status with a reservation. -/
theorem units_finish (hx : ∀ i ∈ d.reservationItems, i.reservationId = x → i.status = .reserved)
    (hs : s ≠ .reserved) (t : UUID) :
    (d.finish x s).units t u = d.units t u +
      (if u = .reserved then -1 else if u = s then 1 else 0) * d.held x t := by
  simp only [units, held, finish, Table.sum_filter, List.map_map, ← List.sum_map_mul_left]
  refine Table.sum_map_add fun i hi => ?_
  have := hx i hi
  simp only [Function.comp_apply, ReservationItem.finish_ticketTypeId,
    ReservationItem.finish_quantity, ReservationItem.finish_status]
  by_cases hix : i.reservationId = x <;> by_cases ht : i.ticketTypeId = t <;>
    by_cases hu : u = .reserved <;> by_cases hus : u = s <;>
    simp_all [eq_comm]

end Database

/-! ## The changes keep the invariant -/

namespace Inv
variable {d : Database} {x : Reservation} {s : ReservationStatus}

/-- A reservation is the only one with its id. -/
theorem eq_of_id (h : Inv d) {r r' : Reservation} (hr : r ∈ d.reservations)
    (hr' : r' ∈ d.reservations) (hid : r.id = r'.id) : r = r' :=
  Table.eq_of_key h.reservationIds hr hr' hid

theorem item_status (h : Inv d) (hx : x ∈ d.reservations) :
    ∀ i ∈ d.reservationItems, i.reservationId = x.id → i.status = x.status := by
  intro i hi hix
  obtain ⟨r, hr, hrx, -, hst, -⟩ := h.item i hi
  rw [hst, h.eq_of_id hr hx (hrx.trans hix)]

theorem seat_status (h : Inv d) (hx : x ∈ d.reservations) :
    ∀ r ∈ d.reservationSeats, r.reservationId = x.id → r.status = x.status := by
  intro r hr hrx
  obtain ⟨y, hy, hyr, -, hst, -⟩ := h.seat r hr
  rw [hst, h.eq_of_id hy hx (hyr.trans hrx)]

theorem held_nonneg (h : Inv d) (y t : UUID) : 0 ≤ d.held y t :=
  Table.sum_nonneg fun i hi => (h.itemQuantities i (List.mem_filter.1 hi).1).le

theorem units_nonneg (h : ∀ i ∈ d.reservationItems, 0 < i.quantity) (t : UUID)
    (u : ReservationStatus) : 0 ≤ d.units t u :=
  Table.sum_nonneg fun i hi => (h i (List.mem_filter.1 hi).1).le

/-- The counters follow the items. -/
theorem ledger_finish (h : Inv d) (hx : x ∈ d.reservations) (hr : x.status = .reserved)
    (hs : s ≠ .reserved) : Ledger (d.finish x.id s) := by
  intro t ht
  obtain ⟨t', ht', rfl⟩ := (d.mem_finish_ticketTypes _ _).1 ht
  obtain ⟨h1, h2⟩ := h.ledger t' ht'
  have hit : ∀ i ∈ d.reservationItems, i.reservationId = x.id → i.status = .reserved :=
    fun i hi hix => (h.item_status hx i hi hix).trans hr
  simp only [TicketType.add_id, TicketType.add_reservedQuantity, TicketType.add_soldQuantity,
    d.units_finish x.id s _ hit hs]
  refine ⟨by simp [h1], ?_⟩
  by_cases hc : s = .confirmed
  · simp [hc, h2]
  · simp [hc, h2, Ne.symm hc]

theorem checks_finish (h : Inv d) (hx : x ∈ d.reservations) (hr : x.status = .reserved)
    (hs : s ≠ .reserved) : ∀ t ∈ (d.finish x.id s).ticketTypes, t.Checks := by
  intro t ht
  have hq : ∀ i ∈ (d.finish x.id s).reservationItems, 0 < i.quantity := by
    simpa using h.itemQuantities
  have h1 := units_nonneg hq t.id .reserved
  have h2 := units_nonneg hq t.id .confirmed
  rw [← (h.ledger_finish hx hr hs t ht).1] at h1
  rw [← (h.ledger_finish hx hr hs t ht).2] at h2
  obtain ⟨t', ht', rfl⟩ := (d.mem_finish_ticketTypes _ _).1 ht
  have hc := h.ticketTypeChecks t' ht'
  have hh := h.held_nonneg x.id t'.id
  have ha := hc.allocated
  refine ⟨hc.total, h2, h1, ?_⟩
  simp only [TicketType.add_reservedQuantity, TicketType.add_soldQuantity,
    TicketType.add_totalQuantity]
  split_ifs <;> omega

theorem activeSeats_finish (h : Inv d) (hx : x ∈ d.reservations) (hr : x.status = .reserved) :
    (((d.finish x.id s).reservationSeats.filter fun r => r.status.active).map
      ReservationSeat.seatId).Nodup := by
  refine Table.nodup_filter_map (by simp) (fun r hrm hact => ?_) h.activeSeats
  by_cases hrx : r.reservationId = x.id
  · simp [h.seat_status hx r hrm hrx, hr]
  · simpa [ReservationSeat.finish_status, hrx] using hact

/-- **`finish` keeps the invariant.** -/
theorem finish (h : Inv d) (hx : x ∈ d.reservations) (hr : x.status = .reserved)
    (hs : s ≠ .reserved) : Inv (d.finish x.id s) where
  toCatalogue := { h.toCatalogue with }
  ticketTypeIds := by
    rw [Database.finish, Table.map_key fun t => TicketType.add_id t _ _]
    exact h.ticketTypeIds
  ticketTypeEvents := List.forall_mem_map.2 h.ticketTypeEvents
  ticketTypeChecks := h.checks_finish hx hr hs
  ticketTypeInts := List.forall_mem_map.2 h.ticketTypeInts
  reservationIds := Table.nodup_map_key (by simp) h.reservationIds
  visitorKeys := Table.nodup_map_key (by simp) h.visitorKeys
  reservationKeys := by simpa using h.reservationKeys
  reservationEvents := by simpa using h.reservationEvents
  reservationSessions := by simpa using h.reservationSessions
  reservationUsers := by simpa using h.reservationUsers
  itemIds := Table.nodup_map_key (by simp) h.itemIds
  itemReservations := by simpa using h.itemReservations
  itemTicketTypes := by simpa [Database.mem_finish_ticketTypes] using h.itemTicketTypes
  itemQuantities := by simpa using h.itemQuantities
  seatRowIds := Table.nodup_map_key (by simp) h.seatRowIds
  seatRowReservations := by simpa using h.seatRowReservations
  seatRowSeats := by simpa using h.seatRowSeats
  activeSeats := h.activeSeats_finish hx hr
  item := by
    refine List.forall_mem_map.2 fun i hi => ?_
    obtain ⟨r, hrm, hri, hty, hst, t, ht, h1, h2⟩ := h.item i hi
    refine ⟨_, List.mem_map_of_mem hrm, by simpa using hri, by simpa using hty, ?_,
      _, List.mem_map_of_mem ht, by simpa using h1, by simpa using h2⟩
    rw [ReservationItem.finish_status, Reservation.finish_status, hri, hst]
  seat := by
    refine List.forall_mem_map.2 fun i hi => ?_
    obtain ⟨r, hrm, hri, hty, hst, hex, c, hc, h1, h2⟩ := h.seat i hi
    refine ⟨_, List.mem_map_of_mem hrm, by simpa using hri, by simpa using hty, ?_,
      by simpa using hex, c, hc, by simpa using h1, by simpa using h2⟩
    rw [ReservationSeat.finish_status, Reservation.finish_status, hri, hst]
  oneItem := by
    refine List.forall_mem_map.2 fun r hrm hty => ?_
    obtain ⟨i, hi⟩ := h.oneItem r hrm (by simpa using hty)
    exact ⟨_, by rw [Database.itemsOf_finish, Reservation.finish_id, hi, List.map_singleton]⟩
  someSeats := by
    refine List.forall_mem_map.2 fun r hrm hty => ?_
    simpa using h.someSeats r hrm (by simpa using hty)
  distinctSeats := by
    refine List.forall_mem_map.2 fun r hrm => ?_
    rw [Database.seatsOf_finish, Table.map_key (by simp), Reservation.finish_id]
    exact h.distinctSeats r hrm
  ledger := h.ledger_finish hx hr hs

/-! ### Creation -/

/-- A fresh reservation has no children yet. -/
theorem no_items (h : Inv d) (hx : x.Fits d) : d.itemsOf x.id = [] := by
  refine List.filter_eq_nil_iff.2 fun i hi hix => ?_
  obtain ⟨r, hr, hri⟩ := h.itemReservations i hi
  exact hx.id r hr (hri.trans (by simpa using hix))

theorem no_seats (h : Inv d) (hx : x.Fits d) : d.seatsOf x.id = [] := by
  refine List.filter_eq_nil_iff.2 fun r hr hrx => ?_
  obtain ⟨y, hy, hyr⟩ := h.seatRowReservations r hr
  exact hx.id y hy (hyr.trans (by simpa using hrx))

end Inv

/-- What `reserve` has checked when it creates a quantity reservation. -/
structure NewQuantity (d : Database) (x : Reservation) (i : ReservationItem) : Prop where
  fits : x.Fits d
  key : Storable x.idempotencyKey
  reserved : x.status = .reserved
  kind : x.reservationType = .quantity
  parent : i.reservationId = x.id
  itemReserved : i.status = .reserved
  itemId : ∀ j ∈ d.reservationItems, j.id ≠ i.id
  quantity : 0 < i.quantity
  stock : ∃ t ∈ d.ticketTypes, t.id = i.ticketTypeId ∧ t.eventId = x.eventId ∧
    i.quantity ≤ t.totalQuantity - t.soldQuantity - t.reservedQuantity

instance (d : Database) (x : Reservation) (i : ReservationItem) : Decidable (NewQuantity d x i) :=
  decidable_of_iff (x.Fits d ∧ Storable x.idempotencyKey ∧ x.status = .reserved ∧
    x.reservationType = .quantity ∧ i.reservationId = x.id ∧ i.status = .reserved ∧
    (∀ j ∈ d.reservationItems, j.id ≠ i.id) ∧ 0 < i.quantity ∧
    ∃ t ∈ d.ticketTypes, t.id = i.ticketTypeId ∧ t.eventId = x.eventId ∧
      i.quantity ≤ t.totalQuantity - t.soldQuantity - t.reservedQuantity)
    ⟨fun ⟨h1, h2, h3, h4, h5, h6, h7, h8, h9⟩ => ⟨h1, h2, h3, h4, h5, h6, h7, h8, h9⟩,
      fun h => ⟨h.1, h.2, h.3, h.4, h.5, h.6, h.7, h.8, h.9⟩⟩

/-- What `reserve` has checked when it creates a seat reservation. -/
structure NewSeats (d : Database) (x : Reservation) (rows : List ReservationSeat) : Prop where
  fits : x.Fits d
  key : Storable x.idempotencyKey
  reserved : x.status = .reserved
  kind : x.reservationType = .seats
  nonempty : rows ≠ []
  ids : (rows.map ReservationSeat.id).Nodup
  seatIds : (rows.map ReservationSeat.seatId).Nodup
  parent : ∀ r ∈ rows, r.reservationId = x.id
  rowReserved : ∀ r ∈ rows, r.status = .reserved
  expiresAt : ∀ r ∈ rows, r.expiresAt = x.expiresAt
  seats : ∀ r ∈ rows, ∃ c ∈ d.seats, c.id = r.seatId ∧ c.eventId = x.eventId
  freshIds : ∀ q ∈ d.reservationSeats, ∀ r ∈ rows, q.id ≠ r.id
  free : ∀ q ∈ d.reservationSeats, q.status.active → ∀ r ∈ rows, q.seatId ≠ r.seatId

instance (d : Database) (x : Reservation) (rows : List ReservationSeat) :
    Decidable (NewSeats d x rows) :=
  decidable_of_iff (x.Fits d ∧ Storable x.idempotencyKey ∧ x.status = .reserved ∧
    x.reservationType = .seats ∧ rows ≠ [] ∧ (rows.map ReservationSeat.id).Nodup ∧
    (rows.map ReservationSeat.seatId).Nodup ∧
    (∀ r ∈ rows, r.reservationId = x.id) ∧ (∀ r ∈ rows, r.status = .reserved) ∧
    (∀ r ∈ rows, r.expiresAt = x.expiresAt) ∧
    (∀ r ∈ rows, ∃ c ∈ d.seats, c.id = r.seatId ∧ c.eventId = x.eventId) ∧
    (∀ q ∈ d.reservationSeats, ∀ r ∈ rows, q.id ≠ r.id) ∧
    ∀ q ∈ d.reservationSeats, q.status.active → ∀ r ∈ rows, q.seatId ≠ r.seatId)
    ⟨fun ⟨h1, h2, h3, h4, h5, h6, h7, h8, h9, h10, h11, h12, h13⟩ =>
        ⟨h1, h2, h3, h4, h5, h6, h7, h8, h9, h10, h11, h12, h13⟩,
      fun h => ⟨h.1, h.2, h.3, h.4, h.5, h.6, h.7, h.8, h.9, h.10, h.11, h.12, h.13⟩⟩

namespace Database
variable (d : Database) (x : Reservation) (i : ReservationItem) (rows : List ReservationSeat)

@[simp] theorem addQuantity_users : (d.addQuantity x i).users = d.users := rfl
@[simp] theorem addQuantity_visitorSessions :
    (d.addQuantity x i).visitorSessions = d.visitorSessions := rfl
@[simp] theorem addQuantity_events : (d.addQuantity x i).events = d.events := rfl
@[simp] theorem addQuantity_seats : (d.addQuantity x i).seats = d.seats := rfl
@[simp] theorem addQuantity_reservations :
    (d.addQuantity x i).reservations = d.reservations ++ [x] := rfl
@[simp] theorem addQuantity_reservationItems :
    (d.addQuantity x i).reservationItems = d.reservationItems ++ [i] := rfl
@[simp] theorem addQuantity_reservationSeats :
    (d.addQuantity x i).reservationSeats = d.reservationSeats := rfl

theorem mem_addQuantity_ticketTypes {t : TicketType} : t ∈ (d.addQuantity x i).ticketTypes ↔
    ∃ t' ∈ d.ticketTypes, (if t'.id = i.ticketTypeId then t'.add i.quantity 0 else t') = t :=
  List.mem_map

@[simp] theorem itemsOf_addQuantity (y : UUID) :
    (d.addQuantity x i).itemsOf y = d.itemsOf y ++ if i.reservationId = y then [i] else [] := by
  simp only [itemsOf, addQuantity, List.filter_append, List.filter_singleton]
  simp

@[simp] theorem seatsOf_addQuantity (y : UUID) : (d.addQuantity x i).seatsOf y = d.seatsOf y := rfl

theorem units_addQuantity (t : UUID) (u : ReservationStatus) :
    (d.addQuantity x i).units t u =
      d.units t u + if i.ticketTypeId = t ∧ i.status = u then i.quantity else 0 := by
  simp only [units, addQuantity, List.filter_append, List.map_append, List.sum_append]
  by_cases h : i.ticketTypeId = t ∧ i.status = u <;> simp [h]

@[simp] theorem addSeats_users : (d.addSeats x rows).users = d.users := rfl
@[simp] theorem addSeats_visitorSessions :
    (d.addSeats x rows).visitorSessions = d.visitorSessions := rfl
@[simp] theorem addSeats_events : (d.addSeats x rows).events = d.events := rfl
@[simp] theorem addSeats_ticketTypes : (d.addSeats x rows).ticketTypes = d.ticketTypes := rfl
@[simp] theorem addSeats_seats : (d.addSeats x rows).seats = d.seats := rfl
@[simp] theorem addSeats_reservations :
    (d.addSeats x rows).reservations = d.reservations ++ [x] := rfl
@[simp] theorem addSeats_reservationItems :
    (d.addSeats x rows).reservationItems = d.reservationItems := rfl
@[simp] theorem addSeats_reservationSeats :
    (d.addSeats x rows).reservationSeats = d.reservationSeats ++ rows := rfl

@[simp] theorem itemsOf_addSeats (y : UUID) : (d.addSeats x rows).itemsOf y = d.itemsOf y := rfl

@[simp] theorem seatsOf_addSeats (y : UUID) : (d.addSeats x rows).seatsOf y =
    d.seatsOf y ++ rows.filter fun r => r.reservationId = y :=
  List.filter_append _ _

end Database

namespace Inv
variable {d : Database} {x : Reservation}

theorem ledger_addQuantity {i : ReservationItem} (h : Inv d) (hn : NewQuantity d x i) :
    Ledger (d.addQuantity x i) := by
  intro t ht
  obtain ⟨t', ht', rfl⟩ := (d.mem_addQuantity_ticketTypes x i).1 ht
  obtain ⟨h1, h2⟩ := h.ledger t' ht'
  simp only [d.units_addQuantity, hn.itemReserved]
  by_cases hti : t'.id = i.ticketTypeId
  · simp [hti ▸ h1, hti ▸ h2, hti]
  · simp [hti, Ne.symm hti, h1, h2]

theorem checks_addQuantity {i : ReservationItem} (h : Inv d) (hn : NewQuantity d x i) :
    ∀ t ∈ (d.addQuantity x i).ticketTypes, t.Checks := by
  intro t ht
  obtain ⟨t', ht', rfl⟩ := (d.mem_addQuantity_ticketTypes x i).1 ht
  have hc := h.ticketTypeChecks t' ht'
  split_ifs with hti
  · obtain ⟨u, hu, h1, -, h2⟩ := hn.stock
    obtain rfl := Table.eq_of_key h.ticketTypeIds ht' hu (hti.trans h1.symm)
    have := hn.quantity
    have := hc.reserved
    refine ⟨hc.total, by simpa using hc.sold, ?_, ?_⟩ <;>
      simp only [TicketType.add_reservedQuantity, TicketType.add_soldQuantity,
        TicketType.add_totalQuantity] <;> omega
  · exact hc

/-- Ticket types keep their event. -/
theorem exists_ticketType_addQuantity (d : Database) (x : Reservation) (i : ReservationItem) :
    ∀ t ∈ d.ticketTypes, ∃ t' ∈ (d.addQuantity x i).ticketTypes,
      t'.id = t.id ∧ t'.eventId = t.eventId :=
  fun t ht => ⟨_, List.mem_map_of_mem ht, by split_ifs <;> exact ⟨rfl, rfl⟩⟩

/-- **`addQuantity` keeps the invariant.** -/
theorem addQuantity {i : ReservationItem} (h : Inv d) (hn : NewQuantity d x i) :
    Inv (d.addQuantity x i) where
  toCatalogue := { h.toCatalogue with }
  ticketTypeIds := Table.nodup_map_key (fun t => by split_ifs <;> rfl) h.ticketTypeIds
  ticketTypeEvents := by
    refine List.forall_mem_map.2 fun t ht => ?_
    split_ifs <;> exact h.ticketTypeEvents t ht
  ticketTypeChecks := h.checks_addQuantity hn
  ticketTypeInts := by
    refine List.forall_mem_map.2 fun t ht => ?_
    split_ifs <;> exact h.ticketTypeInts t ht
  reservationIds := Table.nodup_append_key h.reservationIds (by simp) (by simpa using hn.fits.id)
  visitorKeys := Table.nodup_append_key h.visitorKeys (by simp) (by simpa using hn.fits.visitorKey)
  reservationKeys := List.forall_mem_append.2 ⟨h.reservationKeys, by simpa using hn.key⟩
  reservationEvents := by
    simpa [or_imp, forall_and] using ⟨h.reservationEvents, hn.fits.event⟩
  reservationSessions := by
    simpa [or_imp, forall_and] using ⟨h.reservationSessions, hn.fits.visitorSession⟩
  reservationUsers := by
    intro r hr
    rcases List.mem_append.1 hr with hr | hr
    · exact h.reservationUsers r hr
    · rw [List.mem_singleton.1 hr]; exact hn.fits.user
  itemIds := Table.nodup_append_key h.itemIds (by simp) (by simpa using hn.itemId)
  itemReservations := by
    intro j hj
    rcases List.mem_append.1 hj with hj | hj
    · obtain ⟨r, hr, hrj⟩ := h.itemReservations j hj
      exact ⟨r, List.mem_append_left _ hr, hrj⟩
    · exact ⟨x, by simp, by rw [List.mem_singleton.1 hj, hn.parent]⟩
  itemTicketTypes := by
    intro j hj
    rcases List.mem_append.1 hj with hj | hj
    · obtain ⟨t, ht, htj⟩ := h.itemTicketTypes j hj
      obtain ⟨t', ht', hid, -⟩ := exists_ticketType_addQuantity d x i t ht
      exact ⟨t', ht', hid.trans htj⟩
    · obtain ⟨t, ht, htj, -⟩ := hn.stock
      obtain ⟨t', ht', hid, -⟩ := exists_ticketType_addQuantity d x i t ht
      exact ⟨t', ht', by rw [List.mem_singleton.1 hj, hid, htj]⟩
  itemQuantities := by
    intro j hj
    rcases List.mem_append.1 hj with hj | hj
    · exact h.itemQuantities j hj
    · rw [List.mem_singleton.1 hj]; exact hn.quantity
  seatRowIds := h.seatRowIds
  seatRowReservations := by
    intro r hr
    obtain ⟨y, hy, hyr⟩ := h.seatRowReservations r hr
    exact ⟨y, List.mem_append_left _ hy, hyr⟩
  seatRowSeats := h.seatRowSeats
  activeSeats := h.activeSeats
  item := by
    intro j hj
    rcases List.mem_append.1 hj with hj | hj
    · obtain ⟨r, hr, h1, h2, h3, t, ht, h4, h5⟩ := h.item j hj
      obtain ⟨t', ht', h6, h7⟩ := exists_ticketType_addQuantity d x i t ht
      exact ⟨r, List.mem_append_left _ hr, h1, h2, h3, t', ht', h6.trans h4, h7.trans h5⟩
    · obtain ⟨t, ht, h4, h5, -⟩ := hn.stock
      obtain ⟨t', ht', h6, h7⟩ := exists_ticketType_addQuantity d x i t ht
      rw [List.mem_singleton.1 hj]
      exact ⟨x, by simp, hn.parent.symm, hn.kind, hn.itemReserved.trans hn.reserved.symm,
        t', ht', h6.trans h4, h7.trans h5⟩
  seat := by
    intro r hr
    obtain ⟨y, hy, h1⟩ := h.seat r hr
    exact ⟨y, List.mem_append_left _ hy, h1⟩
  oneItem := by
    intro r hr hty
    rcases List.mem_append.1 hr with hr | hr
    · obtain ⟨j, hj⟩ := h.oneItem r hr hty
      have : i.reservationId ≠ r.id := fun hi => hn.fits.id r hr (hi.symm.trans hn.parent)
      exact ⟨j, by simp [hj, this]⟩
    · rw [List.mem_singleton.1 hr]
      exact ⟨i, by simp [h.no_items hn.fits, hn.parent]⟩
  someSeats := by
    intro r hr hty
    rcases List.mem_append.1 hr with hr | hr
    · exact h.someSeats r hr hty
    · rw [List.mem_singleton.1 hr, hn.kind] at hty; cases hty
  distinctSeats := by
    intro r hr
    rcases List.mem_append.1 hr with hr | hr
    · exact h.distinctSeats r hr
    · rw [List.mem_singleton.1 hr, Database.seatsOf_addQuantity, h.no_seats hn.fits]
      exact List.nodup_nil
  ledger := h.ledger_addQuantity hn

/-- **`addSeats` keeps the invariant.** -/
theorem addSeats {rows : List ReservationSeat} (h : Inv d) (hn : NewSeats d x rows) :
    Inv (d.addSeats x rows) where
  toCatalogue := { h.toCatalogue with }
  ticketTypeIds := h.ticketTypeIds
  ticketTypeEvents := h.ticketTypeEvents
  ticketTypeChecks := h.ticketTypeChecks
  ticketTypeInts := h.ticketTypeInts
  reservationIds := Table.nodup_append_key h.reservationIds (by simp) (by simpa using hn.fits.id)
  visitorKeys := Table.nodup_append_key h.visitorKeys (by simp) (by simpa using hn.fits.visitorKey)
  reservationKeys := List.forall_mem_append.2 ⟨h.reservationKeys, by simpa using hn.key⟩
  reservationEvents := by
    simpa [or_imp, forall_and] using ⟨h.reservationEvents, hn.fits.event⟩
  reservationSessions := by
    simpa [or_imp, forall_and] using ⟨h.reservationSessions, hn.fits.visitorSession⟩
  reservationUsers := by
    intro r hr
    rcases List.mem_append.1 hr with hr | hr
    · exact h.reservationUsers r hr
    · rw [List.mem_singleton.1 hr]; exact hn.fits.user
  itemIds := h.itemIds
  itemReservations := by
    intro j hj
    obtain ⟨r, hr, hrj⟩ := h.itemReservations j hj
    exact ⟨r, List.mem_append_left _ hr, hrj⟩
  itemTicketTypes := h.itemTicketTypes
  itemQuantities := h.itemQuantities
  seatRowIds := Table.nodup_append_key h.seatRowIds hn.ids hn.freshIds
  seatRowReservations := by
    intro r hr
    rcases List.mem_append.1 hr with hr | hr
    · obtain ⟨y, hy, hyr⟩ := h.seatRowReservations r hr
      exact ⟨y, List.mem_append_left _ hy, hyr⟩
    · exact ⟨x, by simp, (hn.parent r hr).symm⟩
  seatRowSeats := by
    intro r hr
    rcases List.mem_append.1 hr with hr | hr
    · exact h.seatRowSeats r hr
    · obtain ⟨c, hc, hcr, -⟩ := hn.seats r hr
      exact ⟨c, hc, hcr⟩
  activeSeats := by
    have hrows : rows.filter (fun r => r.status.active) = rows :=
      List.filter_eq_self.2 fun r hr => by simp [hn.rowReserved r hr]
    rw [Database.addSeats_reservationSeats, List.filter_append, hrows]
    refine Table.nodup_append_key h.activeSeats hn.seatIds fun q hq r hr => ?_
    rw [List.mem_filter] at hq
    exact hn.free q hq.1 hq.2 r hr
  item := by
    intro j hj
    obtain ⟨r, hr, h1⟩ := h.item j hj
    exact ⟨r, List.mem_append_left _ hr, h1⟩
  seat := by
    intro r hr
    rcases List.mem_append.1 hr with hr | hr
    · obtain ⟨y, hy, h1⟩ := h.seat r hr
      exact ⟨y, List.mem_append_left _ hy, h1⟩
    · exact ⟨x, by simp, (hn.parent r hr).symm, hn.kind, (hn.rowReserved r hr).trans hn.reserved.symm,
        hn.expiresAt r hr, hn.seats r hr⟩
  oneItem := by
    intro r hr hty
    rcases List.mem_append.1 hr with hr | hr
    · exact h.oneItem r hr hty
    · rw [List.mem_singleton.1 hr, hn.kind] at hty; cases hty
  someSeats := by
    intro r hr hty
    rw [Database.seatsOf_addSeats]
    rcases List.mem_append.1 hr with hr | hr
    · simp [h.someSeats r hr hty]
    · rw [List.mem_singleton.1 hr, List.filter_eq_self.2 fun r hr => by simp [hn.parent r hr]]
      simp [hn.nonempty]
  distinctSeats := by
    intro r hr
    rw [Database.seatsOf_addSeats]
    rcases List.mem_append.1 hr with hr | hr
    · rw [List.filter_eq_nil_iff.2 fun q hq hqr => hn.fits.id r hr
        ((by simpa using hqr : q.reservationId = r.id).symm.trans (hn.parent q hq)), List.append_nil]
      exact h.distinctSeats r hr
    · rw [List.mem_singleton.1 hr, h.no_seats hn.fits,
        List.filter_eq_self.2 fun r hr => by simp [hn.parent r hr]]
      exact hn.seatIds
  ledger := h.ledger

end Inv

end TicketReservation
