/-
  What holds of the committed database in every run, and what a run amounts to.

  * `stock_ledger`: the counters of a ticket type are the sums over its items,
    and the stock is never exceeded;
  * `seat_exclusivity`: no seat has two active reservations, and the children
    of a reservation agree with it;
  * `serial_refinement`: a run in which all calls finish has a serial order of
    the same calls with the same answers and the same tables.
-/
import TicketReservation.Runs

namespace TicketReservation

open Txn

variable {settings : Settings} {d₀ d : Database} {cfg : ServiceConfig}

/-! ## Stock -/

/-- **Stock ledger.** -/
theorem stock_ledger (h : Inventory d₀) (r : ServiceRun settings (start d₀) cfg) :
    ∀ t ∈ cfg.db.ticketTypes,
      t.reservedQuantity = cfg.db.units t.id .reserved ∧
      t.soldQuantity = cfg.db.units t.id .confirmed ∧
      t.soldQuantity + t.reservedQuantity ≤ t.totalQuantity := by
  have hi := ServiceRun.inv h.inv r
  intro t ht
  obtain ⟨h1, h2⟩ := hi.ledger t ht
  exact ⟨h1, h2, (hi.ticketTypeChecks t ht).allocated⟩

/-- Alice reserves two tickets and confirms them; Bob, who does not own them, cannot cancel them. -/
def Sample.buys : List (Action Call) :=
  Sample.alone 0 6 (.reserveQuantity alice twoTickets (uuid4 100) 5) ++
    Sample.alone 1 9 (.confirm 100 alice 6) ++ Sample.alone 2 3 (.cancel 100 bob 7)

/-- The ticket type afterwards: two of the five tickets are sold. -/
def Sample.sold : TicketType := ⟨20, 10, "General", 5, 2, 0⟩

theorem stock_ledger_buys :
    Sample.sold.reservedQuantity = ((start Sample.inventory).after (Call.prog Sample.settings)
      Sample.buys).db.units 20 .reserved ∧
    Sample.sold.soldQuantity = ((start Sample.inventory).after (Call.prog Sample.settings)
      Sample.buys).db.units 20 .confirmed ∧
    Sample.sold.soldQuantity + Sample.sold.reservedQuantity ≤ Sample.sold.totalQuantity :=
  stock_ledger Sample.inventory_inventory (run_after (by decide)) Sample.sold (by decide)

/-! ## Seats -/

/-- Does the reservation contain the seat? -/
def Database.Contains (d : Database) (r : Reservation) (seatId : UUID) : Prop :=
  ∃ q ∈ d.seatsOf r.id, q.seatId = seatId

/-- The reservations and their children agree, and no seat is taken twice. -/
structure Agreement (d : Database) : Prop where
  /-- at most one active reservation contains a seat -/
  exclusive : ∀ (seatId : UUID), ∀ r ∈ d.reservations, ∀ r' ∈ d.reservations,
    r.status.active → r'.status.active → d.Contains r seatId → d.Contains r' seatId → r = r'
  /-- every child has a parent -/
  itemParent : ∀ i ∈ d.reservationItems, ∃ r ∈ d.reservations, r.id = i.reservationId
  seatParent : ∀ q ∈ d.reservationSeats, ∃ r ∈ d.reservations, r.id = q.reservationId
  /-- and its status and expiry -/
  itemStatus : ∀ r ∈ d.reservations, ∀ i ∈ d.itemsOf r.id, i.status = r.status
  seatStatus : ∀ r ∈ d.reservations, ∀ q ∈ d.seatsOf r.id,
    q.status = r.status ∧ q.expiresAt = r.expiresAt
  /-- the children are those of the kind -/
  quantity : ∀ r ∈ d.reservations, r.reservationType = .quantity →
    (∃ i, d.itemsOf r.id = [i]) ∧ d.seatsOf r.id = []
  seats : ∀ r ∈ d.reservations, r.reservationType = .seats →
    d.seatsOf r.id ≠ [] ∧ ((d.seatsOf r.id).map ReservationSeat.seatId).Nodup ∧ d.itemsOf r.id = []
  /-- and belong to the event -/
  itemEvent : ∀ r ∈ d.reservations, ∀ i ∈ d.itemsOf r.id,
    ∃ t ∈ d.ticketTypes, t.id = i.ticketTypeId ∧ t.eventId = r.eventId
  seatEvent : ∀ r ∈ d.reservations, ∀ q ∈ d.seatsOf r.id,
    ∃ c ∈ d.seats, c.id = q.seatId ∧ c.eventId = r.eventId

namespace Inv
variable (h : Inv d)
include h

/-- A child of `r` has `r` as its parent. -/
theorem itemsOf_parent {r : Reservation} (hr : r ∈ d.reservations) {i : ReservationItem}
    (hi : i ∈ d.itemsOf r.id) : i.status = r.status ∧
      ∃ t ∈ d.ticketTypes, t.id = i.ticketTypeId ∧ t.eventId = r.eventId := by
  obtain ⟨hid, hir⟩ := List.mem_filter.1 hi
  obtain ⟨x, hx, hxi, -, hst, ht⟩ := h.item i hid
  obtain rfl := h.eq_of_id hx hr (hxi.trans (by simpa using hir))
  exact ⟨hst, ht⟩

theorem seatsOf_parent {r : Reservation} (hr : r ∈ d.reservations) {q : ReservationSeat}
    (hq : q ∈ d.seatsOf r.id) : q ∈ d.reservationSeats ∧ q.reservationId = r.id ∧
      q.status = r.status ∧ q.expiresAt = r.expiresAt ∧
      ∃ c ∈ d.seats, c.id = q.seatId ∧ c.eventId = r.eventId := by
  obtain ⟨hqd, hqr⟩ := List.mem_filter.1 hq
  obtain ⟨x, hx, hxq, -, hst, hex, hc⟩ := h.seat q hqd
  obtain rfl := h.eq_of_id hx hr (hxq.trans (by simpa using hqr))
  exact ⟨hqd, hxq.symm, hst, hex, hc⟩

theorem exclusive {seatId : UUID} {r r' : Reservation} (hr : r ∈ d.reservations)
    (hr' : r' ∈ d.reservations) (ha : r.status.active) (ha' : r'.status.active)
    (hc : d.Contains r seatId) (hc' : d.Contains r' seatId) : r = r' := by
  obtain ⟨q, hq, rfl⟩ := hc
  obtain ⟨q', hq', hs⟩ := hc'
  obtain ⟨hqd, hqr, hst, -⟩ := h.seatsOf_parent hr hq
  obtain ⟨hqd', hqr', hst', -⟩ := h.seatsOf_parent hr' hq'
  -- the two rows are active rows of one seat
  have hrow : q = q' := Table.eq_of_key h.activeSeats
    (List.mem_filter.2 ⟨hqd, by rwa [hst]⟩) (List.mem_filter.2 ⟨hqd', by rwa [hst']⟩) hs.symm
  exact h.eq_of_id hr hr' (by rw [← hqr, ← hqr', hrow])

theorem agreement : Agreement d where
  exclusive _ _ hr _ hr' ha ha' hc hc' := h.exclusive hr hr' ha ha' hc hc'
  itemParent := h.itemReservations
  seatParent := h.seatRowReservations
  itemStatus _ hr _ hi := (h.itemsOf_parent hr hi).1
  seatStatus _ hr _ hq := ⟨(h.seatsOf_parent hr hq).2.2.1, (h.seatsOf_parent hr hq).2.2.2.1⟩
  quantity r hr hty := ⟨h.oneItem r hr hty, Whole.no_seats h (Whole.of_in h hr) hty⟩
  seats r hr hty := ⟨h.someSeats r hr hty, h.distinctSeats r hr, Whole.no_items h (Whole.of_in h hr) hty⟩
  itemEvent _ hr _ hi := (h.itemsOf_parent hr hi).2
  seatEvent _ hr _ hq := (h.seatsOf_parent hr hq).2.2.2.2

end Inv

/-- **Seat exclusivity and agreement of parents and children.** -/
theorem seat_exclusivity (h : Inventory d₀) (r : ServiceRun settings (start d₀) cfg) :
    Agreement cfg.db :=
  (ServiceRun.inv h.inv r).agreement

/-- Bob takes the seat when Alice's hold has lapsed. -/
def Sample.lapses : List (Action Call) :=
  Sample.alone 0 8 (.reserveSeats alice oneSeat (uuid4 100) 5) ++
    Sample.alone 1 11 (.reserveSeats bob oneSeat (uuid4 200) 1000000000)

theorem seat_exclusivity_lapses : Agreement
    ((start Sample.inventory).after (Call.prog Sample.settings) Sample.lapses).db :=
  seat_exclusivity Sample.inventory_inventory (run_after (by decide))

/-! ## Serial order -/

/-- **Serial refinement.** -/
theorem serial_refinement (h : Reachable settings d) (r : ServiceRun settings (start d) cfg)
    (hf : cfg.Finished) :
    ∃ order : List (Call × Except Error Response), order.Perm cfg.answers ∧
      Serial (Call.spec settings) d order cfg.db := by
  obtain ⟨l, hl⟩ := System.tracks_run (S := system settings) h.inv r
  exact hl.serializable hf

/-- Two requests for more tickets than there are, statement by statement in turn. -/
def Sample.races : List (Action Call) :=
  [.arrive (.reserveQuantity alice fourTickets (uuid4 100) 5),
    .arrive (.reserveQuantity bob fourTickets (uuid4 200) 6)] ++
  [0, 1, 0, 0, 0, 0, 1, 0, 1, 1, 1, 1].map .step

theorem serial_refinement_races :
    ∃ order : List (Call × Except Error Response), order.Perm ((start Sample.inventory).after
      (Call.prog Sample.settings) Sample.races).answers ∧
      Serial (Call.spec Sample.settings) Sample.inventory order
        ((start Sample.inventory).after (Call.prog Sample.settings) Sample.races).db :=
  serial_refinement Sample.inventory_inventory.reachable (run_after (by decide)) (by decide)

end TicketReservation
