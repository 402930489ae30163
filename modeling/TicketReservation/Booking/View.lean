/-
  The database as a booking machine.

  The resources are the ticket types, with as many units as they have tickets,
  and the seats, with one unit each.  Every reservation is a hold: its amount
  are the units of its items and its seats, its phase follows from its status
  (`Database.booking`).

  * `amount_held`, `amount_sold`: the counters of a ticket type are the amounts
    of the machine;
  * `Inv.legal`: a database that satisfies the invariant is a legal state;
  * `Effect.booking`: what a transaction commits is one step of the machine.
-/
import Mathlib
import TicketReservation.Booking.Machine
import TicketReservation.Lifecycle

namespace Table

variable {α β κ : Type} [DecidableEq κ]

/-- A sum over the children of some rows is the sum over the children that have such a parent. -/
theorem sum_children {key : α → κ} {rows : List α} (hn : (rows.map key).Nodup) (parent : β → κ)
    (children : List β) {p : α → Bool} {q : β → Bool}
    (h : ∀ b ∈ children, ∃ a ∈ rows, key a = parent b ∧ p a = q b) (f : β → ℤ) :
    ((rows.filter p).map fun a => ((children.filter fun b => parent b = key a).map f).sum).sum =
      ((children.filter q).map f).sum := by
  induction children with
  | nil => simp
  | cons b children ih =>
    obtain ⟨a, ha, hab, hpq⟩ := h b List.mem_cons_self
    have ih := ih fun c hc => h c (List.mem_cons_of_mem _ hc)
    have hadd : ∀ a ∈ rows.filter p,
        (((b :: children).filter fun c => parent c = key a).map f).sum =
          ((children.filter fun c => parent c = key a).map f).sum +
            if parent b = key a then f b else 0 := fun a _ => by
      by_cases hb : parent b = key a
      · rw [List.filter_cons_of_pos (by simpa using hb), if_pos hb, List.map_cons, List.sum_cons,
          add_comm]
      · rw [List.filter_cons_of_neg (by simpa using hb), if_neg hb, add_zero]
    rw [sum_map_add hadd, ih, List.filter_cons]
    have hone : (rows.filter p).filter (fun a => parent b = key a) =
        if q b then [a] else [] := by
      rw [List.filter_filter]
      split_ifs with hq
      · exact filter_unique hn (k := parent b) (fun c hc => by simp_all) ha (by simp [hab, hpq, hq])
      · refine List.filter_eq_nil_iff.2 fun c hc hcp => hq ?_
        simp only [Bool.and_eq_true, decide_eq_true_eq] at hcp
        rw [← hpq, eq_of_key hn ha hc (hab.trans hcp.1)]
        exact hcp.2
    have := sum_filter (fun _ => f b) (fun a => parent b = key a) (rows.filter p)
    simp only [decide_eq_true_eq] at this
    rw [← this, hone]
    split_ifs <;> simp [add_comm]

end Table

namespace TicketReservation

open Booking

/-- What is booked. -/
inductive Resource where
  | ticketType (id : UUID)
  | seat (id : UUID)
  deriving DecidableEq

def ReservationStatus.phase : ReservationStatus → Phase
  | .reserved => .held
  | .confirmed => .sold
  | .cancelled | .expired => .released

namespace Database
variable (d : Database)

/-- The units that the reservation `x` takes of a resource. -/
def resourcesOf (x : UUID) : Resource → ℤ
  | .ticketType t => d.held x t
  | .seat s => ((d.reservationSeats.filter fun r => r.reservationId = x && r.seatId = s).map
      fun _ => 1).sum

/-- The units that there are of a resource. -/
def capacity : Resource → ℤ
  | .ticketType t => ((d.ticketTypes.filter fun r => r.id = t).map TicketType.totalQuantity).sum
  | .seat s => ((d.seats.filter fun c => c.id = s).map fun _ => 1).sum

/-- The reservation `x` as a hold. -/
def entry (x : Reservation) : Entry UUID (Resource → ℤ) := ⟨x.id, d.resourcesOf x.id, x.status.phase⟩

variable {d} in
theorem resourcesOf_ticketType (x t : UUID) : d.resourcesOf x (.ticketType t) =
    (((d.itemsOf x).filter fun i => i.ticketTypeId = t).map ReservationItem.quantity).sum :=
  Whole.held_eq d x t

variable {d} in
theorem resourcesOf_seat (x s : UUID) : d.resourcesOf x (.seat s) =
    (((d.seatsOf x).filter fun r => r.seatId = s).map fun _ => 1).sum := by
  rw [resourcesOf, seatsOf, List.filter_filter]
  congr 2
  exact List.filter_congr fun r _ => Bool.and_comm _ _

/-- **The reservations as a state of the booking machine.** -/
def booking : Booking.State UUID (Resource → ℤ) := ((d.reservations.map d.entry : List _) : Multiset _)

theorem booking_amount (p : Phase) (o : Resource) : d.booking.amount p o =
    ((d.reservations.filter fun x => x.status.phase = p).map fun x => d.resourcesOf x.id o).sum := by
  rw [booking, State.amount, Multiset.filter_coe, Multiset.map_coe, Multiset.sum_coe,
    Pi.list_sum_apply, List.filter_map, List.map_map, List.map_map]
  rfl

end Database

namespace Inv
variable {d : Database} (h : Inv d)
include h

theorem amount_ticketType (p : Phase) (t : UUID) : d.booking.amount p (.ticketType t) =
    ((d.reservationItems.filter fun i => i.ticketTypeId = t && i.status.phase = p).map
      ReservationItem.quantity).sum := by
  rw [d.booking_amount, ← List.filter_filter, List.filter_comm]
  refine Eq.trans ?_ (Table.sum_children h.reservationIds ReservationItem.reservationId
    (d.reservationItems.filter fun i => i.ticketTypeId = t) (p := fun r => r.status.phase = p)
    (q := fun i => i.status.phase = p) ?_ ReservationItem.quantity)
  · simp only [Database.resourcesOf, Database.held, List.filter_filter]
  · intro i hi
    obtain ⟨r, hr, hri, -, hst, -⟩ := h.item i (List.mem_filter.1 hi).1
    exact ⟨r, hr, hri, by rw [hst]⟩

theorem amount_seat (p : Phase) (s : UUID) : d.booking.amount p (.seat s) =
    ((d.reservationSeats.filter fun r => r.seatId = s && r.status.phase = p).map fun _ => 1).sum := by
  rw [d.booking_amount, ← List.filter_filter, List.filter_comm]
  refine Eq.trans ?_ (Table.sum_children h.reservationIds ReservationSeat.reservationId
    (d.reservationSeats.filter fun r => r.seatId = s) (p := fun r => r.status.phase = p)
    (q := fun r => r.status.phase = p) ?_ fun _ => 1)
  · simp only [Database.resourcesOf, List.filter_filter]
  · intro r hr
    obtain ⟨x, hx, hxr, -, hst, -⟩ := h.seat r (List.mem_filter.1 hr).1
    exact ⟨x, hx, hxr, by rw [hst]⟩

/-- **The counters of a ticket type are the amounts of the machine.** -/
theorem amount_held {t : TicketType} (ht : t ∈ d.ticketTypes) :
    d.booking.amount .held (.ticketType t.id) = t.reservedQuantity := by
  rw [(h.ledger t ht).1, h.amount_ticketType, Database.units]
  congr 2
  refine List.filter_congr fun i _ => ?_
  cases i.status <;> simp [ReservationStatus.phase]

theorem amount_sold {t : TicketType} (ht : t ∈ d.ticketTypes) :
    d.booking.amount .sold (.ticketType t.id) = t.soldQuantity := by
  rw [(h.ledger t ht).2, h.amount_ticketType, Database.units]
  congr 2
  refine List.filter_congr fun i _ => ?_
  cases i.status <;> simp [ReservationStatus.phase]

theorem capacity_ticketType {t : TicketType} (ht : t ∈ d.ticketTypes) :
    d.capacity (.ticketType t.id) = t.totalQuantity := by
  rw [Database.capacity, Table.filter_key h.ticketTypeIds ht, List.map_singleton, List.sum_singleton]

theorem capacity_seat {c : Seat} (hc : c ∈ d.seats) : d.capacity (.seat c.id) = 1 := by
  rw [Database.capacity, Table.filter_key h.seatIds hc, List.map_singleton, List.sum_singleton]

/-- A ticket type takes no more units than it has, and a unit has its ticket type. -/
theorem fits_ticketType (t : UUID) : d.booking.amount .held (.ticketType t) +
    d.booking.amount .sold (.ticketType t) ≤ d.capacity (.ticketType t) := by
  by_cases ht : ∃ r ∈ d.ticketTypes, r.id = t
  · obtain ⟨r, hr, rfl⟩ := ht
    rw [h.amount_held hr, h.amount_sold hr, h.capacity_ticketType hr, add_comm]
    exact (h.ticketTypeChecks r hr).allocated
  · have hnil : ∀ p, d.booking.amount p (.ticketType t) = 0 := fun p => by
      rw [h.amount_ticketType, List.filter_eq_nil_iff.2]
      · rfl
      · intro i hi hp
        obtain ⟨r, hr, hri⟩ := h.itemTicketTypes i hi
        exact ht ⟨r, hr, hri.trans (by simp_all)⟩
    rw [hnil, hnil, Database.capacity]
    exact Table.sum_nonneg fun r hr =>
      (h.ticketTypeChecks r (List.mem_filter.1 hr).1).total

/-- A seat is taken once, and a taken seat exists. -/
theorem fits_seat (s : UUID) : d.booking.amount .held (.seat s) +
    d.booking.amount .sold (.seat s) ≤ d.capacity (.seat s) := by
  have hsum : d.booking.amount .held (.seat s) + d.booking.amount .sold (.seat s) =
      (((d.reservationSeats.filter fun r => r.status.active).filter fun r => r.seatId = s).map
        fun _ => 1).sum := by
    rw [h.amount_seat, h.amount_seat, Table.sum_filter, Table.sum_filter, List.filter_filter,
      Table.sum_filter]
    refine (Table.sum_map_add fun r _ => ?_).symm
    cases r.status <;> simp [ReservationStatus.phase]
  rw [hsum]
  by_cases hr : ∃ r ∈ d.reservationSeats.filter (fun r => r.status.active), r.seatId = s
  · obtain ⟨r, hr, rfl⟩ := hr
    obtain ⟨c, hc, hcr⟩ := h.seatRowSeats r (List.mem_filter.1 hr).1
    rw [Table.filter_key h.activeSeats hr, ← hcr, h.capacity_seat hc]
    rfl
  · rw [List.filter_eq_nil_iff.2 fun r hrm hrs => hr ⟨r, hrm, by simpa using hrs⟩]
    exact Table.sum_nonneg fun _ _ => zero_le_one

theorem resourcesOf_nonneg (x : UUID) : 0 ≤ d.resourcesOf x := by
  intro o
  cases o with
  | ticketType t => exact h.held_nonneg x t
  | seat s => exact Table.sum_nonneg fun _ _ => zero_le_one

/-- **A database that satisfies the invariant is a legal state.** -/
theorem legal : Legal d.capacity d.booking where
  holds := by
    rw [Database.booking, Multiset.map_coe, Multiset.coe_nodup, List.map_map]
    exact h.reservationIds
  nonneg := by
    intro e he
    obtain ⟨x, -, rfl⟩ := List.mem_map.1 (Multiset.mem_coe.1 he)
    exact h.resourcesOf_nonneg x.id
  fits := by
    intro o
    cases o with
    | ticketType t => exact h.fits_ticketType t
    | seat s => exact h.fits_seat s

end Inv

/-! ## What a transaction commits -/

/-- What a reservation does that leaves RESERVED for this status. -/
def ReservationStatus.act : ReservationStatus → Act
  | .confirmed => .sell
  | _ => .release

section
variable {d : Database} {x : Reservation}

@[simp] theorem Database.finish_capacity (d : Database) (x : UUID) (s : ReservationStatus) :
    (d.finish x s).capacity = d.capacity := by
  funext o
  cases o with
  | seat c => rfl
  | ticketType t =>
    rw [Database.capacity, Database.finish, List.filter_map, List.map_map]
    rfl

@[simp] theorem Database.addQuantity_capacity (d : Database) (x : Reservation)
    (i : ReservationItem) : (d.addQuantity x i).capacity = d.capacity := by
  funext o
  cases o with
  | seat c => rfl
  | ticketType t =>
    rw [Database.capacity, Database.addQuantity, Table.filter_map_comm fun _ => by split_ifs <;> rfl,
      Table.map_key fun _ => by split_ifs <;> rfl]
    rfl

@[simp] theorem Database.addSeats_capacity (d : Database) (x : Reservation)
    (rows : List ReservationSeat) : (d.addSeats x rows).capacity = d.capacity := rfl

@[simp] theorem Database.finish_resourcesOf (d : Database) (x : UUID) (s : ReservationStatus) :
    (d.finish x s).resourcesOf = d.resourcesOf := by
  funext y o
  cases o with
  | ticketType t =>
    rw [Database.resourcesOf, Database.held, Database.finish_reservationItems,
      Table.filter_map_comm (by simp), Table.map_key (by simp)]
    rfl
  | seat c =>
    rw [Database.resourcesOf, Database.finish_reservationSeats, Table.filter_map_comm (by simp),
      List.map_map]
    rfl

/-- The units that a quantity reservation takes. -/
def unitsOf (ticketTypeId : UUID) (quantity : ℤ) : Resource → ℤ
  | .ticketType t => if t = ticketTypeId then quantity else 0
  | .seat _ => 0

/-- The seats that a seat reservation takes. -/
def placesOf (seatIds : List UUID) : Resource → ℤ
  | .ticketType _ => 0
  | .seat s => if s ∈ seatIds then 1 else 0

/-- A list of reservations, one of which stands for itself. -/
theorem Database.booking_of_mem (d : Database) (hx : x ∈ d.reservations) :
    d.booking = d.entry x ::ₘ (((d.reservations.erase x).map d.entry : List _) : Multiset _) := by
  rw [Database.booking, Multiset.cons_coe, ← List.map_cons]
  exact Multiset.coe_eq_coe.2 ((List.perm_cons_erase hx).map _)

/-- **A reservation that leaves RESERVED is sold or released.** -/
theorem Inv.booking_finish (h : Inv d) (hx : x ∈ d.reservations) (hr : x.status = .reserved)
    {s : ReservationStatus} (hs : s ≠ .reserved) :
    Step d.capacity d.booking ⟨s.act, x.id, d.resourcesOf x.id⟩ (d.finish x.id s).booking := by
  have hrest : (d.reservations.erase x).map (fun r => (d.finish x.id s).entry (r.finish x.id s)) =
      (d.reservations.erase x).map d.entry := by
    refine List.map_congr_left fun r hrm => ?_
    have hn : d.reservations.Nodup := .of_map _ h.reservationIds
    obtain ⟨hne, hrm⟩ := (hn.mem_erase_iff).1 hrm
    have hid : r.id ≠ x.id := fun hid => hne (h.eq_of_id hrm hx hid)
    rw [Reservation.finish, if_neg hid, Database.entry, Database.finish_resourcesOf]
    rfl
  have hafter : (d.finish x.id s).booking = ⟨x.id, d.resourcesOf x.id, s.phase⟩ ::ₘ
      (((d.reservations.erase x).map d.entry : List _) : Multiset _) := by
    rw [← hrest, Multiset.cons_coe, Database.booking, Database.finish_reservations, List.map_map]
    refine Multiset.coe_eq_coe.2 (((List.perm_cons_erase hx).map _).trans ?_)
    rw [List.map_cons, Function.comp_apply, Reservation.finish, if_pos rfl, Database.entry,
      Database.finish_resourcesOf]
    rfl
  rw [hafter, d.booking_of_mem hx, Database.entry, hr]
  cases s with
  | reserved => exact absurd rfl hs
  | confirmed => exact .sell
  | cancelled | expired => exact .release

/-- **A new reservation is a hold**, if it takes nothing from the others. -/
theorem Inv.booking_add {d' : Database} (hi : Inv d') (hfits : x.Fits d)
    (hres : d'.reservations = d.reservations ++ [x]) (hx : x.status = .reserved)
    (hcap : d'.capacity = d.capacity)
    (hothers : ∀ r ∈ d.reservations, d'.resourcesOf r.id = d.resourcesOf r.id) :
    Step d.capacity d.booking ⟨.hold, x.id, d'.resourcesOf x.id⟩ d'.booking := by
  have hafter : d'.booking = ⟨x.id, d'.resourcesOf x.id, .held⟩ ::ₘ d.booking := by
    rw [Database.booking, hres, List.map_append, List.map_singleton, Database.booking,
      Multiset.cons_coe, Database.entry, hx]
    refine Multiset.coe_eq_coe.2 ((List.perm_append_singleton _ _).trans (List.Perm.of_eq ?_))
    congr 1
    exact List.map_congr_left fun r hr => by rw [Database.entry, Database.entry, hothers r hr]
  have hlegal := hi.legal.fits
  rw [hafter, State.amount_cons, State.amount_cons, if_pos rfl, if_neg (by simp), zero_add, hcap,
    add_assoc] at hlegal
  rw [hafter]
  refine .hold (fun e he => ?_) (hi.resourcesOf_nonneg x.id) hlegal
  obtain ⟨r, hr, rfl⟩ := List.mem_map.1 (Multiset.mem_coe.1 he)
  exact hfits.id r hr

theorem Inv.booking_addQuantity {i : ReservationItem} (h : Inv d) (hn : NewQuantity d x i) :
    Step d.capacity d.booking ⟨.hold, x.id, unitsOf i.ticketTypeId i.quantity⟩
      (d.addQuantity x i).booking := by
  have hx : (d.addQuantity x i).resourcesOf x.id = unitsOf i.ticketTypeId i.quantity := by
    funext o
    cases o with
    | ticketType t =>
      by_cases ht : t = i.ticketTypeId
      · simp [Database.resourcesOf_ticketType, unitsOf, h.no_items hn.fits, hn.parent, ht]
      · simp [Database.resourcesOf_ticketType, unitsOf, h.no_items hn.fits, hn.parent, ht, Ne.symm ht]
    | seat c => simp [Database.resourcesOf_seat, unitsOf, h.no_seats hn.fits]
  rw [← hx]
  refine (h.addQuantity hn).booking_add hn.fits rfl hn.reserved (by simp) fun r hr => ?_
  have hne : i.reservationId ≠ r.id := fun hir => hn.fits.id r hr (hir.symm.trans hn.parent)
  funext o
  cases o with
  | ticketType t => simp [Database.resourcesOf_ticketType, hne]
  | seat c => simp [Database.resourcesOf_seat]

theorem Inv.booking_addSeats {rows : List ReservationSeat} (h : Inv d) (hn : NewSeats d x rows) :
    Step d.capacity d.booking ⟨.hold, x.id, placesOf (rows.map ReservationSeat.seatId)⟩
      (d.addSeats x rows).booking := by
  have hmine : rows.filter (fun r => r.reservationId = x.id) = rows :=
    List.filter_eq_self.2 fun r hr => by simp [hn.parent r hr]
  have hx : (d.addSeats x rows).resourcesOf x.id = placesOf (rows.map ReservationSeat.seatId) := by
    funext o
    cases o with
    | ticketType t => simp [Database.resourcesOf_ticketType, placesOf, h.no_items hn.fits]
    | seat c =>
      rw [Database.resourcesOf_seat, Database.seatsOf_addSeats, h.no_seats hn.fits, hmine,
        List.nil_append, placesOf]
      split_ifs with hc
      · obtain ⟨r, hr, rfl⟩ := List.mem_map.1 hc
        rw [Table.filter_key hn.seatIds hr, List.map_singleton, List.sum_singleton]
      · rw [List.filter_eq_nil_iff.2 fun r hr hrc => hc (List.mem_map.2 ⟨r, hr, by simpa using hrc⟩)]
        rfl
  rw [← hx]
  refine (h.addSeats hn).booking_add hn.fits rfl hn.reserved (by simp) fun r hr => ?_
  have hother : rows.filter (fun q => q.reservationId = r.id) = [] :=
    List.filter_eq_nil_iff.2 fun q hq hqr => hn.fits.id r hr
      ((by simpa using hqr : q.reservationId = r.id).symm.trans (hn.parent q hq))
  funext o
  cases o with
  | ticketType t => simp [Database.resourcesOf_ticketType]
  | seat c =>
    rw [Database.resourcesOf_seat, Database.resourcesOf_seat, Database.seatsOf_addSeats, hother,
      List.append_nil]

end

end TicketReservation
