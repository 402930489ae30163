/-
  What a committing transaction may do, and what it leaves alone.

  `Effect Λ d d'`: a transaction that holds the locks `Λ` may change the
  committed database from `d` to `d'` in one of three ways.  `protocol` is the
  rely-guarantee protocol that follows: every commit of the services is a chain
  of effects, and every effect keeps `Inv`.

  `Effect.reservations` and `Effect.reservationSeats` say once what an effect
  does to the rows.  The theorems `keeps_*` say what stays true while a lock is
  held: the reservation with its children, the row of a ticket type, a free
  (visitor, key) pair or id, the absence of new holds on a seat.
-/
import TicketReservation.Invariant
import TicketReservation.Txn.Rely

namespace TicketReservation

open Txn

/-- One change of the committed database under the locks `Λ`. -/
inductive Effect (Λ : List Lock) (d : Database) : Database → Prop
  | finish (x : Reservation) (s : ReservationStatus) :
      x ∈ d.reservations → x.status = .reserved → s ≠ .reserved → .reservation x.id ∈ Λ →
      (∀ i ∈ d.itemsOf x.id, .ticketType i.ticketTypeId ∈ Λ) → Effect Λ d (d.finish x.id s)
  | addQuantity (x : Reservation) (i : ReservationItem) :
      NewQuantity d x i → .reservation x.id ∈ Λ →
      .visitorKey x.visitorSessionId x.idempotencyKey ∈ Λ → .ticketType i.ticketTypeId ∈ Λ →
      .reservationItem i.id ∈ Λ → Effect Λ d (d.addQuantity x i)
  | addSeats (x : Reservation) (rows : List ReservationSeat) :
      NewSeats d x rows → .reservation x.id ∈ Λ →
      .visitorKey x.visitorSessionId x.idempotencyKey ∈ Λ → (∀ r ∈ rows, .seat r.seatId ∈ Λ) →
      (∀ r ∈ rows, .reservationSeat r.id ∈ Λ) → Effect Λ d (d.addSeats x rows)

theorem Effect.inv {Λ : List Lock} {d d' : Database} (h : Effect Λ d d') (hi : Inv d) : Inv d' := by
  cases h with
  | finish x s hx hr hs => exact hi.finish hx hr hs
  | addQuantity x i hn => exact hi.addQuantity hn
  | addSeats x rows hn => exact hi.addSeats hn

/-- **The protocol of the reservation services.** -/
def protocol : Protocol Database Lock where
  inv := Inv
  step := Effect
  inv_step hi h := h.inv hi

namespace Effect
variable {Λ : List Lock} {d d' : Database}

/-! ## What an effect does to the rows -/

theorem users (h : Effect Λ d d') : d'.users = d.users := by cases h <;> rfl
theorem visitorSessions (h : Effect Λ d d') : d'.visitorSessions = d.visitorSessions := by
  cases h <;> rfl
theorem events (h : Effect Λ d d') : d'.events = d.events := by cases h <;> rfl
theorem seats (h : Effect Λ d d') : d'.seats = d.seats := by cases h <;> rfl

end Effect

/-- The same reservation, possibly moved out of RESERVED. -/
structure Reservation.Moved (r r' : Reservation) : Prop where
  same : r' = { r with status := r'.status }
  status : r.status = .reserved ∨ r'.status = r.status

/-- The same hold, possibly moved out of RESERVED. -/
structure ReservationSeat.Moved (r r' : ReservationSeat) : Prop where
  same : r' = { r with status := r'.status }
  status : r.status = .reserved ∨ r'.status = r.status

/-- The same item, possibly moved out of RESERVED. -/
structure ReservationItem.Moved (i i' : ReservationItem) : Prop where
  same : i' = { i with status := i'.status }
  status : i.status = .reserved ∨ i'.status = i.status

theorem ReservationStatus.moved_trans {s s' s'' : ReservationStatus}
    (h : s = .reserved ∨ s' = s) (h' : s' = .reserved ∨ s'' = s') : s = .reserved ∨ s'' = s := by
  rcases h with h | rfl
  · exact .inl h
  · exact h'

theorem Reservation.Moved.refl (r : Reservation) : r.Moved r := ⟨rfl, Or.inr rfl⟩

theorem Reservation.Moved.trans {r r' r'' : Reservation} (h : r.Moved r') (h' : r'.Moved r'') :
    r.Moved r'' :=
  ⟨by rw [h'.same, h.same], ReservationStatus.moved_trans h.status h'.status⟩

theorem ReservationSeat.Moved.trans {r r' r'' : ReservationSeat} (h : r.Moved r')
    (h' : r'.Moved r'') : r.Moved r'' :=
  ⟨by rw [h'.same, h.same], ReservationStatus.moved_trans h.status h'.status⟩

theorem ReservationItem.Moved.trans {i i' i'' : ReservationItem} (h : i.Moved i')
    (h' : i'.Moved i'') : i.Moved i'' :=
  ⟨by rw [h'.same, h.same], ReservationStatus.moved_trans h.status h'.status⟩

theorem Reservation.Moved.id {r r' : Reservation} (h : r.Moved r') : r'.id = r.id := by rw [h.same]

theorem Reservation.Moved.key {r r' : Reservation} (h : r.Moved r') :
    r'.visitorSessionId = r.visitorSessionId ∧ r'.idempotencyKey = r.idempotencyKey := by
  rw [h.same]; exact ⟨rfl, rfl⟩

theorem Reservation.moved_finish {r : Reservation} {x : UUID} {s : ReservationStatus}
    (h : r.id = x → r.status = .reserved) : r.Moved (r.finish x s) := by
  unfold Reservation.finish
  split_ifs with hx
  · exact ⟨rfl, Or.inl (h hx)⟩
  · exact .refl r

theorem ReservationSeat.moved_finish {r : ReservationSeat} {x : UUID} {s : ReservationStatus}
    (h : r.reservationId = x → r.status = .reserved) : r.Moved (r.finish x s) := by
  unfold ReservationSeat.finish
  split_ifs with hx
  · exact ⟨rfl, Or.inl (h hx)⟩
  · exact ⟨rfl, Or.inr rfl⟩

theorem ReservationItem.moved_finish {i : ReservationItem} {x : UUID} {s : ReservationStatus}
    (h : i.reservationId = x → i.status = .reserved) : i.Moved (i.finish x s) := by
  unfold ReservationItem.finish
  split_ifs with hx
  · exact ⟨rfl, Or.inl (h hx)⟩
  · exact ⟨rfl, Or.inr rfl⟩

namespace Effect
variable {Λ : List Lock} {d d' : Database}

/-- A reservation stays, possibly moved out of RESERVED. -/
theorem reservation (h : Effect Λ d d') (hi : Inv d) {r : Reservation} (hr : r ∈ d.reservations) :
    ∃ r' ∈ d'.reservations, r.Moved r' := by
  cases h with
  | finish x s hx hxr hs hl =>
    exact ⟨_, List.mem_map_of_mem hr,
      Reservation.moved_finish fun hid => hi.eq_of_id hr hx hid ▸ hxr⟩
  | addQuantity x i hn => exact ⟨r, List.mem_append_left _ hr, .refl r⟩
  | addSeats x rows hn => exact ⟨r, List.mem_append_left _ hr, .refl r⟩

/-- A reservation was there before, or it is new under its locks. -/
theorem reservation_back (h : Effect Λ d d') (hi : Inv d) {r' : Reservation}
    (hr : r' ∈ d'.reservations) : (∃ r ∈ d.reservations, r.Moved r') ∨
      (.reservation r'.id ∈ Λ ∧ .visitorKey r'.visitorSessionId r'.idempotencyKey ∈ Λ ∧
        r'.status = .reserved ∧ r'.Fits d) := by
  cases h with
  | finish x s hx hxr hs hl =>
    obtain ⟨r, hrm, rfl⟩ := List.mem_map.1 hr
    exact Or.inl ⟨r, hrm, Reservation.moved_finish fun hid => hi.eq_of_id hrm hx hid ▸ hxr⟩
  | addQuantity x i hn h1 h2 =>
    rcases List.mem_append.1 hr with hr | hr
    · exact Or.inl ⟨r', hr, .refl r'⟩
    · rw [List.mem_singleton.1 hr]; exact Or.inr ⟨h1, h2, hn.reserved, hn.fits⟩
  | addSeats x rows hn h1 h2 =>
    rcases List.mem_append.1 hr with hr | hr
    · exact Or.inl ⟨r', hr, .refl r'⟩
    · rw [List.mem_singleton.1 hr]; exact Or.inr ⟨h1, h2, hn.reserved, hn.fits⟩

/-- A hold was there before, or it is new under the lock of its seat. -/
theorem seat_back (h : Effect Λ d d') (hi : Inv d) {r' : ReservationSeat}
    (hr : r' ∈ d'.reservationSeats) : (∃ r ∈ d.reservationSeats, r.Moved r') ∨
      (.seat r'.seatId ∈ Λ ∧ .reservationSeat r'.id ∈ Λ) := by
  cases h with
  | finish x s hx hxr hs hl =>
    obtain ⟨r, hrm, rfl⟩ := List.mem_map.1 hr
    exact Or.inl ⟨r, hrm,
      ReservationSeat.moved_finish fun hrx => (hi.seat_status hx r hrm hrx).trans hxr⟩
  | addQuantity x i hn => exact Or.inl ⟨r', hr, rfl, Or.inr rfl⟩
  | addSeats x rows hn h1 h2 h3 h4 =>
    rcases List.mem_append.1 hr with hr | hr
    · exact Or.inl ⟨r', hr, rfl, Or.inr rfl⟩
    · exact Or.inr ⟨h3 r' hr, h4 r' hr⟩

/-- An item was there before, or its id is locked. -/
theorem item_back (h : Effect Λ d d') {i' : ReservationItem} (hi' : i' ∈ d'.reservationItems) :
    (∃ i ∈ d.reservationItems, i.id = i'.id) ∨ .reservationItem i'.id ∈ Λ := by
  cases h with
  | finish x s hx hxr hs hl =>
    obtain ⟨i, hi, rfl⟩ := List.mem_map.1 hi'
    exact Or.inl ⟨i, hi, by simp⟩
  | addQuantity x i hn h1 h2 h3 h4 =>
    rcases List.mem_append.1 hi' with hi | hi
    · exact Or.inl ⟨i', hi, rfl⟩
    · exact Or.inr (List.mem_singleton.1 hi ▸ h4)
  | addSeats x rows hn => exact Or.inl ⟨i', hi', rfl⟩

/-- The items of a reservation keep their ticket types and quantities. -/
theorem itemsOf (h : Effect Λ d d') {x : Reservation} (hx : x ∈ d.reservations) :
    (d'.itemsOf x.id).map (fun i => (i.id, i.ticketTypeId, i.quantity)) =
      (d.itemsOf x.id).map fun i => (i.id, i.ticketTypeId, i.quantity) := by
  cases h with
  | finish y s => rw [Database.itemsOf_finish, Table.map_key (by simp)]
  | addQuantity y i hn =>
    have : i.reservationId ≠ x.id := fun hix => hn.fits.id x hx (hix.symm.trans hn.parent)
    simp [this]
  | addSeats y rows hn => rfl

/-- The seats of a reservation stay. -/
theorem seatsOf (h : Effect Λ d d') {x : Reservation} (hx : x ∈ d.reservations) :
    (d'.seatsOf x.id).map (fun r => (r.id, r.seatId, r.expiresAt)) =
      (d.seatsOf x.id).map fun r => (r.id, r.seatId, r.expiresAt) := by
  cases h with
  | finish y s => rw [Database.seatsOf_finish, Table.map_key (by simp)]
  | addQuantity y i hn => rfl
  | addSeats y rows hn =>
    rw [Database.seatsOf_addSeats, List.filter_eq_nil_iff.2, List.append_nil]
    exact fun r hr hrx => hn.fits.id x hx
      ((by simpa using hrx : r.reservationId = x.id).symm.trans (hn.parent r hr))

/-- A hold stays, possibly moved out of RESERVED. -/
theorem seat (h : Effect Λ d d') (hi : Inv d) {r : ReservationSeat} (hr : r ∈ d.reservationSeats) :
    ∃ r' ∈ d'.reservationSeats, r.Moved r' := by
  cases h with
  | finish x s hx hxr hs hl =>
    exact ⟨_, List.mem_map_of_mem hr,
      ReservationSeat.moved_finish fun hrx => (hi.seat_status hx r hr hrx).trans hxr⟩
  | addQuantity x i hn => exact ⟨r, hr, rfl, Or.inr rfl⟩
  | addSeats x rows hn => exact ⟨r, List.mem_append_left _ hr, rfl, Or.inr rfl⟩

/-- An item stays, possibly moved out of RESERVED. -/
theorem item (h : Effect Λ d d') (hi : Inv d) {i : ReservationItem} (hm : i ∈ d.reservationItems) :
    ∃ i' ∈ d'.reservationItems, i.Moved i' := by
  cases h with
  | finish x s hx hxr hs hl =>
    exact ⟨_, List.mem_map_of_mem hm,
      ReservationItem.moved_finish fun hix => (hi.item_status hx i hm hix).trans hxr⟩
  | addQuantity x j hn => exact ⟨i, List.mem_append_left _ hm, rfl, Or.inr rfl⟩
  | addSeats x rows hn => exact ⟨i, hm, rfl, Or.inr rfl⟩

/-- **Without their locks, reservations and their children stay as they are.** -/
theorem group (h : Effect Λ d d') {ids : List UUID} (hx : ∀ x ∈ ids, .reservation x ∉ Λ) :
    d'.reservations.filter (fun r => r.id ∈ ids) = d.reservations.filter (fun r => r.id ∈ ids) ∧
      d'.reservationItems.filter (fun i => i.reservationId ∈ ids) =
        d.reservationItems.filter (fun i => i.reservationId ∈ ids) ∧
      d'.reservationSeats.filter (fun r => r.reservationId ∈ ids) =
        d.reservationSeats.filter (fun r => r.reservationId ∈ ids) := by
  cases h with
  | finish y s hy hyr hs hl =>
    have hy : y.id ∉ ids := fun h => hx _ h hl
    refine ⟨?_, ?_, ?_⟩ <;> refine Table.filter_map_eq (by simp) fun r _ hr => ?_
    all_goals
      simp only [decide_eq_true_eq] at hr
      exact if_neg fun h => hy (by rwa [h] at hr)
  | addQuantity y i hn hl =>
    have hy : y.id ∉ ids := fun h => hx _ h hl
    exact ⟨by simp [hy], by simp [hn.parent, hy], rfl⟩
  | addSeats y rows hn hl =>
    have hy : y.id ∉ ids := fun h => hx _ h hl
    refine ⟨by simp [hy], rfl, ?_⟩
    have hrows : rows.filter (fun r => r.reservationId ∈ ids) = [] :=
      List.filter_eq_nil_iff.2 fun r hr => by simpa [hn.parent r hr] using hy
    rw [Database.addSeats_reservationSeats, List.filter_append, hrows, List.append_nil]

theorem whole (h : Effect Λ d d') {x : UUID} (hx : .reservation x ∉ Λ) :
    d'.reservations.filter (fun r => r.id = x) = d.reservations.filter (fun r => r.id = x) ∧
      d'.itemsOf x = d.itemsOf x ∧ d'.seatsOf x = d.seatsOf x := by
  have := h.group (show ∀ y ∈ [x], .reservation y ∉ Λ by simpa using hx)
  simpa only [Database.itemsOf, Database.seatsOf, List.mem_singleton] using this

/-- Without its lock, the row of a ticket type stays as it is. -/
theorem ticketType (h : Effect Λ d d') {t : UUID} (ht : .ticketType t ∉ Λ) :
    d'.ticketTypes.filter (fun r => r.id = t) = d.ticketTypes.filter (fun r => r.id = t) := by
  cases h with
  | finish x s hx hxr hs hl hlt =>
    refine Table.filter_map_eq (fun _ _ => rfl) fun r _ hr => ?_
    have hid : r.id = t := by simpa using hr
    have hheld : d.held x.id r.id = 0 := by
      rw [Database.held, List.filter_eq_nil_iff.2]
      · rfl
      · intro i hi hp
        simp only [Bool.and_eq_true, decide_eq_true_eq] at hp
        refine ht ?_
        rw [← hid, ← hp.2]
        exact hlt i (List.mem_filter.2 ⟨hi, by simpa using hp.1⟩)
    simp [hheld]
  | addQuantity x i hn h1 h2 h3 =>
    refine Table.filter_map_eq (fun r _ => by split_ifs <;> rfl) fun r _ hr => ?_
    have hid : r.id = t := by simpa using hr
    rw [if_neg]
    intro hri
    rw [← hid, hri] at ht
    exact ht h3
  | addSeats x rows hn => rfl

end Effect

/-! ## What stays true while locks are held -/

section
variable {Λ : List Lock}

/-- What is said about the tables that reservations only refer to. -/
theorem keeps_catalogue (A : List User → List VisitorSession → List Event → List Seat → Prop) :
    protocol.Keeps Λ fun d => A d.users d.visitorSessions d.events d.seats := by
  intro Λ' d d' _ _ h hA
  rwa [Effect.users h, Effect.visitorSessions h, Effect.events h, Effect.seats h]

/-- What is said about locked reservations and their children. -/
theorem keeps_group {ids : List UUID} (hl : ∀ x ∈ ids, .reservation x ∈ Λ)
    (A : List Reservation → List ReservationItem → List ReservationSeat → Prop) :
    protocol.Keeps Λ fun d => A (d.reservations.filter fun r => r.id ∈ ids)
      (d.reservationItems.filter fun i => i.reservationId ∈ ids)
      (d.reservationSeats.filter fun r => r.reservationId ∈ ids) := by
  intro Λ' d d' _ hd h hA
  obtain ⟨h1, h2, h3⟩ := Effect.group h fun x hx hx' => hd hx' (hl x hx)
  rwa [h1, h2, h3]

/-- What is said about a locked ticket type. -/
theorem keeps_ticketType {t : UUID} (hl : .ticketType t ∈ Λ) (A : List TicketType → Prop) :
    protocol.Keeps Λ fun d => A (d.ticketTypes.filter fun r => r.id = t) := by
  intro Λ' d d' _ hd h hA
  rwa [Effect.ticketType h fun ht => hd ht hl]

/-- A reservation that could be inserted still can. -/
theorem keeps_fits {x : Reservation} (hl : .reservation x.id ∈ Λ)
    (hk : .visitorKey x.visitorSessionId x.idempotencyKey ∈ Λ) : protocol.Keeps Λ x.Fits := by
  intro Λ' d d' hi hd h hx
  refine ⟨fun r hr hid => ?_, fun r hr hkey => ?_, ?_, ?_, ?_⟩
  · rcases Effect.reservation_back h hi hr with ⟨q, hq, hm⟩ | ⟨hr', -⟩
    · exact hx.id q hq (hm.id.symm.trans hid)
    · exact hd (hid ▸ hr') hl
  · rcases Effect.reservation_back h hi hr with ⟨q, hq, hm⟩ | ⟨-, hr', -⟩
    · exact hx.visitorKey q hq ⟨hm.key.1.symm.trans hkey.1, hm.key.2.symm.trans hkey.2⟩
    · exact hd (hkey.1 ▸ hkey.2 ▸ hr') hk
  · rw [Effect.events h]; exact hx.event
  · rw [Effect.visitorSessions h]; exact hx.visitorSession
  · rw [Effect.users h]; exact hx.user

theorem keeps_itemId {x : UUID} (hl : .reservationItem x ∈ Λ) :
    protocol.Keeps Λ fun d => ∀ i ∈ d.reservationItems, i.id ≠ x := by
  rintro Λ' d d' _ hd h hx i hi rfl
  rcases Effect.item_back h hi with ⟨j, hj, hid⟩ | hi'
  · exact hx j hj hid
  · exact hd hi' hl

theorem keeps_seatRowId {x : UUID} (hl : .reservationSeat x ∈ Λ) :
    protocol.Keeps Λ fun d => ∀ r ∈ d.reservationSeats, r.id ≠ x := by
  rintro Λ' d d' hi hd h hx r hr rfl
  rcases Effect.seat_back h hi hr with ⟨q, hq, hm⟩ | ⟨-, hr'⟩
  · exact hx q hq (by rw [hm.same])
  · exact hd hr' hl

/-- What is said about every hold on locked seats. -/
theorem keeps_holds {seatIds : List UUID} (hl : ∀ s ∈ seatIds, .seat s ∈ Λ)
    {A : ReservationSeat → Prop} (hA : ∀ r r' : ReservationSeat, r.Moved r' → A r → A r') :
    protocol.Keeps Λ fun d => ∀ r ∈ d.reservationSeats, r.seatId ∈ seatIds → A r := by
  intro Λ' d d' hi hd h hk r hr hs
  rcases Effect.seat_back h hi hr with ⟨q, hq, hm⟩ | ⟨hr', -⟩
  · exact hA q r hm (hk q hq (by rwa [hm.same] at hs))
  · exact absurd (hl _ hs) fun hs' => hd hr' hs'

/-- A hold persists. -/
theorem keeps_hold {A : ReservationSeat → Prop}
    (hA : ∀ r r' : ReservationSeat, r.Moved r' → A r → A r') :
    protocol.Keeps Λ fun d => ∃ r ∈ d.reservationSeats, A r := by
  rintro Λ' d d' hi - h ⟨r, hr, hAr⟩
  obtain ⟨r', hr', hm⟩ := Effect.seat h hi hr
  exact ⟨r', hr', hA r r' hm hAr⟩

/-- A reservation persists. -/
theorem keeps_reservation {A : Reservation → Prop}
    (hA : ∀ r r' : Reservation, r.Moved r' → A r → A r') :
    protocol.Keeps Λ fun d => ∃ r ∈ d.reservations, A r := by
  rintro Λ' d d' hi - h ⟨r, hr, hAr⟩
  obtain ⟨r', hr', hm⟩ := Effect.reservation h hi hr
  exact ⟨r', hr', hA r r' hm hAr⟩

end

end TicketReservation
