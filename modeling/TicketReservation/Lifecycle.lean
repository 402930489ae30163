/-
  A transition under the lock of its reservation.

  `Whole` is a reservation with its children as the services list them.  On a
  database that satisfies `Inv`, the transition of a RESERVED reservation
  writes `Whole.writes` and nothing else (`settled_transitionReserved`), and
  these writes are the change `finish` (`Whole.view_writes`).  Since the lock
  of the reservation keeps the whole as it is, the transition is not affected
  by other transactions; neither is a batch of them (`settled_expireEach`).
-/
import TicketReservation.Effect

namespace TicketReservation

open Txn

/-! ## Sorted lists -/

section
variable {α κ₁ κ₂ : Type} [LinearOrder κ₁] [LinearOrder κ₂] {k₁ : α → κ₁} {k₂ : α → κ₂}

theorem orderBy_perm (l : List α) : (orderBy k₁ k₂ l).Perm l := List.perm_insertionSort _ l

@[simp] theorem mem_orderBy {l : List α} {a : α} : a ∈ orderBy k₁ k₂ l ↔ a ∈ l :=
  (orderBy_perm l).mem_iff

@[simp] theorem orderBy_eq_nil {l : List α} : orderBy k₁ k₂ l = [] ↔ l = [] := by
  rw [← List.length_eq_zero_iff, (orderBy_perm l).length_eq, List.length_eq_zero_iff]

instance : Std.Total (OrderBy k₁ k₂) := ⟨fun a b => by
  rcases lt_trichotomy (k₁ a) (k₁ b) with h | h | h
  · exact Or.inl (Or.inl h)
  · exact (le_total (k₂ a) (k₂ b)).imp (fun h' => Or.inr ⟨h, h'⟩) fun h' => Or.inr ⟨h.symm, h'⟩
  · exact Or.inr (Or.inl h)⟩

instance : IsTrans α (OrderBy k₁ k₂) := ⟨fun a b c => by
  rintro (h | ⟨h, h'⟩) (g | ⟨g, g'⟩)
  · exact Or.inl (h.trans g)
  · exact Or.inl (g ▸ h)
  · exact Or.inl (h ▸ g)
  · exact Or.inr ⟨h.trans g, h'.trans g'⟩⟩

theorem orderBy_pairwise (l : List α) : (orderBy k₁ k₂ l).Pairwise (OrderBy k₁ k₂) :=
  List.pairwise_insertionSort _ l

/-- Rows with different second keys are sorted strictly. -/
theorem orderBy_strict {l : List α} (h : (l.map k₂).Nodup) : (orderBy k₁ k₂ l).Pairwise fun a b =>
    k₁ a < k₁ b ∨ k₁ a = k₁ b ∧ k₂ a < k₂ b := by
  have hn : ((orderBy k₁ k₂ l).map k₂).Nodup := ((orderBy_perm l).map k₂).nodup_iff.2 h
  refine (orderBy_pairwise l).imp₂ (fun a b hab hne => ?_) (List.pairwise_map.1 hn)
  exact hab.imp_right fun h => ⟨h.1, lt_of_le_of_ne h.2 hne⟩

theorem orderBy_map {g : α → α} (h₁ : ∀ a, k₁ (g a) = k₁ a) (h₂ : ∀ a, k₂ (g a) = k₂ a)
    (l : List α) : orderBy k₁ k₂ (l.map g) = (orderBy k₁ k₂ l).map g :=
  (List.map_insertionSort _ _ g l fun a _ b _ => by simp only [OrderBy, h₁, h₂]).symm

end

/-! ## A reservation with its children -/

structure Whole where
  reservation : Reservation
  items : List ReservationItem
  seats : List ReservationSeat

namespace Whole

/-- The database has this reservation with these children. -/
structure In (w : Whole) (d : Database) : Prop where
  reservation : d.reservations.filter (fun r => r.id = w.reservation.id) = [w.reservation]
  items : orderBy ReservationItem.ticketTypeId ReservationItem.id (d.itemsOf w.reservation.id) =
    w.items
  seats : orderBy ReservationSeat.seatId ReservationSeat.id (d.seatsOf w.reservation.id) = w.seats

/-- The reservation `x` with its children. -/
def of (d : Database) (x : Reservation) : Whole :=
  ⟨x, orderBy ReservationItem.ticketTypeId ReservationItem.id (d.itemsOf x.id),
    orderBy ReservationSeat.seatId ReservationSeat.id (d.seatsOf x.id)⟩

theorem of_in {d : Database} (h : Inv d) {x : Reservation} (hx : x ∈ d.reservations) :
    (of d x).In d :=
  ⟨Table.filter_key h.reservationIds hx, rfl, rfl⟩

theorem In.mem {w : Whole} {d : Database} (h : w.In d) : w.reservation ∈ d.reservations :=
  (List.mem_filter.1 (h.reservation ▸ List.mem_singleton_self _)).1

theorem In.eq {w : Whole} {d : Database} (h : w.In d) {r : Reservation} (hr : r ∈ d.reservations)
    (hid : r.id = w.reservation.id) : r = w.reservation := by
  have : r ∈ d.reservations.filter fun r => r.id = w.reservation.id :=
    List.mem_filter.2 ⟨hr, by simpa using hid⟩
  rw [h.reservation] at this
  exact List.mem_singleton.1 this

theorem In.eq_of {w : Whole} {d : Database} (h : w.In d) : of d w.reservation = w := by
  rw [of, h.items, h.seats]

theorem keeps_in {Λ : List Lock} {w : Whole} (hl : .reservation w.reservation.id ∈ Λ) :
    protocol.Keeps Λ w.In := by
  intro Λ' d d' hi hd h hw
  obtain ⟨h1, h2, h3⟩ := Effect.whole h fun hx' => hd hx' hl
  exact ⟨h1.trans hw.reservation, h2 ▸ hw.items, h3 ▸ hw.seats⟩

/-- What the transition to `s` writes. -/
def writes (w : Whole) (s : ReservationStatus) : List Write :=
  (match w.reservation.reservationType with
    | .quantity => w.items.flatMap fun i =>
        [.addQuantities i.ticketTypeId (-i.quantity) (if s = .confirmed then i.quantity else 0),
          .setItemStatus [i.id] s]
    | .seats => w.seats.map fun r => .setSeatStatus [r.id] s) ++
    [.setReservationStatus [w.reservation.id] s]

/-- What the transition locks. -/
def locks (w : Whole) : List Lock :=
  (match w.reservation.reservationType with
    | .quantity => w.items.flatMap fun i => [.ticketType i.ticketTypeId, .reservationItem i.id]
    | .seats => w.seats.map fun r => .reservationSeat r.id) ++ [.reservation w.reservation.id]

/-- The whole after the transition. -/
def finish (w : Whole) (s : ReservationStatus) : Whole :=
  ⟨{ w.reservation with status := s }, w.items.map fun i => { i with status := s },
    w.seats.map fun r => { r with status := s }⟩

section
variable {w : Whole} {d : Database} (hi : Inv d) (h : w.In d)
include hi h

theorem items_eq (hq : w.reservation.reservationType = .quantity) :
    ∃ i, w.items = [i] ∧ d.itemsOf w.reservation.id = [i] := by
  obtain ⟨i, hit⟩ := hi.oneItem _ h.mem hq
  exact ⟨i, by rw [← h.items, hit]; rfl, hit⟩

theorem seats_ne_nil (hs : w.reservation.reservationType = .seats) : w.seats ≠ [] := by
  rw [← h.seats, ne_eq, orderBy_eq_nil]
  exact hi.someSeats _ h.mem hs

theorem item_status : ∀ i ∈ w.items, i.status = w.reservation.status := by
  rw [← h.items]
  intro i hit
  rw [mem_orderBy, Database.itemsOf, List.mem_filter] at hit
  exact hi.item_status h.mem i hit.1 (by simpa using hit.2)

theorem seat_status : ∀ r ∈ w.seats, r.status = w.reservation.status := by
  rw [← h.seats]
  intro r hr
  rw [mem_orderBy, Database.seatsOf, List.mem_filter] at hr
  exact hi.seat_status h.mem r hr.1 (by simpa using hr.2)

theorem no_seats (hq : w.reservation.reservationType = .quantity) :
    d.seatsOf w.reservation.id = [] := by
  refine List.filter_eq_nil_iff.2 fun r hr hrx => ?_
  obtain ⟨x, hx, hxr, hty, -⟩ := hi.seat r hr
  rw [h.eq hx (hxr.trans (by simpa using hrx)), hq] at hty
  cases hty

theorem no_items (hs : w.reservation.reservationType = .seats) :
    d.itemsOf w.reservation.id = [] := by
  refine List.filter_eq_nil_iff.2 fun i hit hix => ?_
  obtain ⟨x, hx, hxi, hty, -⟩ := hi.item i hit
  rw [h.eq hx (hxi.trans (by simpa using hix)), hs] at hty
  cases hty

end

/-! ### The writes are the change -/

theorem held_eq (d : Database) (x t : UUID) : d.held x t =
    (((d.itemsOf x).filter fun i => i.ticketTypeId = t).map ReservationItem.quantity).sum := by
  rw [Database.held, Database.itemsOf, List.filter_filter]
  congr 3
  funext i
  exact Bool.and_comm _ _

/-- A reservation without items holds no units. -/
theorem ticketTypes_finish {d : Database} {x : UUID} (h : d.itemsOf x = []) (s : ReservationStatus) :
    (d.finish x s).ticketTypes = d.ticketTypes := by
  simp [Database.finish, held_eq, h]

theorem map_finish_items {d : Database} {x : UUID} (h : d.itemsOf x = []) (s : ReservationStatus) :
    d.reservationItems.map (ReservationItem.finish x s) = d.reservationItems := by
  refine (List.map_congr_left fun i hi => ?_).trans (List.map_id _)
  exact if_neg fun hix => List.filter_eq_nil_iff.1 h i hi (by simpa using hix)

theorem map_finish_seats {d : Database} {x : UUID} (h : d.seatsOf x = []) (s : ReservationStatus) :
    d.reservationSeats.map (ReservationSeat.finish x s) = d.reservationSeats := by
  refine (List.map_congr_left fun r hr => ?_).trans (List.map_id _)
  exact if_neg fun hrx => List.filter_eq_nil_iff.1 h r hr (by simpa using hrx)

/-- The rows of `reservation_seats` after the updates of single rows. -/
theorem view_setSeatStatus (rows : List ReservationSeat) (s : ReservationStatus) (Λ : List Lock)
    (d : Database) :
    (⟨rows.map fun r => .setSeatStatus [r.id] s, Λ⟩ : Session).view d =
      { d with reservationSeats := d.reservationSeats.map fun r =>
          if r.id ∈ rows.map ReservationSeat.id then { r with status := s } else r } := by
  induction rows generalizing d with
  | nil => simp [Session.view]
  | cons q rows ih =>
    simp only [Session.view, List.map_cons, List.foldl_cons] at ih ⊢
    rw [ih]
    simp only [store_apply, Database.apply, List.map_map]
    congr 2
    funext r
    by_cases h : r.id = q.id <;> by_cases h' : r.id ∈ rows.map ReservationSeat.id <;>
      simp_all

/-- **The writes of a transition are the change `finish`.** -/
theorem view_writes {w : Whole} {d : Database} (hi : Inv d) (h : w.In d) (s : ReservationStatus)
    (Λ : List Lock) :
    (⟨w.writes s, Λ⟩ : Session).view d = d.finish w.reservation.id s := by
  rw [writes, Session.view_append _ _ Λ Λ]
  cases hty : w.reservation.reservationType with
  | quantity =>
    obtain ⟨i, hw, hd⟩ := items_eq hi h hty
    have himem : i ∈ d.itemsOf w.reservation.id := by rw [hd]; exact List.mem_singleton_self i
    obtain ⟨hid, hix⟩ := List.mem_filter.1 himem
    simp only [hw, Session.view, List.flatMap_cons, List.flatMap_nil, List.append_nil,
      List.foldl_cons, List.foldl_nil, store_apply, Database.apply]
    refine Database.ext rfl rfl rfl ?_ rfl ?_ ?_ ?_
    · refine List.map_congr_left fun t _ => ?_
      simp only [held_eq, hd]
      by_cases ht : t.id = i.ticketTypeId
      · simp [ht]
      · simp [ht, Ne.symm ht]
    · exact List.map_congr_left fun r _ => by simp [Reservation.finish]
    · refine List.map_congr_left fun j hj => ?_
      have : j.id = i.id ↔ j.reservationId = w.reservation.id := by
        refine ⟨fun hji => ?_, fun hjx => ?_⟩
        · rw [Table.eq_of_key hi.itemIds hj hid hji]; simpa using hix
        · have : j ∈ d.itemsOf w.reservation.id := List.mem_filter.2 ⟨hj, by simpa using hjx⟩
          rw [hd] at this
          rw [List.mem_singleton.1 this]
      simp [ReservationItem.finish, this]
    · exact (map_finish_seats (no_seats hi h hty) s).symm
  | seats =>
    have hnone := no_items hi h hty
    simp only [view_setSeatStatus]
    refine Database.ext rfl rfl rfl (ticketTypes_finish hnone s).symm rfl ?_
      (map_finish_items hnone s).symm ?_
    · exact List.map_congr_left fun r _ => by simp [Reservation.finish]
    · refine List.map_congr_left fun r hr => ?_
      have : r.id ∈ w.seats.map ReservationSeat.id ↔ r.reservationId = w.reservation.id := by
        rw [← h.seats, ((orderBy_perm _).map _).mem_iff, Database.seatsOf,
          Table.key_mem_filter_iff hi.seatRowIds hr, decide_eq_true_eq]
      simp [ReservationSeat.finish, this]

/-! ### Wholes after a transition -/

theorem In.finish_self {w : Whole} {d : Database} (h : w.In d) (s : ReservationStatus) :
    (w.finish s).In (d.finish w.reservation.id s) := by
  refine ⟨?_, ?_, ?_⟩
  · rw [Database.finish_reservations, Table.filter_map_comm (by simp)]
    have : (w.finish s).reservation.id = w.reservation.id := rfl
    rw [this, h.reservation]
    simp [Whole.finish, Reservation.finish]
  · simp only [Whole.finish, Database.itemsOf_finish]
    rw [orderBy_map (by simp) (by simp), h.items]
    refine List.map_congr_left fun i hit => if_pos ?_
    rw [← h.items, mem_orderBy] at hit
    simpa using (List.mem_filter.1 hit).2
  · simp only [Whole.finish, Database.seatsOf_finish]
    rw [orderBy_map (by simp) (by simp), h.seats]
    refine List.map_congr_left fun r hr => if_pos ?_
    rw [← h.seats, mem_orderBy] at hr
    simpa using (List.mem_filter.1 hr).2

theorem In.finish_other {w : Whole} {d : Database} (h : w.In d) {x : UUID}
    (hx : w.reservation.id ≠ x) (s : ReservationStatus) : w.In (d.finish x s) := by
  refine ⟨?_, ?_, ?_⟩
  · rw [Database.finish_reservations, Table.filter_map_eq (by simp), h.reservation]
    intro r _ hr
    exact if_neg (by simpa [(by simpa using hr : r.id = w.reservation.id)] using hx)
  · rw [← h.items]
    unfold Database.itemsOf
    rw [Database.finish_reservationItems, Table.filter_map_eq (by simp)]
    intro i _ hi
    exact if_neg (by simpa [(by simpa using hi : i.reservationId = w.reservation.id)] using hx)
  · rw [← h.seats]
    unfold Database.seatsOf
    rw [Database.finish_reservationSeats, Table.filter_map_eq (by simp)]
    intro r _ hr
    exact if_neg (by simpa [(by simpa using hr : r.reservationId = w.reservation.id)] using hx)

end Whole

/-! ## The transition does nothing else -/

section
variable {K : Database → Prop} {σ : Session}

theorem settled_execute {β : Type} {plan : Database → Plan Write Lock β} (p : Plan Write Lock β)
    (h : ∀ d, K d → plan (σ.view d) = p) (hw : p.waits = []) :
    Settled K (execute plan) σ (.ok p.result) ⟨σ.writes ++ p.writes, σ.locks ++ p.takes⟩ :=
  Settled.exec h hw

/-- A query. -/
theorem settled_read {β : Type} {f : Database → β} (b : β) (h : ∀ d, K d → f (σ.view d) = b) :
    Settled K (execute fun d => { result := f d }) σ (.ok b) σ := by
  have : Settled K (execute fun d => { result := f d }) σ (.ok b) ⟨σ.writes ++ [], σ.locks ++ []⟩ :=
    settled_execute ⟨b, [], [], []⟩ (fun d hd => by rw [h d hd]) rfl
  simpa using this

theorem settled_executeOrRaise {β : Type} {plan : Database → Plan Write Lock (Except Error β)}
    {b : β} (p : Plan Write Lock (Except Error β)) (h : ∀ d, K d → plan (σ.view d) = p)
    (hp : p.result = .ok b) (hw : p.waits = []) : Settled K (executeOrRaise plan) σ (.ok b)
      ⟨σ.writes ++ p.writes, σ.locks ++ p.takes⟩ := by
  refine Settled.bind (settled_execute p h hw) ?_
  rw [hp]
  exact .ret _ _

/-- A guarded update that finds its row. -/
theorem settled_updateTicketType {t : UUID} {guard : TicketType → Bool} {Δr Δs : ℤ}
    (hK : ∀ d, K d → ((σ.view d).ticketTypes.map TicketType.id).Nodup ∧
      ∃ r ∈ (σ.view d).ticketTypes, r.id = t ∧ guard r ∧ (r.add Δr Δs).Checks) :
    Settled K (updateTicketType t guard Δr Δs) σ (.ok true)
      ⟨σ.writes ++ [.addQuantities t Δr Δs], σ.locks ++ [.ticketType t]⟩ := by
  refine settled_executeOrRaise ⟨.ok true, [], [.ticketType t], [.addQuantities t Δr Δs]⟩
    (fun d hd => ?_) rfl rfl
  obtain ⟨hn, r, hr, rfl, hg, hc⟩ := hK d hd
  have hf : (σ.view d).ticketTypes.find? (fun r' => r'.id = r.id && guard r') = some r := by
    rw [Table.find?_eq_some_iff hn (k := r.id) (by simp +contextual)]
    exact ⟨hr, by simpa using hg⟩
  simp only [Database.updateTicketType, hf, if_pos hc]

/-- The stock of a RESERVED item covers it. -/
theorem Inv.covers {d : Database} (h : Inv d) {i : ReservationItem} (hi : i ∈ d.reservationItems)
    (hr : i.status = .reserved) :
    ∃ t ∈ d.ticketTypes, t.id = i.ticketTypeId ∧ i.quantity ≤ t.reservedQuantity := by
  obtain ⟨t, ht, hti⟩ := h.itemTicketTypes i hi
  refine ⟨t, ht, hti, ?_⟩
  rw [(h.ledger t ht).1, Database.units]
  refine Table.le_sum (fun j hj => (h.itemQuantities j (List.mem_filter.1 hj).1).le) ?_
  exact List.mem_filter.2 ⟨hi, by simp [hti, hr]⟩

/-- The guarded update of one item of a transition. -/
theorem settled_moveQuantity {i : ReservationItem} (s : ReservationStatus)
    (hK : ∀ d, K d → Inv (σ.view d) ∧ i ∈ (σ.view d).reservationItems) (hr : i.status = .reserved) :
    Settled K (ReservationLifecycleService.moveQuantity s i) σ (.ok true)
      ⟨σ.writes ++ [.addQuantities i.ticketTypeId (-i.quantity)
          (if s = .confirmed then i.quantity else 0)],
        σ.locks ++ [.ticketType i.ticketTypeId]⟩ := by
  unfold ReservationLifecycleService.moveQuantity
  split_ifs with hs
  all_goals
    refine settled_updateTicketType fun d hd => ?_
    obtain ⟨hi, hid⟩ := hK d hd
    obtain ⟨t, ht, hti, hle⟩ := hi.covers hid hr
    have hc := hi.ticketTypeChecks t ht
    have hq := hi.itemQuantities i hid
    have h1 := hc.sold
    have h2 := hc.allocated
    refine ⟨hi.ticketTypeIds, t, ht, hti, ?_, hc.total, ?_, ?_, ?_⟩ <;> simp <;> omega

theorem settled_transitionItems {i : ReservationItem} (s : ReservationStatus)
    (hK : ∀ d, K d → Inv (σ.view d) ∧ i ∈ (σ.view d).reservationItems) (hr : i.status = .reserved) :
    Settled K (ReservationLifecycleService.transitionItems s [i]) σ (.ok ())
      ⟨σ.writes ++ [.addQuantities i.ticketTypeId (-i.quantity)
          (if s = .confirmed then i.quantity else 0), .setItemStatus [i.id] s],
        σ.locks ++ [.ticketType i.ticketTypeId, .reservationItem i.id]⟩ := by
  rw [ReservationLifecycleService.transitionItems, if_neg (by simp [hr])]
  refine Settled.bind (settled_moveQuantity s hK hr) ?_
  refine Settled.bind (settled_execute ⟨(), [], [.reservationItem i.id], [.setItemStatus [i.id] s]⟩
    (fun _ _ => rfl) rfl) ?_
  simpa [ReservationLifecycleService.transitionItems] using Settled.ret () _

theorem settled_transitionSeatRows (s : ReservationStatus) {rows : List ReservationSeat}
    (hr : ∀ r ∈ rows, r.status = .reserved) :
    Settled K (ReservationLifecycleService.transitionSeatRows s rows) σ (.ok ())
      ⟨σ.writes ++ rows.map fun r => .setSeatStatus [r.id] s,
        σ.locks ++ rows.map fun r => .reservationSeat r.id⟩ := by
  induction rows generalizing σ with
  | nil =>
    rw [List.map_nil, List.map_nil, List.append_nil, List.append_nil]
    exact .ret () σ
  | cons r rows ih =>
    rw [ReservationLifecycleService.transitionSeatRows, if_neg (by simp [hr r])]
    refine Settled.bind (settled_execute ⟨(), [], [.reservationSeat r.id], [.setSeatStatus [r.id] s]⟩
      (fun _ _ => rfl) rfl) ?_
    have := ih (σ := ⟨σ.writes ++ [.setSeatStatus [r.id] s], σ.locks ++ [.reservationSeat r.id]⟩)
      fun q hq => hr q (List.mem_cons_of_mem _ hq)
    simpa using this

theorem settled_setReservationStatus (x : UUID) (s : ReservationStatus) :
    Settled K (setReservationStatus x s) σ (.ok ())
      ⟨σ.writes ++ [.setReservationStatus [x] s], σ.locks ++ [.reservation x]⟩ :=
  settled_execute ⟨(), [], [.reservation x], [.setReservationStatus [x] s]⟩ (fun _ _ => rfl) rfl

/-- **The transition of a RESERVED reservation writes `Whole.writes`.** -/
theorem settled_transitionReserved {w : Whole} (s : ReservationStatus)
    (hK : ∀ d, K d → Inv (σ.view d) ∧ w.In (σ.view d)) (hd : ∃ d, K d)
    (hr : w.reservation.status = .reserved) :
    Settled K (ReservationLifecycleService.transitionReserved w.reservation s) σ (.ok ())
      ⟨σ.writes ++ w.writes s, σ.locks ++ w.locks⟩ := by
  obtain ⟨d, hd⟩ := hd
  obtain ⟨hi, hw⟩ := hK d hd
  rw [ReservationLifecycleService.transitionReserved, if_neg (by simp [hr])]
  unfold ReservationLifecycleService.transitionChildren Whole.writes Whole.locks
  cases hty : w.reservation.reservationType with
  | quantity =>
    obtain ⟨i, hwi, -⟩ := Whole.items_eq hi hw hty
    have hst := Whole.item_status hi hw i (by simp [hwi])
    have hmem : ∀ d, K d → Inv (σ.view d) ∧ i ∈ (σ.view d).reservationItems := by
      intro d hd
      obtain ⟨hi, hw⟩ := hK d hd
      have : i ∈ w.items := by simp [hwi]
      rw [← hw.items, mem_orderBy] at this
      exact ⟨hi, (List.mem_filter.1 this).1⟩
    simp only [← List.append_assoc]
    refine Settled.bind (a := ()) ?_ (settled_setReservationStatus (σ := ⟨_, _⟩) _ _)
    refine Settled.bind (settled_read w.items fun d hd => (hK d hd).2.items) ?_
    rw [hwi, if_neg (by simp)]
    simpa using settled_transitionItems s hmem (hst.trans hr)
  | seats =>
    have hst := Whole.seat_status hi hw
    simp only [← List.append_assoc]
    refine Settled.bind (a := ()) ?_ (settled_setReservationStatus (σ := ⟨_, _⟩) _ _)
    refine Settled.bind (settled_read w.seats fun d hd => (hK d hd).2.seats) ?_
    rw [if_neg (Whole.seats_ne_nil hi hw hty)]
    exact settled_transitionSeatRows s fun r hr' => (hst r hr').trans hr

/-- `_to_detail_response` of a whole. -/
def Whole.detail (w : Whole) : ReservationDetailResponse :=
  ReservationLifecycleService.detailResponse w.reservation w.items w.seats

theorem settled_toDetailResponse {w : Whole} (hK : ∀ d, K d → w.In (σ.view d)) :
    Settled K (ReservationLifecycleService.toDetailResponse w.reservation) σ (.ok w.detail) σ :=
  Settled.bind (settled_read w.items fun d hd => (hK d hd).items)
    (Settled.bind (settled_read w.seats fun d hd => (hK d hd).seats) (.ret _ _))

/-- After the writes of a transition the session sees `finish`. -/
theorem view_transition {w : Whole} {d : Database} (s : ReservationStatus) (Λ : List Lock)
    (hi : Inv (σ.view d)) (hw : w.In (σ.view d)) :
    (⟨σ.writes ++ w.writes s, Λ⟩ : Session).view d =
      (σ.view d).finish w.reservation.id s := by
  rw [Session.view_append _ _ Λ Λ]
  exact Whole.view_writes hi hw s Λ

/-- **A batch of transitions to EXPIRED.** -/
theorem settled_expireEach {ws : List Whole}
    (hK : ∀ d, K d → Inv (σ.view d) ∧ ∀ w ∈ ws, w.In (σ.view d)) (hd : ∃ d, K d)
    (hn : (ws.map fun w => w.reservation.id).Nodup)
    (hr : ∀ w ∈ ws, w.reservation.status = .reserved) :
    Settled K (ReservationLifecycleService.expireEach (ws.map Whole.reservation)) σ
      (.ok ws.length) ⟨σ.writes ++ ws.flatMap fun w => w.writes .expired,
        σ.locks ++ ws.flatMap Whole.locks⟩ := by
  induction ws generalizing σ with
  | nil =>
    simp only [List.flatMap_nil, List.append_nil]
    exact .ret 0 σ
  | cons w ws ih =>
    rw [List.map_cons, List.nodup_cons] at hn
    have hw := hr w List.mem_cons_self
    have hK₁ : ∀ d, K d → Inv (σ.view d) ∧ w.In (σ.view d) := fun d hd =>
      ⟨(hK d hd).1, (hK d hd).2 w List.mem_cons_self⟩
    have hone : Settled K (ReservationLifecycleService.expireOne w.reservation) σ (.ok 1)
        ⟨σ.writes ++ w.writes .expired, σ.locks ++ w.locks⟩ :=
      Settled.tryCatch_ok (Settled.bind
        (Settled.beginNested (settled_transitionReserved .expired hK₁ hd hw)) (.ret 1 _))
    have hrest := ih (σ := ⟨σ.writes ++ w.writes .expired, σ.locks ++ w.locks⟩) ?_ hn.2
      fun v hv => hr v (List.mem_cons_of_mem _ hv)
    · refine Settled.bind hone (Settled.bind hrest ?_)
      simp only [List.flatMap_cons, List.length_cons, ← List.append_assoc, Nat.add_comm]
      exact .ret _ _
    · intro d hd
      obtain ⟨hi, hin⟩ := hK d hd
      have hwin := hin w List.mem_cons_self
      rw [view_transition .expired _ hi hwin]
      refine ⟨hi.finish hwin.mem hw (by simp), fun v hv => ?_⟩
      refine (hin v (List.mem_cons_of_mem _ hv)).finish_other (fun hid => hn.1 ?_) _
      exact hid ▸ List.mem_map_of_mem hv

/-- What a session sees after a batch of transitions. -/
theorem view_transitions {ws : List Whole} {d : Database} (s : ReservationStatus) (Λ : List Lock)
    (hs : s ≠ .reserved) (hi : Inv d) (hw : ∀ w ∈ ws, w.In d)
    (hn : (ws.map fun w => w.reservation.id).Nodup)
    (hr : ∀ w ∈ ws, w.reservation.status = .reserved) :
    (⟨ws.flatMap fun w => w.writes s, Λ⟩ : Session).view d =
      d.finishAll (ws.map fun w => w.reservation.id) s := by
  induction ws generalizing d with
  | nil => rfl
  | cons w ws ih =>
    rw [List.map_cons, List.nodup_cons] at hn
    have hwin := hw w List.mem_cons_self
    rw [List.flatMap_cons, Session.view_append _ _ Λ Λ, Whole.view_writes hi hwin s Λ]
    refine ih (hi.finish hwin.mem (hr w List.mem_cons_self) hs) (fun v hv => ?_) hn.2
      fun v hv => hr v (List.mem_cons_of_mem _ hv)
    refine (hw v (List.mem_cons_of_mem _ hv)).finish_other (fun hid => hn.1 ?_) _
    exact hid ▸ List.mem_map_of_mem hv

/-- A transition is an effect under the locks it took. -/
theorem Whole.effect {w : Whole} {d : Database} {s : ReservationStatus} {Λ : List Lock} (hi : Inv d)
    (hw : w.In d) (hr : w.reservation.status = .reserved) (hs : s ≠ .reserved)
    (hl : w.locks ⊆ Λ) : Effect Λ d (d.finish w.reservation.id s) := by
  refine .finish w.reservation s hw.mem hr hs (hl (by simp [Whole.locks])) fun i hit => hl ?_
  cases hty : w.reservation.reservationType with
  | quantity =>
    have : i ∈ w.items := by rw [← hw.items, mem_orderBy]; exact hit
    simp only [Whole.locks, hty, List.mem_append, List.mem_flatMap]
    exact Or.inl ⟨i, this, List.mem_cons_self⟩
  | seats =>
    rw [Whole.no_items hi hw hty] at hit
    cases hit

/-- **A batch of transitions is a chain of effects.** -/
theorem effects_finishAll {ws : List Whole} {d : Database} {s : ReservationStatus} {Λ : List Lock}
    (hs : s ≠ .reserved) (hi : Inv d) (hw : ∀ w ∈ ws, w.In d)
    (hn : (ws.map fun w => w.reservation.id).Nodup)
    (hr : ∀ w ∈ ws, w.reservation.status = .reserved) (hl : ws.flatMap Whole.locks ⊆ Λ) :
    Relation.ReflTransGen (Effect Λ) d (d.finishAll (ws.map fun w => w.reservation.id) s) := by
  induction ws generalizing d with
  | nil => exact .refl
  | cons w ws ih =>
    rw [List.map_cons, List.nodup_cons] at hn
    rw [List.flatMap_cons] at hl
    have hwin := hw w List.mem_cons_self
    have hwr := hr w List.mem_cons_self
    refine .head (Whole.effect hi hwin hwr hs fun l hl' => hl (List.mem_append_left _ hl')) ?_
    refine ih (hi.finish hwin.mem hwr hs) (fun v hv => ?_) hn.2
      (fun v hv => hr v (List.mem_cons_of_mem _ hv)) fun l hl' => hl (List.mem_append_right _ hl')
    refine (hw v (List.mem_cons_of_mem _ hv)).finish_other (fun hid => hn.1 ?_) _
    exact hid ▸ List.mem_map_of_mem hv

end

end TicketReservation
