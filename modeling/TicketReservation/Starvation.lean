/-
  Broken reservations and the expiration worker.

  The schema allows reservations that the services would not create: RESERVED
  ones without children, or whose ticket type does not hold their units any
  more.  Their expiration fails (`Database.CanExpire`), a savepoint undoes it
  and the worker goes on with the next reservation of its batch.  But they stay
  RESERVED, and each batch starts with the oldest stale reservations.  With
  nothing else running, and on every database that satisfies the schema:

  * `run_transitionReserved`: which expirations fail;
  * `worker_starved`: a broken reservation that is older than a good one starves
    a worker with batch size 1;
  * `worker_not_starved_iff`: a worker that returns 0 has left no good one iff
    some good one has fewer than `batch_size` stale ones before it (or there is
    no good one).
-/
import TicketReservation.Runs
import TicketReservation.Outcomes

namespace TicketReservation

open Txn ReservationLifecycleService

/-! ## Sums over items -/

/-- The units of a ticket type in a list of items. -/
def demand (items : List ReservationItem) (ticketTypeId : UUID) : ℤ :=
  ((items.filter fun i => i.ticketTypeId = ticketTypeId).map ReservationItem.quantity).sum

@[simp] theorem demand_nil (t : UUID) : demand [] t = 0 := rfl

theorem demand_cons (i : ReservationItem) (items : List ReservationItem) (t : UUID) :
    demand (i :: items) t = (if i.ticketTypeId = t then i.quantity else 0) + demand items t := by
  by_cases h : i.ticketTypeId = t <;> simp [demand, h]

theorem demand_perm {items items' : List ReservationItem} (h : items.Perm items') (t : UUID) :
    demand items t = demand items' t :=
  ((h.filter _).map _).sum_eq

/-- The items are RESERVED and the ticket types hold their units. -/
def Database.Releasable (d : Database) (items : List ReservationItem) : Prop :=
  (∀ i ∈ items, i.status = .reserved) ∧
    ∀ t ∈ d.ticketTypes, demand items t.id ≤ t.reservedQuantity

/-- **The expiration of a RESERVED reservation would succeed**: it has children
    of its kind, all are RESERVED, and the ticket types hold the units of its
    items. -/
def Database.CanExpire (d : Database) (x : Reservation) : Prop :=
  match x.reservationType with
  | .quantity => d.itemsOf x.id ≠ [] ∧ (∀ i ∈ d.itemsOf x.id, i.status = .reserved) ∧
      ∀ t ∈ d.ticketTypes, d.held x.id t.id ≤ t.reservedQuantity
  | .seats => d.seatsOf x.id ≠ [] ∧ ∀ q ∈ d.seatsOf x.id, q.status = .reserved

instance (d : Database) (x : Reservation) : Decidable (d.CanExpire x) :=
  match h : x.reservationType with
  | .quantity => decidable_of_iff (d.itemsOf x.id ≠ [] ∧ (∀ i ∈ d.itemsOf x.id, i.status = .reserved) ∧
      ∀ t ∈ d.ticketTypes, d.held x.id t.id ≤ t.reservedQuantity) (by rw [Database.CanExpire, h])
  | .seats => decidable_of_iff (d.seatsOf x.id ≠ [] ∧ ∀ q ∈ d.seatsOf x.id, q.status = .reserved)
      (by rw [Database.CanExpire, h])

/-- **The expiration of a reservation**: it is EXPIRED with all its children of
    its kind, and the units of its items go back to the stock. -/
def Database.expireReservation (d : Database) (x : Reservation) : Database :=
  match x.reservationType with
  | .quantity => { d with
      ticketTypes := d.ticketTypes.map fun t => t.add (-d.held x.id t.id) 0
      reservations := d.reservations.map (Reservation.finish x.id .expired)
      reservationItems := d.reservationItems.map (ReservationItem.finish x.id .expired) }
  | .seats => { d with
      reservations := d.reservations.map (Reservation.finish x.id .expired)
      reservationSeats := d.reservationSeats.map (ReservationSeat.finish x.id .expired) }

/-! ## The transition of any reservation -/

/-- What the loop over the items leaves. -/
def Database.releaseItems (d : Database) (items : List ReservationItem) : Database :=
  { d with
    ticketTypes := d.ticketTypes.map fun t => t.add (-demand items t.id) 0
    reservationItems := d.reservationItems.map fun i =>
      if i.id ∈ items.map ReservationItem.id then { i with status := .expired } else i }

/-- What the loop over the seat rows leaves. -/
def Database.expireRows (d : Database) (rows : List ReservationSeat) : Database :=
  { d with
    reservationSeats := d.reservationSeats.map fun q =>
      if q.id ∈ rows.map ReservationSeat.id then { q with status := .expired } else q }

section
variable {d : Database} {σ : Session}

@[simp] theorem releaseItems_nil : d.releaseItems [] = d := by
  simp [Database.releaseItems]

@[simp] theorem expireRows_nil : d.expireRows [] = d := by
  simp [Database.expireRows]

theorem releaseItems_cons (i : ReservationItem) (items : List ReservationItem) :
    ((d.apply (.addQuantities i.ticketTypeId (-i.quantity) 0)).apply
      (.setItemStatus [i.id] .expired)).releaseItems items = d.releaseItems (i :: items) := by
  simp only [Database.releaseItems, Database.apply, List.map_map]
  congr 1
  · refine List.map_congr_left fun t _ => ?_
    by_cases ht : t.id = i.ticketTypeId
    · simp only [Function.comp_apply, ht, if_true, TicketType.add, demand_cons]
      congr 1 <;> omega
    · simp only [Function.comp_apply, ht, Ne.symm ht, if_false, TicketType.add, demand_cons, zero_add]
  · refine List.map_congr_left fun j _ => ?_
    by_cases h1 : j.id = i.id <;> by_cases h2 : j.id ∈ items.map ReservationItem.id <;>
      simp only [Function.comp_apply, List.map_cons, List.mem_cons, List.not_mem_nil, or_false, h1, h2,
        if_true, if_false, true_or, false_or] <;> simp_all

theorem expireRows_cons (q : ReservationSeat) (rows : List ReservationSeat) :
    (d.apply (.setSeatStatus [q.id] .expired)).expireRows rows = d.expireRows (q :: rows) := by
  simp only [Database.expireRows, Database.apply, List.map_map]
  congr 1
  refine List.map_congr_left fun j _ => ?_
  by_cases h1 : j.id = q.id <;> by_cases h2 : j.id ∈ rows.map ReservationSeat.id <;>
    simp_all

/-- A loop over the children ends with the reservation. -/
theorem releaseItems_itemsOf (h : Schema d) {x : Reservation} (hx : x.reservationType = .quantity)
    {items : List ReservationItem} (hperm : items.Perm (d.itemsOf x.id)) :
    (d.releaseItems items).apply (.setReservationStatus [x.id] .expired) = d.expireReservation x := by
  have hmem : ∀ i ∈ d.reservationItems, i.id ∈ items.map ReservationItem.id ↔
      i.reservationId = x.id := by
    intro i hi
    rw [(hperm.map _).mem_iff, List.mem_map]
    constructor
    · rintro ⟨j, hj, hid⟩
      obtain ⟨hj, hjx⟩ := List.mem_filter.1 hj
      obtain rfl := Table.eq_of_key h.itemIds hj hi hid
      exact of_decide_eq_true hjx
    · exact fun hix => ⟨i, List.mem_filter.2 ⟨hi, decide_eq_true hix⟩, rfl⟩
  simp only [Database.releaseItems, Database.apply, Database.expireReservation, hx]
  congr 1
  · refine List.map_congr_left fun t _ => ?_
    rw [demand_perm hperm, Whole.held_eq]
    rfl
  · refine List.map_congr_left fun r _ => ?_
    simp only [List.mem_singleton, Reservation.finish]
  · refine List.map_congr_left fun i hi => ?_
    simp only [hmem i hi, ReservationItem.finish]

theorem expireRows_seatsOf (h : Schema d) {x : Reservation} (hx : x.reservationType = .seats)
    {rows : List ReservationSeat} (hperm : rows.Perm (d.seatsOf x.id)) :
    (d.expireRows rows).apply (.setReservationStatus [x.id] .expired) = d.expireReservation x := by
  have hmem : ∀ q ∈ d.reservationSeats, q.id ∈ rows.map ReservationSeat.id ↔
      q.reservationId = x.id := by
    intro q hq
    rw [(hperm.map _).mem_iff, List.mem_map]
    constructor
    · rintro ⟨j, hj, hid⟩
      obtain ⟨hj, hjx⟩ := List.mem_filter.1 hj
      obtain rfl := Table.eq_of_key h.seatRowIds hj hq hid
      exact of_decide_eq_true hjx
    · exact fun hqx => ⟨q, List.mem_filter.2 ⟨hq, decide_eq_true hqx⟩, rfl⟩
  simp only [Database.expireRows, Database.apply, Database.expireReservation, hx]
  congr 1
  · refine List.map_congr_left fun r _ => ?_
    simp only [List.mem_singleton, Reservation.finish]
  · refine List.map_congr_left fun q hq => ?_
    simp only [hmem q hq, ReservationSeat.finish]

/-- What the guarded release of `items` relies on. -/
structure Stocked (d : Database) (items : List ReservationItem) : Prop where
  ids : (d.ticketTypes.map TicketType.id).Nodup
  checks : ∀ t ∈ d.ticketTypes, t.Checks
  quantity : ∀ i ∈ items, 0 < i.quantity
  ticketType : ∀ i ∈ items, ∃ t ∈ d.ticketTypes, t.id = i.ticketTypeId

theorem Schema.stocked (h : Schema d) {items : List ReservationItem}
    (hi : ∀ i ∈ items, i ∈ d.reservationItems) : Stocked d items :=
  ⟨h.ticketTypeIds, h.ticketTypeChecks, fun i hi' => h.itemQuantities i (hi i hi'),
    fun i hi' => h.itemTicketTypes i (hi i hi')⟩

/-- The guarded release of one item: its ticket type holds its units or not. -/
theorem run_release {i : ReservationItem} {items : List ReservationItem}
    (h : Stocked (σ.view d) (i :: items)) :
    ∃ t ∈ (σ.view d).ticketTypes, t.id = i.ticketTypeId ∧
      ((i.quantity ≤ t.reservedQuantity ∧ (moveQuantity .expired i).run d σ = (.ok true, d,
          ⟨σ.writes ++ [.addQuantities i.ticketTypeId (-i.quantity) 0],
            σ.locks ++ [.ticketType i.ticketTypeId]⟩)) ∨
        (t.reservedQuantity < i.quantity ∧
          ∃ σ', (moveQuantity .expired i).run d σ = (.ok false, d, σ'))) := by
  obtain ⟨t, ht, hti⟩ := h.ticketType i List.mem_cons_self
  refine ⟨t, ht, hti, ?_⟩
  have hmove : moveQuantity .expired i = updateTicketType i.ticketTypeId
      (fun t => t.reservedQuantity ≥ i.quantity) (-i.quantity) 0 := by
    rw [moveQuantity, if_neg (by simp)]
    rfl
  rw [hmove]
  rcases le_or_gt i.quantity t.reservedQuantity with hle | hlt
  · refine Or.inl ⟨hle, (settled_updateTicketType (K := (d = ·)) ?_).run rfl⟩
    rintro _ rfl
    have hc := h.checks t ht
    have hq := h.quantity i List.mem_cons_self
    have h1 := hc.reserved
    have h2 := hc.allocated
    refine ⟨h.ids, t, ht, hti, by simpa using hle, hc.total, by simpa using hc.sold, ?_, ?_⟩ <;>
      simp <;> omega
  · refine Or.inr ⟨hlt, ?_⟩
    have hf : (σ.view d).ticketTypes.find? (fun t => t.id = i.ticketTypeId &&
        decide (t.reservedQuantity ≥ i.quantity)) = none := by
      rw [List.find?_eq_none]
      intro t' ht'
      rw [Bool.and_eq_true, decide_eq_true_eq, decide_eq_true_eq]
      rintro ⟨hid, hge⟩
      obtain rfl := Table.eq_of_key h.ids ht' ht (hid.trans hti.symm)
      omega
    have hplan : (σ.view d).updateTicketType i.ticketTypeId
        (fun t => t.reservedQuantity ≥ i.quantity) (-i.quantity) 0 = ⟨.ok false, [], [], []⟩ := by
      rw [Database.updateTicketType, hf]
    exact ⟨_, (settled_executeOrRaise (K := (d = ·)) _ (by rintro _ rfl; exact hplan) rfl
      rfl).run rfl⟩

/-- After the release of an item the others are releasable iff all were. -/
theorem releasable_cons {i : ReservationItem} {items : List ReservationItem}
    (hi : i.status = .reserved) : d.Releasable (i :: items) ↔
      (d.apply (.addQuantities i.ticketTypeId (-i.quantity) 0)).Releasable items := by
  have key : ∀ t : TicketType, demand (i :: items) t.id ≤ t.reservedQuantity ↔
      demand items (if t.id = i.ticketTypeId then t.add (-i.quantity) 0 else t).id ≤
        (if t.id = i.ticketTypeId then t.add (-i.quantity) 0 else t).reservedQuantity := by
    intro t
    rw [demand_cons]
    by_cases ht : t.id = i.ticketTypeId
    · rw [if_pos ht, if_pos ht.symm, TicketType.add_id, TicketType.add_reservedQuantity]
      omega
    · rw [if_neg ht, if_neg (Ne.symm ht), zero_add]
  simp only [Database.Releasable, Database.apply, List.forall_mem_cons, List.forall_mem_map, hi,
    true_and, key]

theorem Stocked.release {i : ReservationItem} {items : List ReservationItem} {t : TicketType}
    (h : Stocked d (i :: items)) (ht : t ∈ d.ticketTypes) (hti : t.id = i.ticketTypeId)
    (hle : i.quantity ≤ t.reservedQuantity) :
    Stocked (d.apply (.addQuantities i.ticketTypeId (-i.quantity) 0)) items where
  ids := Table.nodup_map_key (fun t => by split_ifs <;> rfl) h.ids
  checks := by
    simp only [Database.apply, List.forall_mem_map]
    intro t' ht'
    have hc := h.checks t' ht'
    split_ifs with hid
    · obtain rfl := Table.eq_of_key h.ids ht' ht (hid.trans hti.symm)
      have hq := h.quantity i List.mem_cons_self
      have h1 := hc.allocated
      refine ⟨hc.total, by simpa using hc.sold, ?_, ?_⟩ <;> simp <;> omega
    · exact hc
  quantity := fun j hj => h.quantity j (List.mem_cons_of_mem _ hj)
  ticketType := by
    intro j hj
    obtain ⟨t', ht', hid⟩ := h.ticketType j (List.mem_cons_of_mem _ hj)
    refine ⟨_, List.mem_map_of_mem ht', ?_⟩
    split_ifs <;> exact hid

theorem demand_nonneg {items : List ReservationItem} (h : ∀ i ∈ items, 0 < i.quantity) (t : UUID) :
    0 ≤ demand items t :=
  Table.sum_nonneg fun i hi => (h i (List.mem_of_mem_filter hi)).le

/-- The program makes the session see `d₁` if `P` holds, and is refused otherwise. -/
def Decided (d : Database) (σ : Session) (p : Tx Unit) (P : Prop) (d₁ : Database) : Prop :=
  (P ∧ ∃ σ', p.run d σ = (.ok (), d, σ') ∧ σ'.view d = d₁) ∨
    (¬ P ∧ ∃ σ', p.run d σ = (.error .reservationInventoryConflictError, d, σ'))

/-- **The transition of a list of items fails iff they are not releasable.** -/
theorem run_transitionItems {items : List ReservationItem} (h : Stocked (σ.view d) items) :
    Decided d σ (transitionItems .expired items) ((σ.view d).Releasable items)
      ((σ.view d).releaseItems items) := by
  induction items generalizing σ with
  | nil =>
    refine Or.inl ⟨⟨by simp, fun t ht => ?_⟩, σ, rfl, releaseItems_nil.symm⟩
    exact (h.checks t ht).reserved
  | cons i items ih =>
    unfold Decided at ih ⊢
    rw [transitionItems]
    by_cases hi : i.status = .reserved
    · obtain ⟨t, ht, hti, ⟨hle, hrun⟩ | ⟨hlt, σ', hrun⟩⟩ := run_release h
      · -- the release succeeds: the session goes on with one more write
        rw [if_neg (by simp [hi]), Prog.bind_eq, Prog.run_bind_ok hrun]
        rw [releasable_cons hi]
        have hs := h.release ht hti hle
        let τ : Session := ⟨σ.writes ++ [.addQuantities i.ticketTypeId (-i.quantity) 0] ++
          [.setItemStatus [i.id] .expired],
          σ.locks ++ [.ticketType i.ticketTypeId] ++ [.reservationItem i.id]⟩
        have hview : τ.view d = ((σ.view d).apply (.addQuantities i.ticketTypeId (-i.quantity) 0)).apply
            (.setItemStatus [i.id] .expired) := by
          simp only [τ, Session.view, List.foldl_append]
          rfl
        have := ih (σ := τ) (by rw [hview]; exact ⟨hs.ids, hs.checks, hs.quantity, hs.ticketType⟩)
        rw [hview, releaseItems_cons] at this
        exact this
      · -- the ticket type does not hold the units of the first item
        rw [if_neg (by simp [hi]), Prog.bind_eq, Prog.run_bind_ok hrun]
        refine Or.inr ⟨fun hr => ?_, σ', rfl⟩
        have := hr.2 t ht
        rw [demand_cons, if_pos hti.symm] at this
        have := demand_nonneg (fun j hj => h.quantity j (List.mem_cons_of_mem _ hj)) t.id
        omega
    · rw [if_pos hi]
      exact Or.inr ⟨fun hr => hi (hr.1 i List.mem_cons_self), σ, rfl⟩

theorem run_transitionSeatRows (rows : List ReservationSeat) :
    Decided d σ (transitionSeatRows .expired rows) (∀ q ∈ rows, q.status = .reserved)
      ((σ.view d).expireRows rows) := by
  induction rows generalizing σ with
  | nil => exact Or.inl ⟨by simp, σ, rfl, expireRows_nil.symm⟩
  | cons q rows ih =>
    rw [transitionSeatRows]
    by_cases hq : q.status = .reserved
    · rw [if_neg (by simp [hq]), List.forall_mem_cons, and_iff_right hq, ← expireRows_cons,
        ← store_apply, ← Session.view_snoc σ _ (σ.locks ++ [.reservationSeat q.id])]
      exact ih
    · rw [if_pos hq]
      exact Or.inr ⟨fun h => hq (h q List.mem_cons_self), σ, rfl⟩

theorem Decided.setReservationStatus {p : Tx Unit} {P : Prop} {d₁ : Database}
    (h : Decided d σ p P d₁) (x : UUID) :
    Decided d σ (p.bind fun _ => TicketReservation.setReservationStatus x .expired) P
      (d₁.apply (.setReservationStatus [x] .expired)) := by
  rcases h with ⟨hP, σ', hp, rfl⟩ | ⟨hP, σ', hp⟩
  · exact Or.inl ⟨hP, _, Prog.run_bind_ok hp, Session.view_snoc σ' _ _ d⟩
  · exact Or.inr ⟨hP, σ', Prog.run_bind_error hp⟩

/-- The items of a reservation in the order of the service. -/
theorem run_transitionQuantity {x : Reservation} (h : Schema (σ.view d))
    (hkind : x.reservationType = .quantity) :
    Decided d σ (transitionQuantity x.id .expired) ((σ.view d).CanExpire x)
      ((σ.view d).releaseItems
        (orderBy ReservationItem.ticketTypeId ReservationItem.id ((σ.view d).itemsOf x.id))) := by
  set items := orderBy ReservationItem.ticketTypeId ReservationItem.id ((σ.view d).itemsOf x.id)
    with hitems
  have hperm : items.Perm ((σ.view d).itemsOf x.id) := orderBy_perm _
  have hrun : (listReservationItems x.id).run d σ = (.ok items, d, σ) :=
    (settled_read (K := (d = ·)) items (by rintro _ rfl; rfl)).run rfl
  have hstock : Stocked (σ.view d) items :=
    h.stocked fun i hi => (List.mem_filter.1 (hperm.mem_iff.1 hi)).1
  have hrel : (σ.view d).CanExpire x ↔
      (σ.view d).itemsOf x.id ≠ [] ∧ (σ.view d).Releasable items := by
    unfold Database.CanExpire
    simp only [hkind, Database.Releasable, hperm.mem_iff, demand_perm hperm, Whole.held_eq]
    rfl
  unfold Decided
  rw [hrel, transitionQuantity, Prog.bind_eq, Prog.run_bind_ok hrun]
  by_cases hnil : (σ.view d).itemsOf x.id = []
  · rw [if_pos (by rw [hitems, hnil]; rfl)]
    exact Or.inr ⟨fun hr => hr.1 hnil, σ, rfl⟩
  · rw [if_neg (by rwa [hitems, orderBy_eq_nil]), and_iff_right hnil]
    exact run_transitionItems hstock

/-- The seats of a reservation in the order of the service. -/
theorem run_transitionSeats {x : Reservation} (hkind : x.reservationType = .seats) :
    Decided d σ (transitionSeats x.id .expired) ((σ.view d).CanExpire x)
      ((σ.view d).expireRows
        (orderBy ReservationSeat.seatId ReservationSeat.id ((σ.view d).seatsOf x.id))) := by
  set rows := orderBy ReservationSeat.seatId ReservationSeat.id ((σ.view d).seatsOf x.id)
    with hrows
  have hrun : (listReservationSeats x.id).run d σ = (.ok rows, d, σ) :=
    (settled_read (K := (d = ·)) rows (by rintro _ rfl; rfl)).run rfl
  have hcan : (σ.view d).CanExpire x ↔
      (σ.view d).seatsOf x.id ≠ [] ∧ ∀ q ∈ rows, q.status = .reserved := by
    unfold Database.CanExpire
    simp only [hkind, hrows, mem_orderBy]
  unfold Decided
  rw [hcan, transitionSeats, Prog.bind_eq, Prog.run_bind_ok hrun]
  by_cases hnil : (σ.view d).seatsOf x.id = []
  · rw [if_pos (by rw [hrows, hnil]; rfl)]
    exact Or.inr ⟨fun hr => hr.1 hnil, σ, rfl⟩
  · rw [if_neg (by rwa [hrows, orderBy_eq_nil]), and_iff_right hnil]
    exact run_transitionSeatRows rows

/-- **The expiration of a RESERVED reservation fails iff it is broken.** -/
theorem run_transitionReserved {x : Reservation} (h : Schema (σ.view d)) (hx : x.status = .reserved) :
    Decided d σ (transitionReserved x .expired) ((σ.view d).CanExpire x)
      ((σ.view d).expireReservation x) := by
  rw [transitionReserved, if_neg (by simp [hx])]
  unfold transitionChildren
  cases hkind : x.reservationType with
  | quantity =>
    have := (run_transitionQuantity h hkind).setReservationStatus x.id
    rwa [releaseItems_itemsOf h hkind (orderBy_perm _)] at this
  | seats =>
    have := (run_transitionSeats (σ := σ) (d := d) hkind).setReservationStatus x.id
    rwa [expireRows_seatsOf h hkind (orderBy_perm _)] at this

/-! ## A batch -/

/-- One reservation of a batch: a failure leaves the session as it was. -/
theorem run_expireOne {x : Reservation} (h : Schema (σ.view d)) (hx : x.status = .reserved) :
    ((σ.view d).CanExpire x ∧ ∃ σ', (expireOne x).run d σ = (.ok 1, d, σ') ∧
      σ'.view d = (σ.view d).expireReservation x) ∨
    (¬ (σ.view d).CanExpire x ∧ ∃ Λ, (expireOne x).run d σ = (.ok 0, d, ⟨σ.writes, Λ⟩)) := by
  rcases run_transitionReserved h hx with ⟨hc, σ', hrun, hview⟩ | ⟨hc, σ', hrun⟩
  · refine Or.inl ⟨hc, σ', ?_, hview⟩
    simp [expireOne, Prog.beginNested, Prog.run_bind, Prog.run_tryCatch, Stmt.savepoint, hrun]
  · refine Or.inr ⟨hc, σ.locks.filter (· ∈ σ'.locks), ?_⟩
    simp [expireOne, Prog.beginNested, Prog.run_bind, Prog.run_tryCatch, Stmt.savepoint,
      Stmt.rollbackTo, hrun]

/-- **A batch processes nothing iff all its reservations are broken.** -/
theorem run_expireEach {xs : List Reservation} (h : Schema (σ.view d))
    (hx : ∀ x ∈ xs, x.status = .reserved) :
    ((∀ x ∈ xs, ¬ (σ.view d).CanExpire x) ∧
      ∃ Λ, (expireEach xs).run d σ = (.ok 0, d, ⟨σ.writes, Λ⟩)) ∨
    ((∃ x ∈ xs, (σ.view d).CanExpire x) ∧ ((expireEach xs).run d σ).1 ≠ .ok 0) := by
  induction xs generalizing σ with
  | nil => exact Or.inl ⟨by simp, σ.locks, rfl⟩
  | cons x xs ih =>
    rw [expireEach, Prog.bind_eq]
    rcases run_expireOne h (hx x List.mem_cons_self) with ⟨hc, σ', hrun, -⟩ | ⟨hc, Λ, hrun⟩
    · refine Or.inr ⟨⟨x, List.mem_cons_self, hc⟩, ?_⟩
      rw [Prog.run_bind_ok hrun, Prog.bind_eq, Prog.run_bind]
      rcases (expireEach xs).run d σ' with ⟨_ | n, _, _⟩ <;> simp
    · -- the session is as before, up to its locks
      rw [Prog.run_bind_ok hrun, Prog.bind_eq, Prog.run_bind]
      rcases ih (σ := ⟨σ.writes, Λ⟩) h (fun y hy => hx y (List.mem_cons_of_mem _ hy)) with
        ⟨hall, Λ', hrest⟩ | ⟨⟨y, hy, hyc⟩, hne⟩
      · rw [hrest]
        exact Or.inl ⟨List.forall_mem_cons.2 ⟨hc, hall⟩, Λ', rfl⟩
      · refine Or.inr ⟨⟨y, List.mem_cons_of_mem _ hy, hyc⟩, ?_⟩
        generalize (expireEach xs).run d ⟨σ.writes, Λ⟩ = a at hne
        rcases a with ⟨_ | n, _, _⟩
        · simp
        · simpa using hne

end

/-- The reservations that a worker looks for. -/
def Reservation.Stale (now : Instant) (x : Reservation) : Prop :=
  x.status = .reserved ∧ x.expiresAt < now

instance (now : Instant) (x : Reservation) : Decidable (x.Stale now) :=
  inferInstanceAs (Decidable (_ ∧ _))

/-- The stale reservations before `y` in the order `(expires_at, id)` of the worker. -/
def Database.staleBefore (d : Database) (now : Instant) (y : Reservation) : List Reservation :=
  d.reservations.filter fun x => x.Stale now ∧
    (x.expiresAt < y.expiresAt ∨ x.expiresAt = y.expiresAt ∧ x.id < y.id)

/-- **A worker that returns 0 has left no stale reservation that could be expired.** -/
def NotStarved (d : Database) (batchSize : ℕ) (now : Instant) : Prop :=
  ∀ d', (expireBatch batchSize now none).alone d = (.ok 0, d') →
    ∀ x ∈ d'.reservations, x.Stale now → ¬ d'.CanExpire x

/-- Without a list of ids the worker looks through the stale reservations. -/
theorem expiredReservations_none (d : Database) (now : Instant) : d.expiredReservations now none =
    orderBy Reservation.expiresAt Reservation.id (d.reservations.filter fun x => x.Stale now) := by
  unfold Database.expiredReservations
  congr 2
  funext x
  rw [Bool.eq_iff_iff, decide_eq_true_eq]
  simp [Reservation.Stale]

/-- The batch is the stale reservations with few stale ones before them. -/
theorem mem_batch {d : Database} (h : Schema d) {batchSize : ℕ} {now : Instant} {y : Reservation} :
    y ∈ (d.expiredReservations now none).take batchSize ↔
      y ∈ d.reservations ∧ y.Stale now ∧ (d.staleBefore now y).length < batchSize := by
  have heq := expiredReservations_none d now
  have hn : ((d.reservations.filter fun x => x.Stale now).map Reservation.id).Nodup :=
    h.reservationIds.sublist (List.filter_sublist.map _)
  have hcount : ((d.expiredReservations now none).filter fun x =>
      decide (x.expiresAt < y.expiresAt ∨ x.expiresAt = y.expiresAt ∧ x.id < y.id)).length =
        (d.staleBefore now y).length := by
    rw [heq, ((orderBy_perm _).filter _).length_eq, List.filter_filter, Database.staleBefore]
    congr 2
    funext x
    rw [Bool.decide_and, Bool.and_comm]
  rw [← hcount, ← and_assoc]
  have hmem : y ∈ d.reservations ∧ y.Stale now ↔ y ∈ d.expiredReservations now none := by
    rw [heq, mem_orderBy, List.mem_filter, decide_eq_true_eq]
  rw [hmem]
  refine Table.mem_take_iff (fun x hx => ?_) (fun x z hxz hzx => ?_) (heq ▸ orderBy_strict hn)
  · rcases hx with hx | ⟨-, hx⟩ <;> exact lt_irrefl _ hx
  · rcases hxz with hxz | ⟨hxz, hxz'⟩ <;> rcases hzx with hzx | ⟨hzx, hzx'⟩
    · exact lt_asymm hxz hzx
    · exact hxz.ne hzx.symm
    · exact hzx.ne hxz.symm
    · exact lt_asymm hxz' hzx'

theorem alone_expireBatch {d : Database} (h : Schema d) (batchSize : ℕ) (now : Instant) :
    ((∀ x ∈ (d.expiredReservations now none).take batchSize, ¬ d.CanExpire x) ∧
      (expireBatch batchSize now none).alone d = (.ok 0, d)) ∨
    ((∃ x ∈ (d.expiredReservations now none).take batchSize, d.CanExpire x) ∧
      ((expireBatch batchSize now none).alone d).1 ≠ .ok 0) := by
  obtain ⟨Λ, hlock⟩ := run_lockExpiredReservations d now batchSize none
  set xs := (d.expiredReservations now none).take batchSize with hxs
  have hx : ∀ x ∈ xs, x.status = .reserved := fun x hx => ((mem_batch h).1 hx).2.1.1
  rw [expireBatch, Prog.bind_eq, Prog.alone, Prog.run_bind_ok hlock, expireLocked]
  split_ifs with hnil
  · exact Or.inl ⟨by simp [hnil], rfl⟩
  · rw [Prog.bind_eq]
    rcases run_expireEach (σ := ⟨[], Λ⟩) h hx with ⟨hall, Λ', hrun⟩ | ⟨hex, hne⟩
    · refine Or.inl ⟨hall, ?_⟩
      rw [Prog.run_bind_ok hrun]
      rfl
    · refine Or.inr ⟨hex, ?_⟩
      rw [Prog.run_bind]
      generalize (expireEach xs).run d ⟨[], Λ⟩ = a at hne
      rcases a with ⟨_ | n, _, _⟩
      · exact hne
      · exact hne

/-- **When a worker is not starved.** -/
theorem worker_not_starved_iff {d : Database} (h : Schema d) {batchSize : ℕ} {now : Instant} :
    NotStarved d batchSize now ↔
      ((∃ x ∈ d.reservations, x.Stale now ∧ d.CanExpire x) →
        ∃ x ∈ d.reservations, x.Stale now ∧ d.CanExpire x ∧
          (d.staleBefore now x).length < batchSize) := by
  have hbatch : (∃ x ∈ (d.expiredReservations now none).take batchSize, d.CanExpire x) ↔
      ∃ x ∈ d.reservations, x.Stale now ∧ d.CanExpire x ∧
        (d.staleBefore now x).length < batchSize := by
    refine exists_congr fun x => ?_
    rw [mem_batch h]
    tauto
  rw [← hbatch]
  rcases alone_expireBatch h batchSize now with ⟨hall, heq⟩ | ⟨hex, hne⟩
  · constructor
    · rintro hns ⟨x, hx, hst, hc⟩
      exact absurd hc (hns d heq x hx hst)
    · intro hgood d' hd' x hx hst hc
      rw [heq, Prod.mk.injEq] at hd'
      obtain ⟨-, rfl⟩ := hd'
      obtain ⟨y, hy, hyc⟩ := hgood ⟨x, hx, hst, hc⟩
      exact hall y hy hyc
  · constructor
    · exact fun _ _ => hex
    · intro _ d' hd'
      rw [hd'] at hne
      exact absurd rfl hne

/-! ## A starved worker -/

/-- The reservation 100 has no item; the reservation 101 could be expired, but its hold lapses
    later. -/
def Sample.broken : Database where
  visitorSessions := [alice]
  events := [⟨10, "Concert", 0, 1⟩]
  ticketTypes := [⟨20, 10, "General", 5, 0, 2⟩]
  reservations := [⟨100, 10, 1, none, .reserved, .quantity, "a", 5⟩,
    ⟨101, 10, 1, none, .reserved, .quantity, "b", 6⟩]
  reservationItems := [⟨200, 101, 20, 2, .reserved⟩]

theorem Sample.schema_broken : Schema broken := by
  constructor
  · constructor <;> decide
  all_goals decide

/-- The reservation of `broken` that could be expired. -/
def Sample.good : Reservation := ⟨101, 10, 1, none, .reserved, .quantity, "b", 6⟩

theorem worker_not_starved_two : NotStarved Sample.broken 2 10 :=
  (worker_not_starved_iff Sample.schema_broken).2 fun _ =>
    ⟨Sample.good, by decide, by decide, by decide, by decide⟩

/-- **A worker with batch size 1 is starved by one broken reservation.** -/
theorem worker_starved : ∃ d batchSize now, Schema d ∧ 1 ≤ batchSize ∧ ¬ NotStarved d batchSize now := by
  refine ⟨Sample.broken, 1, 10, Sample.schema_broken, le_rfl, fun h => ?_⟩
  exact h Sample.broken (by decide) Sample.good (by decide) (by decide) (by decide)

end TicketReservation
