/-
  A quantity reservation takes effect atomically.

  The look-up before the stock update is not protected by any lock; the unique
  index makes up for it.  A call that finds its key used replays; a call that
  finds no stock, or loses at an `INSERT`, is refused or replays
  (`Atomic.Replay`); a call whose two `INSERT`s succeed holds the locks of
  everything it has checked until it commits.
-/
import TicketReservation.Atomic.Replay

namespace TicketReservation

open Txn

/-! ## The look-up -/

section
variable {d : Database} {u : UUID} {k : String}

theorem quantityRecords_of_mem (hi : Inv d) {r : Reservation} (hr : r ∈ d.reservations)
    (hq : r.reservationType = .quantity) : ∃ i, d.itemsOf r.id = [i] ∧
      d.quantityRecords r.visitorSessionId r.idempotencyKey =
        [⟨r.id, r.status, .quantity, r.expiresAt, i.ticketTypeId, i.quantity⟩] := by
  obtain ⟨i, hit⟩ := hi.oneItem r hr hq
  refine ⟨i, hit, ?_⟩
  rw [Database.quantityRecords, Table.filter_unique hi.visitorKeys
    (k := (r.visitorSessionId, r.idempotencyKey)) (by simp +contextual) hr (by simp [hq])]
  simp [hit, hq]

theorem quantityRecords_eq_nil (h : ¬ d.KeyUsed u k .quantity) : d.quantityRecords u k = [] := by
  rw [Database.quantityRecords, List.filter_eq_nil_iff.2, List.flatMap_nil]
  intro r hr hp
  simp only [Bool.and_eq_true, decide_eq_true_eq] at hp
  exact h ⟨r, hr, hp.1.1, hp.1.2, hp.2⟩

theorem finds_quantityLookup (hk : Storable k) : Finds (·.quantityLookup u k) u k .quantity := by
  intro d hi
  simp only [Database.quantityLookup, if_neg (not_not.2 hk)]
  by_cases h : d.KeyUsed u k .quantity
  · obtain ⟨r, hr, rfl, rfl, hq⟩ := h
    obtain ⟨i, -, heq⟩ := quantityRecords_of_mem hi hr hq
    exact Or.inl ⟨⟨r, hr, rfl, rfl, hq⟩, _, by rw [heq]⟩
  · exact Or.inr ⟨h, by rw [quantityRecords_eq_nil h]⟩

end

/-! ## The reservation -/

/-- The `WHERE` of `reserve_ticket_quantity` finds its row. -/
def Database.Stock (d : Database) (eventId ticketTypeId : UUID) (quantity : ℤ) : Prop :=
  ∃ t ∈ d.ticketTypes, t.id = ticketTypeId ∧ t.eventId = eventId ∧
    quantity ≤ t.totalQuantity - t.soldQuantity - t.reservedQuantity

theorem keeps_stock {Λ : List Lock} {e t : UUID} {q : ℤ} (hl : .ticketType t ∈ Λ) :
    protocol.Keeps Λ fun d => d.Stock e t q := by
  have := keeps_ticketType hl fun l => ∃ r ∈ l, r.eventId = e ∧
    q ≤ r.totalQuantity - r.soldQuantity - r.reservedQuantity
  intro Λ' d d' hi hd hs h
  have key : ∀ d : Database, d.Stock e t q ↔ ∃ r ∈ d.ticketTypes.filter fun r => r.id = t,
      r.eventId = e ∧ q ≤ r.totalQuantity - r.soldQuantity - r.reservedQuantity := by
    intro d
    simp only [Database.Stock, List.mem_filter, decide_eq_true_eq, and_assoc]
  exact (key d').2 (this hi hd hs ((key d).1 h))

namespace QuantityReservationService

section
variable (settings : Settings) (visitorSession : VisitorSession) (eventId ticketTypeId : UUID)
  (quantity : ℤ) (idempotencyKey : String) (uuid4 : ℕ → UUID) (now : Instant)

/-- What `reserve` would create fits. -/
abbrev CanReserve (d : Database) : Prop :=
  NewQuantity d (newReservation settings visitorSession eventId idempotencyKey uuid4 now)
    (newItem ticketTypeId quantity uuid4)

/-- What `reserve` answers when it creates its reservation. -/
def created : QuantityReservationResponse :=
  ⟨uuid4 0, .reserved, .quantity, settings.expiresAt now, [⟨ticketTypeId, quantity⟩]⟩

/-- **What `reserve` answers and leaves.** -/
def reserveOutcome (d : Database) : Except Error QuantityReservationResponse × Database :=
  match d.quantityLookup visitorSession.id idempotencyKey with
  | .error e => (.error e, d)
  | .ok (some existing) => (.ok (toResponse existing), d)
  | .ok none =>
    if ¬ Int32 quantity then (.error .dataError, d)
    else if CanReserve settings visitorSession eventId ticketTypeId quantity idempotencyKey uuid4 now
        d then
      (.ok (created settings ticketTypeId quantity uuid4 now), d.addQuantity
        (newReservation settings visitorSession eventId idempotencyKey uuid4 now)
        (newItem ticketTypeId quantity uuid4))
    else (.error .quantityReservationConflictError, d)

variable {settings visitorSession eventId ticketTypeId quantity idempotencyKey uuid4 now}
variable {d : Database}

theorem canReserve_iff (hk : Storable idempotencyKey) (hq : 0 < quantity) :
    CanReserve settings visitorSession eventId ticketTypeId quantity idempotencyKey uuid4 now d ↔
      d.Stock eventId ticketTypeId quantity ∧
      (newReservation settings visitorSession eventId idempotencyKey uuid4 now).Fits d ∧
      ∀ i ∈ d.reservationItems, i.id ≠ uuid4 1 :=
  ⟨fun h => ⟨h.stock, h.fits, h.itemId⟩,
    fun ⟨h1, h2, h3⟩ => ⟨h2, hk, rfl, rfl, rfl, rfl, h3, hq, h1⟩⟩

/-- The guarded update of `reserve_ticket_quantity`. -/
theorem reserve_updateTicketType (hi : Inv d) (hq : 0 < quantity) :
    (d.Stock eventId ticketTypeId quantity ∧ d.updateTicketType ticketTypeId (fun t =>
        t.eventId = eventId && t.totalQuantity - t.soldQuantity - t.reservedQuantity ≥ quantity)
        quantity 0 = ⟨.ok true, [], [.ticketType ticketTypeId],
          [.addQuantities ticketTypeId quantity 0]⟩) ∨
      (¬ d.Stock eventId ticketTypeId quantity ∧ d.updateTicketType ticketTypeId (fun t =>
        t.eventId = eventId && t.totalQuantity - t.soldQuantity - t.reservedQuantity ≥ quantity)
        quantity 0 = ⟨.ok false, [], [], []⟩) := by
  unfold Database.updateTicketType
  cases hf : d.ticketTypes.find? fun t => t.id = ticketTypeId && (t.eventId = eventId &&
    t.totalQuantity - t.soldQuantity - t.reservedQuantity ≥ quantity) with
  | none =>
    refine Or.inr ⟨?_, rfl⟩
    rintro ⟨t, ht, h1, h2, h3⟩
    exact List.find?_eq_none.1 hf t ht (by simp [h1, h2, h3])
  | some t =>
    have ht := List.mem_of_find?_eq_some hf
    have hg := List.find?_some hf
    simp only [Bool.and_eq_true, decide_eq_true_eq, ge_iff_le] at hg
    obtain ⟨h1, h2, h3⟩ := hg
    have hc := hi.ticketTypeChecks t ht
    have hchecks : (t.add quantity 0).Checks := by
      have := hc.reserved
      refine ⟨hc.total, by simpa using hc.sold, ?_, ?_⟩ <;> simp <;> omega
    exact Or.inl ⟨⟨t, ht, h1, h2, h3⟩, by simp only [if_pos hchecks]⟩

/-- The session after the stock update. -/
abbrev stocked (ticketTypeId : UUID) (quantity : ℤ) : Session :=
  ⟨[.addQuantities ticketTypeId quantity 0], [.ticketType ticketTypeId]⟩

theorem fits_stocked (x : Reservation) : x.Fits ((stocked ticketTypeId quantity).view d) ↔ x.Fits d :=
  ⟨fun h => ⟨h.1, h.2, h.3, h.4, h.5⟩, fun h => ⟨h.1, h.2, h.3, h.4, h.5⟩⟩

/-- The item fits after the header if its id is fresh. -/
theorem item_fits {x : Reservation} {i : ReservationItem} {σ : Session}
    (hσ : σ.writes = [.addQuantities i.ticketTypeId i.quantity 0, .insertReservation x])
    (hx : i.reservationId = x.id) (hs : d.Stock eventId i.ticketTypeId i.quantity)
    (hq : 0 < i.quantity) : i.Fits (σ.view d) ↔ ∀ j ∈ d.reservationItems, j.id ≠ i.id := by
  simp only [Session.view, hσ, List.foldl_cons, List.foldl_nil, store_apply, Database.apply]
  constructor
  · exact fun h => h.id
  · intro h
    obtain ⟨t, ht, htid, -⟩ := hs
    exact ⟨h, ⟨x, by simp, hx.symm⟩,
      ⟨t.add i.quantity 0, List.mem_map.2 ⟨t, ht, if_pos htid⟩, htid⟩, hq⟩

/-! ### Under interference -/

section
variable {spec : Database → Except Error Response → Database → Prop}
  {f : QuantityReservationResponse → Response}

/-- The two `INSERT`s and the commit. -/
theorem wp_create (hk : Storable idempotencyKey) (hpos : 0 < quantity)
    (hrefused : ∀ d, Inv d → d.quantityLookup visitorSession.id idempotencyKey = .ok none →
      ¬ CanReserve settings visitorSession eventId ticketTypeId quantity idempotencyKey uuid4 now d →
      spec d (.error .quantityReservationConflictError) d)
    (hcreated : ∀ d, Inv d → d.quantityLookup visitorSession.id idempotencyKey = .ok none →
      CanReserve settings visitorSession eventId ticketTypeId quantity idempotencyKey uuid4 now d →
      spec d (.ok (f (created settings ticketTypeId quantity uuid4 now))) (d.addQuantity
        (newReservation settings visitorSession eventId idempotencyKey uuid4 now)
        (newItem ticketTypeId quantity uuid4)))
    {v : CallPoint}
    (hv : v.At (stocked ticketTypeId quantity) fun d => d.Stock eventId ticketTypeId quantity) :
    wp spec (create (newReservation settings visitorSession eventId idempotencyKey uuid4 now)
        (newItem ticketTypeId quantity uuid4)) (fun
      | .ok a => Answers spec (.ok (f a))
      | .error e => fun v => e = .integrityError ∧ Loses spec
          (·.quantityLookup visitorSession.id idempotencyKey) .quantityReservationConflictError v)
      v := by
  have hstock : ∀ Λ : List Lock, .ticketType ticketTypeId ∈ Λ →
      protocol.Keeps Λ fun d => d.Stock eventId ticketTypeId quantity := fun Λ => keeps_stock
  refine wp_bind (wp_flushInsert ((finds_quantityLookup hk).keeps) (hstock _ (by simp)) (fun v hv => ?_)
    (fun v hv hf => ?_) (fun v hv => ⟨rfl, hv⟩) hv)
  swap
  · exact Loses.of_refused (finds_quantityLookup hk) hv.promise fun hnone =>
      hrefused v.db v.inv hnone fun hc => hf ((fits_stocked _).2 hc.fits)
  have hv : v.At _ fun d => d.Stock eventId ticketTypeId quantity ∧
      (newReservation settings visitorSession eventId idempotencyKey uuid4 now).Fits d :=
    hv.mono fun d _ h => ⟨h.1, (fits_stocked _).1 h.2⟩
  refine wp_bind (wp_flushInsert ((finds_quantityLookup hk).keeps) ((hstock _ (by simp)).and
    (keeps_fits (by simp) (by simp))) (fun v hv => ?_)
    (fun v hv hf => ?_) (fun v hv => ⟨rfl, hv⟩) hv)
  swap
  · exact Loses.of_refused (finds_quantityLookup hk) hv.promise fun hnone =>
      hrefused v.db v.inv hnone fun hc => hf ((item_fits rfl rfl hv.known.1 hpos).2 hc.itemId)
  have hv : v.At _ fun d => (d.Stock eventId ticketTypeId quantity ∧
      (newReservation settings visitorSession eventId idempotencyKey uuid4 now).Fits d) ∧
      ∀ i ∈ d.reservationItems, i.id ≠ uuid4 1 :=
    hv.mono fun d _ h => ⟨h.1, (item_fits rfl rfl h.1.1 hpos).1 h.2⟩
  refine wp_bind (wp_commitTx_at (((hstock _ (by simp)).and (keeps_fits (by simp) (by simp))).and
    (keeps_itemId (by simp [newItem]))) ?_ (fun v hv => Or.inl hv) hv)
  rintro d hi ⟨⟨hs, hx⟩, hid⟩
  have hc : CanReserve settings visitorSession eventId ticketTypeId quantity idempotencyKey uuid4
      now d := (canReserve_iff hk hpos).2 ⟨hs, hx, hid⟩
  rcases finds_quantityLookup (u := visitorSession.id) hk d hi with ⟨⟨r, hr, h1, h2, -⟩, -⟩ | ⟨-, hnone⟩
  · exact absurd ⟨h1, h2⟩ (hx.visitorKey r hr)
  · refine ⟨.single (Effect.addQuantity _ _ hc ?_ ?_ ?_ ?_), hcreated d hi hnone hc⟩ <;>
      simp [newItem]

end

/-- The rest of `reserve` when its key is not used: the stock update and what
    follows. -/
theorem wp_reserve_stock (hk : Storable idempotencyKey) (hq : Int32 quantity) (hpos : 0 < quantity)
    {spec : Database → Except Error Response → Database → Prop}
    {f : QuantityReservationResponse → Response}
    (hused : ∀ d a, Inv d → d.quantityLookup visitorSession.id idempotencyKey = .ok (some a) →
      spec d (.ok (f (toResponse a))) d)
    (hrefused : ∀ d, Inv d → d.quantityLookup visitorSession.id idempotencyKey = .ok none →
      ¬ CanReserve settings visitorSession eventId ticketTypeId quantity idempotencyKey uuid4 now d →
      spec d (.error .quantityReservationConflictError) d)
    (hcreated : ∀ d, Inv d → d.quantityLookup visitorSession.id idempotencyKey = .ok none →
      CanReserve settings visitorSession eventId ticketTypeId quantity idempotencyKey uuid4 now d →
      spec d (.ok (f (created settings ticketTypeId quantity uuid4 now))) (d.addQuantity
        (newReservation settings visitorSession eventId idempotencyKey uuid4 now)
        (newItem ticketTypeId quantity uuid4)))
    {v : CallPoint} (hv : v.At ∅ fun _ => True) :
    wp spec (do
      let stockReserved ← reserveTicketQuantity eventId ticketTypeId quantity
      if !stockReserved then resolveConflictOrReplay visitorSession.id idempotencyKey
      else
        (create (newReservation settings visitorSession eventId idempotencyKey uuid4 now)
          (newItem ticketTypeId quantity uuid4)).tryCatch fun e =>
            if e = .integrityError then resolveConflictOrReplay visitorSession.id idempotencyKey
            else .raise e)
      (fun r => Answers spec (r.map f)) v := by
  have htrue : protocol.Keeps ([] : List Lock) fun _ => True := .const
  have hresolve : ∀ v : CallPoint, Loses spec (·.quantityLookup visitorSession.id idempotencyKey)
      .quantityReservationConflictError v →
      wp spec (resolveConflictOrReplay visitorSession.id idempotencyKey)
        (fun r => Answers spec (r.map f)) v := fun v hv =>
    wp_resolve (finds_quantityLookup hk) hused hv
  rw [reserveTicketQuantity, if_pos hq]
  refine wp_bind (wp_bind (wp_exec (Point.At.stable htrue) (fun v hv => hv.promise)
    (fun v _ hv _ => ?_) hv))
  obtain ⟨hp, hσ, -⟩ := hv
  simp only [Stmt.ofPlan, hσ, Session.view_empty]
  have hupdate : (v.db.Stock eventId ticketTypeId quantity ∧ _) ∨ _ :=
    reserve_updateTicketType v.inv hpos
  rcases hupdate with ⟨hs, heq⟩ | ⟨hs, heq⟩
  · rw [heq]
    refine wp_tryCatch (wp_mono (fun r v hr => ?_) (wp_create hk hpos hrefused hcreated
      (v := v.goto (stocked ticketTypeId quantity)) ⟨hp, rfl, hs⟩))
    cases r with
    | ok a => exact hr
    | error e =>
      obtain ⟨rfl, hl⟩ := hr
      exact hresolve v hl
  · rw [heq]
    exact hresolve _ (Loses.of_refused (finds_quantityLookup hk) hp fun hnone =>
      hrefused v.db v.inv hnone fun hc => hs hc.stock)

/-- **`QuantityReservationService.reserve` takes effect atomically.** -/
theorem atomically_reserve (hpos : 0 < quantity) (f : QuantityReservationResponse → Response) :
    Atomically (reserve settings visitorSession eventId ticketTypeId quantity idempotencyKey uuid4 now)
      (reserveOutcome settings visitorSession eventId ticketTypeId quantity idempotencyKey uuid4 now)
      f := by
  intro d hd
  have htrue : Stable (Point.At (P := protocol) (W := Write) (R := Except Error Response) ∅
      fun _ => True) := Point.At.stable .const
  refine wp_map (wp_bind (wp_bind (wp_exec htrue (fun v hv => hv.promise) (fun v _ hv _ => ?_)
    ⟨rfl, rfl, trivial⟩)))
  obtain ⟨hp, hσ, -⟩ := hv
  simp only [Stmt.ofPlan, hσ, Session.view_empty]
  cases h : v.db.quantityLookup visitorSession.id idempotencyKey with
  | error e =>
    exact (could_of_outcome (r := .error e) hp (by simp only [reserveOutcome, h])).answers
  | ok o =>
    cases o with
    | some a =>
      exact (could_of_outcome (r := .ok (toResponse a)) hp
        (by simp only [reserveOutcome, h])).answers
    | none =>
      have hk : Storable idempotencyKey := by
        by_contra hk
        simp [Database.quantityLookup, hk] at h
      by_cases hq : Int32 quantity
      · refine wp_reserve_stock hk hq hpos (fun d a hi ha => ?_) (fun d hi hnone hc => ?_)
          (fun d hi hnone hc => ?_) ⟨hp, rfl, trivial⟩
        · exact gives_of_outcome (r := .ok (toResponse a)) hi (by rw [reserveOutcome, ha])
        · exact gives_of_outcome (r := .error Error.quantityReservationConflictError) hi
            (by simp only [reserveOutcome, hnone, if_neg (not_not.2 hq), if_neg hc])
        · exact gives_of_outcome (r := .ok (created settings ticketTypeId quantity uuid4 now)) hi
            (by simp only [reserveOutcome, hnone, if_neg (not_not.2 hq), if_pos hc])
      · rw [reserveTicketQuantity, if_neg hq]
        exact (could_of_outcome (r := .error Error.dataError) hp
          (by simp only [reserveOutcome, h, if_pos hq])).answers

end

end QuantityReservationService

end TicketReservation
