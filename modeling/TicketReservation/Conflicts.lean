/-
  What the answers of `reserve` tell the client.

  A conflict (`INSUFFICIENT_STOCK`, `SEAT_UNAVAILABLE`) is an `IntegrityError`
  or a failed update without a reservation to replay.  The look-up of the
  replay sees one kind of reservation, the unique index of the keys sees both:
  `conflict_iff` says what the conflict means in each service, and
  `conflict_truthful_iff` when it is what the client is told.
-/
import TicketReservation.Runs
import TicketReservation.Outcomes

namespace TicketReservation

open Txn

section
variable {settings : Settings} {d : Database} {u : UUID} {k : String} {kind kind' : ReservationType}

/-! ## Keys -/

theorem KeyUsed.storable (hd : Inv d) (h : d.KeyUsed u k kind) : Storable k := by
  obtain ⟨r, hr, -, rfl, -⟩ := h
  exact hd.reservationKeys r hr

/-- A key is used by one reservation. -/
theorem KeyUsed.kind_eq (hd : Inv d) (h : d.KeyUsed u k kind) (h' : d.KeyUsed u k kind') :
    kind = kind' := by
  obtain ⟨r, hr, rfl, rfl, rfl⟩ := h
  obtain ⟨r', hr', hu, hk, rfl⟩ := h'
  rw [Table.eq_of_key hd.visitorKeys hr hr' (by rw [hu, hk])]

theorem quantityLookup_eq_none (hd : Inv d) :
    d.quantityLookup u k = .ok none ↔ Storable k ∧ ¬ d.KeyUsed u k .quantity := by
  by_cases hk : Storable k
  · rcases finds_quantityLookup (u := u) hk d hd with ⟨hused, a, ha⟩ | ⟨hfree, hnone⟩
    · simp [show d.quantityLookup u k = .ok (some a) from ha, hused]
    · exact iff_of_true hnone ⟨hk, hfree⟩
  · simp [Database.quantityLookup, hk]

theorem quantityLookup_ne_conflict :
    d.quantityLookup u k ≠ .error .quantityReservationConflictError := by
  unfold Database.quantityLookup
  split_ifs
  · split <;> simp
  · simp

theorem seatLookup_eq_none (hd : Inv d) :
    d.seatLookup u k = .ok none ↔ Storable k ∧ ¬ d.KeyUsed u k .seats := by
  by_cases hk : Storable k
  · rcases finds_seatLookup (u := u) hk d hd with ⟨hused, a, ha⟩ | ⟨hfree, hnone⟩
    · simp [show d.seatLookup u k = .ok (some a) from ha, hused]
    · exact iff_of_true hnone ⟨hk, hfree⟩
  · simp [Database.seatLookup, hk]

theorem seatLookup_ne_conflict : d.seatLookup u k ≠ .error .seatReservationConflictError := by
  unfold Database.seatLookup
  split_ifs
  · split <;> simp
  · simp

/-- The ids that a call draws are new. -/
structure FreshIds (d : Database) (uuid4 : ℕ → UUID) : Prop where
  injective : Function.Injective uuid4
  reservation : ∀ r ∈ d.reservations, ∀ n, r.id ≠ uuid4 n
  item : ∀ i ∈ d.reservationItems, ∀ n, i.id ≠ uuid4 n
  seat : ∀ s ∈ d.reservationSeats, ∀ n, s.id ≠ uuid4 n

/-- A new header fits iff its key is not used, by either kind of reservation. -/
theorem fits_iff {visitorSession : VisitorSession} {x : Reservation} (hd : Inv d)
    (hv : visitorSession ∈ d.visitorSessions) (hx : x.visitorSessionId = visitorSession.id)
    (hu : x.userId = visitorSession.userId) (hid : ∀ r ∈ d.reservations, r.id ≠ x.id)
    (he : ∃ e ∈ d.events, e.id = x.eventId) :
    x.Fits d ↔ ¬ d.KeyUsed x.visitorSessionId x.idempotencyKey .quantity ∧
      ¬ d.KeyUsed x.visitorSessionId x.idempotencyKey .seats := by
  constructor
  · intro h
    have hfree : ∀ kind, ¬ d.KeyUsed x.visitorSessionId x.idempotencyKey kind := by
      rintro kind ⟨r, hr, h1, h2, -⟩
      exact h.visitorKey r hr ⟨h1, h2⟩
    exact ⟨hfree _, hfree _⟩
  · rintro ⟨hq, hs⟩
    refine ⟨hid, fun r hr hkey => ?_, he, ⟨visitorSession, hv, hx.symm⟩, ?_⟩
    · cases hty : r.reservationType with
      | quantity => exact hq ⟨r, hr, hkey.1, hkey.2, hty⟩
      | seats => exact hs ⟨r, hr, hkey.1, hkey.2, hty⟩
    · rw [hu]
      exact hd.sessionUsers visitorSession hv

end

/-! ## The conflict of a quantity reservation -/

/-- The ticket type does not belong to the event, or has too few units left. -/
def Database.OutOfStock (d : Database) (eventId ticketTypeId : UUID) (quantity : ℤ) : Prop :=
  ∀ t ∈ d.ticketTypes, t.id = ticketTypeId →
    t.eventId ≠ eventId ∨ t.totalQuantity - t.soldQuantity - t.reservedQuantity < quantity

theorem not_outOfStock {d : Database} {eventId ticketTypeId : UUID} {quantity : ℤ} :
    ¬ d.OutOfStock eventId ticketTypeId quantity ↔ d.Stock eventId ticketTypeId quantity := by
  simp only [Database.OutOfStock, Database.Stock]
  push Not
  rfl

namespace QuantityReservationService

section
variable {settings : Settings} {visitorSession : VisitorSession} {eventId ticketTypeId : UUID}
  {quantity : ℤ} {idempotencyKey : String} {uuid4 : ℕ → UUID} {now : Instant} {d : Database}

theorem canReserve_iff_key (hd : Inv d) (hv : visitorSession ∈ d.visitorSessions)
    (hids : FreshIds d uuid4) (hk : Storable idempotencyKey) (hq : 0 < quantity) :
    CanReserve settings visitorSession eventId ticketTypeId quantity idempotencyKey uuid4 now d ↔
      d.Stock eventId ticketTypeId quantity ∧
        ¬ d.KeyUsed visitorSession.id idempotencyKey .quantity ∧
        ¬ d.KeyUsed visitorSession.id idempotencyKey .seats := by
  rw [canReserve_iff hk hq]
  refine and_congr_right fun ⟨t, ht, _, hte, _⟩ => ?_
  obtain ⟨e, he, heid⟩ := hd.ticketTypeEvents t ht
  rw [fits_iff hd hv rfl rfl (fun r hr => hids.reservation r hr 0) ⟨e, he, heid.trans hte⟩]
  exact and_iff_left fun i hi => hids.item i hi 1

/-- **What a conflict of `QuantityReservationService.reserve` means.** -/
theorem conflict_iff (hd : Inv d) (hv : visitorSession ∈ d.visitorSessions) (hids : FreshIds d uuid4)
    (hq : 0 < quantity) :
    (reserveOutcome settings visitorSession eventId ticketTypeId quantity idempotencyKey uuid4 now
        d).1 = .error .quantityReservationConflictError ↔
      Storable idempotencyKey ∧ ¬ d.KeyUsed visitorSession.id idempotencyKey .quantity ∧
        Int32 quantity ∧ (d.OutOfStock eventId ticketTypeId quantity ∨
          d.KeyUsed visitorSession.id idempotencyKey .seats) := by
  have hsplit : (reserveOutcome settings visitorSession eventId ticketTypeId quantity idempotencyKey
      uuid4 now d).1 = .error .quantityReservationConflictError ↔
      d.quantityLookup visitorSession.id idempotencyKey = .ok none ∧ Int32 quantity ∧
        ¬ CanReserve settings visitorSession eventId ticketTypeId quantity idempotencyKey uuid4 now
          d := by
    unfold reserveOutcome
    cases h : d.quantityLookup visitorSession.id idempotencyKey with
    | error e =>
      have := h ▸ quantityLookup_ne_conflict (d := d) (u := visitorSession.id) (k := idempotencyKey)
      simpa using this
    | ok o => cases o with
      | some a => simp
      | none =>
        simp only [true_and]
        split_ifs with hi hc
        · simp [hc]
        · exact iff_of_true rfl ⟨hi, hc⟩
        · exact iff_of_false (by simp) fun h => hi h.1
  rw [hsplit, quantityLookup_eq_none hd, and_assoc]
  refine and_congr_right fun hk => and_congr_right fun hfree => and_congr_right fun _ => ?_
  rw [canReserve_iff_key hd hv hids hk hq, ← not_outOfStock, and_iff_right hfree, not_and_or, not_not,
    not_not]

/-- A key that cannot be stored fails at the look-up. -/
theorem reserveOutcome_unstorable (hk : ¬ Storable idempotencyKey) :
    reserveOutcome settings visitorSession eventId ticketTypeId quantity idempotencyKey uuid4 now d =
      (.error .dataError, d) := by
  simp only [reserveOutcome, Database.quantityLookup, eq_true hk, if_true]

/-- With a fresh key `reserve` is decided by the stock. -/
theorem reserveOutcome_fresh (hd : Inv d) (hv : visitorSession ∈ d.visitorSessions)
    (hids : FreshIds d uuid4) (hk : Storable idempotencyKey)
    (hkey : ∀ kind, ¬ d.KeyUsed visitorSession.id idempotencyKey kind) (hq : 0 < quantity)
    (hint : Int32 quantity) :
    (d.Stock eventId ticketTypeId quantity →
      reserveOutcome settings visitorSession eventId ticketTypeId quantity idempotencyKey uuid4 now d =
        (.ok (created settings ticketTypeId quantity uuid4 now), d.addQuantity
          (newReservation settings visitorSession eventId idempotencyKey uuid4 now)
          (newItem ticketTypeId quantity uuid4))) ∧
    (¬ d.Stock eventId ticketTypeId quantity →
      reserveOutcome settings visitorSession eventId ticketTypeId quantity idempotencyKey uuid4 now d =
        (.error .quantityReservationConflictError, d)) := by
  have hcan : CanReserve settings visitorSession eventId ticketTypeId quantity idempotencyKey uuid4 now
      d ↔ d.Stock eventId ticketTypeId quantity := by
    rw [canReserve_iff_key hd hv hids hk hq, and_iff_left ⟨hkey _, hkey _⟩]
  simp only [reserveOutcome, (quantityLookup_eq_none hd).2 ⟨hk, hkey _⟩, not_not.2 hint, if_false]
  exact ⟨fun h => if_pos (hcan.2 h), fun h => if_neg (mt hcan.1 h)⟩

end

end QuantityReservationService

/-! ## The conflict of a seat reservation -/

/-- A seat has a CONFIRMED hold, or a RESERVED one that expires later than `now`. -/
def Database.SeatTaken (d : Database) (seatIds : List UUID) (now : Instant) : Prop :=
  ∃ q ∈ d.reservationSeats, q.seatId ∈ seatIds ∧
    (q.status = .confirmed ∨ (q.status = .reserved ∧ now < q.expiresAt))

instance (d : Database) (seatIds : List UUID) (now : Instant) : Decidable (d.SeatTaken seatIds now) :=
  inferInstanceAs (Decidable (∃ q ∈ d.reservationSeats, _))

/-- The seats belong to the event. -/
def Database.HasSeats (d : Database) (eventId : UUID) (seatIds : List UUID) : Prop :=
  ∀ s ∈ seatIds, ∃ c ∈ d.seats, c.id = s ∧ c.eventId = eventId

/-- The seats that `lock_event_seats` locks are all the requested ones iff they belong to the event. -/
theorem eventSeats_eq_iff {d : Database} (hd : Inv d) {eventId : UUID} {seatIds : List UUID}
    (hn : seatIds.Nodup) : d.eventSeats eventId (seatIds.insertionSort (· ≤ ·)) =
      seatIds.insertionSort (· ≤ ·) ↔ d.HasSeats eventId seatIds := by
  constructor
  · intro h s hs
    exact exists_seat_of_eventSeats h s (by rwa [List.mem_insertionSort])
  · intro h
    -- both sides are sorted and have the same elements
    refine List.Perm.eq_of_pairwise' (List.pairwise_insertionSort _ _)
      (List.pairwise_insertionSort _ _) ?_
    refine (List.perm_insertionSort _ _).trans (((List.perm_ext_iff_of_nodup ?_ hn).2 ?_).trans
      (List.perm_insertionSort _ _).symm)
    · exact hd.seatIds.sublist (List.filter_sublist.map _)
    · intro s
      simp only [List.mem_map, List.mem_filter, List.mem_insertionSort, Bool.and_eq_true,
        decide_eq_true_eq]
      constructor
      · rintro ⟨c, ⟨-, -, hc⟩, rfl⟩
        exact hc
      · intro hs
        obtain ⟨c, hc, rfl, hce⟩ := h s hs
        exact ⟨c, ⟨hc, hce, hs⟩, rfl⟩

/-- The active holds on the seats are the lapsed ones iff no seat is taken. -/
theorem not_seatTaken_iff {d : Database} (hd : Inv d) {seatIds : List UUID} {now : Instant} :
    ¬ d.SeatTaken seatIds now ↔ ∀ q ∈ d.reservationSeats, q.seatId ∈ seatIds → q.status.active →
      q.reservationId ∈ d.staleHolders seatIds now := by
  constructor
  · intro h q hq hs ha
    refine mem_staleHolders.2 ⟨q, hq, rfl, hs, ?_⟩
    have hfree : ¬ (q.status = .confirmed ∨ (q.status = .reserved ∧ now < q.expiresAt)) :=
      fun htaken => h ⟨q, hq, hs, htaken⟩
    cases hst : q.status <;> simp_all
  · rintro h ⟨q, hq, hs, htaken⟩
    have ha : q.status.active := by rcases htaken with h | ⟨h, -⟩ <;> simp [h]
    -- another hold of the same reservation has lapsed, so this one has
    obtain ⟨q', hq', hqq, -, hst', hle⟩ := mem_staleHolders.1 (h q hq hs ha)
    obtain ⟨r, hr, hrq, -, hst, hex, -⟩ := hd.seat q hq
    obtain ⟨r', hr', hrq', -, hst₁, hex₁, -⟩ := hd.seat q' hq'
    obtain rfl := hd.eq_of_id hr hr' (hrq.trans (hqq.symm.trans hrq'.symm))
    rcases htaken with hc | ⟨-, hlt⟩
    · rw [hst, ← hst₁, hst'] at hc
      cases hc
    · rw [hex, ← hex₁] at hlt
      exact absurd hle (not_le.2 hlt)

namespace SeatReservationService

section
variable {settings : Settings} {visitorSession : VisitorSession} {eventId : UUID}
  {seatIds orderedSeatIds : List UUID} {idempotencyKey : String} {uuid4 : ℕ → UUID} {now : Instant}
  {d : Database}

theorem newSeats_ids_nodup (h : Function.Injective uuid4) :
    ((newSeats settings orderedSeatIds uuid4 now).map ReservationSeat.id).Nodup :=
  Table.nodup_mapIdx_key fun _ _ _ _ heq => Nat.succ_injective (h heq)

theorem canReserve_iff (hd : Inv d) (hv : visitorSession ∈ d.visitorSessions)
    (hids : FreshIds d uuid4) (hk : Storable idempotencyKey) (hne : orderedSeatIds ≠ [])
    (hn : orderedSeatIds.Nodup) (hseats : d.HasSeats eventId orderedSeatIds) :
    CanReserve settings visitorSession eventId orderedSeatIds idempotencyKey uuid4 now d ↔
      ¬ d.SeatTaken orderedSeatIds now ∧
        ¬ d.KeyUsed visitorSession.id idempotencyKey .quantity ∧
        ¬ d.KeyUsed visitorSession.id idempotencyKey .seats := by
  have hrow : ∀ r ∈ newSeats settings orderedSeatIds uuid4 now, r.seatId ∈ orderedSeatIds :=
    fun r hr => (newSeats_mem hr).2.2.2
  have hmap := newSeats_seatIds settings orderedSeatIds uuid4 now
  have hevent : ∃ e ∈ d.events, e.id = eventId := by
    obtain ⟨s, hs⟩ := List.exists_mem_of_ne_nil _ hne
    obtain ⟨c, hc, -, hce⟩ := hseats s hs
    exact hce ▸ hd.seatEvents c hc
  have hfits := fits_iff (x := newReservation settings visitorSession eventId idempotencyKey uuid4 now)
    hd hv rfl rfl (fun r hr => hids.reservation r hr 0) hevent
  rw [CanReserve, newSeats_iff hk rfl rfl (fun h => hne (by rw [← hmap, h]; rfl)) (by rwa [hmap])
    (fun r hr => ?_) (fun r hr => hseats _ (hrow r hr)), hfits, not_seatTaken_iff hd, and_comm]
  · refine and_congr_left fun _ => ⟨fun ⟨_, h⟩ q hq hs ha => ?_, fun h =>
      ⟨newSeats_ids_nodup hids.injective, fun r hr => ⟨fun q hq => ?_, fun q hq hs ha => ?_⟩⟩⟩
    · rw [← hmap, List.mem_map] at hs
      obtain ⟨r, hr, hrs⟩ := hs
      exact (h r hr).seat q hq (by simp [hrs]) ha
    · obtain ⟨n, hn, rfl⟩ := List.mem_mapIdx.1 hr
      exact hids.seat q hq _
    · exact h q hq (List.mem_singleton.1 hs ▸ hrow r hr) ha
  · obtain ⟨h1, h2, h3, -⟩ := newSeats_mem hr
    exact ⟨h1, h2, h3⟩

/-- The service asks for the seats in sorted order. -/
theorem canReserve_sorted_iff (hd : Inv d) (hv : visitorSession ∈ d.visitorSessions)
    (hids : FreshIds d uuid4) (hk : Storable idempotencyKey) (hne : seatIds ≠ [])
    (hn : seatIds.Nodup) (hseats : d.HasSeats eventId seatIds) :
    CanReserve settings visitorSession eventId (seatIds.insertionSort (· ≤ ·)) idempotencyKey uuid4 now
        d ↔ ¬ d.SeatTaken seatIds now ∧
          ¬ d.KeyUsed visitorSession.id idempotencyKey .quantity ∧
          ¬ d.KeyUsed visitorSession.id idempotencyKey .seats := by
  have hmem : ∀ s, s ∈ seatIds.insertionSort (· ≤ ·) ↔ s ∈ seatIds := fun s =>
    List.mem_insertionSort _
  have htaken : d.SeatTaken (seatIds.insertionSort (· ≤ ·)) now ↔ d.SeatTaken seatIds now := by
    simp only [Database.SeatTaken, hmem]
  rw [canReserve_iff hd hv hids hk ?_ ((List.perm_insertionSort _ _).nodup_iff.2 hn)
    (fun s hs => hseats s ((hmem s).1 hs)), htaken]
  rwa [ne_eq, ← List.length_eq_zero_iff, List.length_insertionSort, List.length_eq_zero_iff]

/-- **What a conflict of `SeatReservationService.reserve` means.** -/
theorem conflict_iff (hd : Inv d) (hv : visitorSession ∈ d.visitorSessions) (hids : FreshIds d uuid4)
    (hne : seatIds ≠ []) (hn : seatIds.Nodup) :
    (reserveOutcome settings visitorSession eventId seatIds idempotencyKey uuid4 now d).1 =
        .error .seatReservationConflictError ↔
      Storable idempotencyKey ∧ ¬ d.KeyUsed visitorSession.id idempotencyKey .seats ∧
        d.HasSeats eventId seatIds ∧ (d.SeatTaken seatIds now ∨
          d.KeyUsed visitorSession.id idempotencyKey .quantity) := by
  have hsplit : (reserveOutcome settings visitorSession eventId seatIds idempotencyKey uuid4 now d).1 =
      .error .seatReservationConflictError ↔
      d.seatLookup visitorSession.id idempotencyKey = .ok none ∧
        d.eventSeats eventId (seatIds.insertionSort (· ≤ ·)) = seatIds.insertionSort (· ≤ ·) ∧
        ¬ CanReserve settings visitorSession eventId (seatIds.insertionSort (· ≤ ·)) idempotencyKey
          uuid4 now d := by
    unfold reserveOutcome
    cases h : d.seatLookup visitorSession.id idempotencyKey with
    | error e =>
      have := h ▸ seatLookup_ne_conflict (d := d) (u := visitorSession.id) (k := idempotencyKey)
      simpa using this
    | ok o => cases o with
      | some a => simp
      | none =>
        simp only [true_and]
        split_ifs with hs hc
        · exact iff_of_false (by simp) fun h => hs h.1
        · simp [hc]
        · exact iff_of_true rfl ⟨not_not.1 hs, hc⟩
  rw [hsplit, seatLookup_eq_none hd, and_assoc, eventSeats_eq_iff hd hn]
  refine and_congr_right fun hk => and_congr_right fun hfree => and_congr_right fun hseats => ?_
  rw [canReserve_sorted_iff hd hv hids hk hne hn hseats, and_iff_left hfree, not_and_or, not_not,
    not_not]

/-- A key that cannot be stored fails at the look-up. -/
theorem reserveOutcome_unstorable (hk : ¬ Storable idempotencyKey) :
    reserveOutcome settings visitorSession eventId seatIds idempotencyKey uuid4 now d =
      (.error .dataError, d) := by
  simp only [reserveOutcome, Database.seatLookup, eq_true hk, if_true]

/-- With a fresh key `reserve` is decided by the seats. -/
theorem reserveOutcome_fresh (hd : Inv d) (hv : visitorSession ∈ d.visitorSessions)
    (hids : FreshIds d uuid4) (hk : Storable idempotencyKey)
    (hkey : ∀ kind, ¬ d.KeyUsed visitorSession.id idempotencyKey kind) (hne : seatIds ≠ [])
    (hn : seatIds.Nodup) (hseats : d.HasSeats eventId seatIds) :
    reserveOutcome settings visitorSession eventId seatIds idempotencyKey uuid4 now d =
      if d.SeatTaken seatIds now then (.error .seatReservationConflictError, d)
      else (.ok (created settings (seatIds.insertionSort (· ≤ ·)) uuid4 now),
        afterCreate settings visitorSession eventId (seatIds.insertionSort (· ≤ ·)) idempotencyKey
          uuid4 now d) := by
  have hcan : CanReserve settings visitorSession eventId (seatIds.insertionSort (· ≤ ·)) idempotencyKey
      uuid4 now d ↔ ¬ d.SeatTaken seatIds now := by
    rw [canReserve_sorted_iff hd hv hids hk hne hn hseats, and_iff_left ⟨hkey _, hkey _⟩]
  simp only [reserveOutcome, (seatLookup_eq_none hd).2 ⟨hk, hkey _⟩,
    (eventSeats_eq_iff hd hn).2 hseats, ne_eq, not_true_eq_false, if_false, hcan]
  by_cases ht : d.SeatTaken seatIds now <;> simp only [ht, not_true_eq_false, not_false_eq_true,
    if_true, if_false]

end

end SeatReservationService

/-! ## Truthful conflicts -/

/-- `INSUFFICIENT_STOCK` is only answered if the stock is short. -/
def QuantityReservationService.ConflictTruthful (settings : Settings)
    (visitorSession : VisitorSession) (p : QuantityReservationCreate) (uuid4 : ℕ → UUID)
    (now : Instant) (d : Database) : Prop :=
  ((reserve settings visitorSession p.eventId p.ticketTypeId p.quantity p.idempotencyKey uuid4
      now).alone d).1 = .error .quantityReservationConflictError →
    d.OutOfStock p.eventId p.ticketTypeId p.quantity

/-- `SEAT_UNAVAILABLE` is only answered if a seat is taken. -/
def SeatReservationService.ConflictTruthful (settings : Settings) (visitorSession : VisitorSession)
    (p : SeatReservationCreate) (uuid4 : ℕ → UUID) (now : Instant) (d : Database) : Prop :=
  ((reserve settings visitorSession p.eventId p.seatIds p.idempotencyKey uuid4 now).alone d).1 =
      .error .seatReservationConflictError →
    d.SeatTaken p.seatIds now

/-- **A conflict tells the truth iff the visitor has not used the key for a
    reservation of the other kind**, or the request has to be refused anyway. -/
theorem conflict_truthful_iff {settings : Settings} {d : Database} (h : Reachable settings d)
    {visitorSession : VisitorSession} (hv : visitorSession ∈ d.visitorSessions) {uuid4 : ℕ → UUID}
    (hids : FreshIds d uuid4) (now : Instant) (p : QuantityReservationCreate)
    (q : SeatReservationCreate) :
    (QuantityReservationService.ConflictTruthful settings visitorSession p uuid4 now d ↔
      ¬ d.KeyUsed visitorSession.id p.idempotencyKey .seats ∨
        d.OutOfStock p.eventId p.ticketTypeId p.quantity) ∧
    (SeatReservationService.ConflictTruthful settings visitorSession q uuid4 now d ↔
      ¬ d.KeyUsed visitorSession.id q.idempotencyKey .quantity ∨ ¬ d.HasSeats q.eventId q.seatIds ∨
        d.SeatTaken q.seatIds now) := by
  have hd : Inv d := h.inv
  constructor
  · rw [QuantityReservationService.ConflictTruthful,
      (QuantityReservationService.atomically_reserve p.quantity_pos Response.quantity).alone
      (fun _ _ h => by cases h; rfl) hd,
      QuantityReservationService.conflict_iff hd hv hids p.quantity_pos]
    constructor
    · intro hconflict
      by_contra hnot
      obtain ⟨hused, hstock⟩ := not_or.1 hnot
      have hused := not_not.1 hused
      have hfree : ¬ d.KeyUsed visitorSession.id p.idempotencyKey .quantity := fun hq => by
        cases KeyUsed.kind_eq hd hused hq
      obtain ⟨t, ht, -, -, hle⟩ := not_outOfStock.1 hstock
      have hint : Int32 p.quantity := by
        have := hd.ticketTypeInts t ht
        have hc := hd.ticketTypeChecks t ht
        have := hc.sold
        have := hc.reserved
        have := p.quantity_pos
        constructor <;> omega
      exact hstock (hconflict ⟨KeyUsed.storable hd hused, hfree, hint, Or.inr hused⟩)
    · rintro hor ⟨-, -, -, hwhy⟩
      exact hwhy.elim id fun hused => hor.resolve_left (not_not.2 hused)
  · rw [SeatReservationService.ConflictTruthful,
      (SeatReservationService.atomically_reserve q.seatIds_ne_nil q.seats_unique Response.seats).alone
        (fun _ _ h => by cases h; rfl) hd,
      SeatReservationService.conflict_iff hd hv hids q.seatIds_ne_nil q.seats_unique]
    constructor
    · intro hconflict
      by_contra hnot
      obtain ⟨hused, hseats⟩ := not_or.1 hnot
      obtain ⟨hseats, hfree⟩ := not_or.1 hseats
      have hused := not_not.1 hused
      have hkey : ¬ d.KeyUsed visitorSession.id q.idempotencyKey .seats := fun hs => by
        cases KeyUsed.kind_eq hd hused hs
      exact hfree (hconflict ⟨KeyUsed.storable hd hused, hkey, not_not.1 hseats, Or.inr hused⟩)
    · rintro hor ⟨-, -, hseats, hwhy⟩
      refine hwhy.elim id fun hused => ?_
      exact (hor.resolve_left (not_not.2 hused)).resolve_left (not_not.2 hseats)

namespace Sample

/-- Alice holds two tickets under the key `"k"`. -/
def ticketsHeld : Database :=
  ((start inventory).after (Call.prog settings)
    (alone 0 6 (.reserveQuantity alice twoTickets (uuid4 100) 5))).db

theorem ticketsHeld_reachable : Reachable settings ticketsHeld :=
  .of_run inventory_inventory (run_after (by decide))

theorem freshIds {d : Database} {base : ℕ} (hr : ∀ r ∈ d.reservations, r.id < base)
    (hi : ∀ i ∈ d.reservationItems, i.id < base) (hs : ∀ s ∈ d.reservationSeats, s.id < base) :
    FreshIds d (uuid4 base) := by
  refine ⟨fun m n h => ?_, fun r hrm n => ?_, fun i him n => ?_, fun s hsm n => ?_⟩
  · exact Nat.add_left_cancel h
  · exact ((hr r hrm).trans_le (Nat.le_add_right base n)).ne
  · exact ((hi i him).trans_le (Nat.le_add_right base n)).ne
  · exact ((hs s hsm).trans_le (Nat.le_add_right base n)).ne

theorem ticketsHeld_freshIds : FreshIds ticketsHeld (uuid4 200) :=
  freshIds (by decide) (by decide) (by decide)

end Sample

/-- With the key of her tickets Alice is told that a free seat is taken. -/
theorem conflict_untruthful : Reachable Sample.settings Sample.ticketsHeld ∧
    Sample.alice ∈ Sample.ticketsHeld.visitorSessions ∧
    FreshIds Sample.ticketsHeld (Sample.uuid4 200) ∧
    ¬ SeatReservationService.ConflictTruthful Sample.settings Sample.alice Sample.oneSeat
      (Sample.uuid4 200) 6 Sample.ticketsHeld := by
  refine ⟨Sample.ticketsHeld_reachable, by decide, Sample.ticketsHeld_freshIds, fun h => ?_⟩
  have hfree : ¬ Sample.ticketsHeld.SeatTaken Sample.oneSeat.seatIds 6 := by decide
  exact hfree (h (by decide))

theorem conflict_truthful_bob :
    (QuantityReservationService.ConflictTruthful Sample.settings Sample.bob Sample.fourTickets
      (Sample.uuid4 200) 6 Sample.ticketsHeld ↔
      ¬ Sample.ticketsHeld.KeyUsed Sample.bob.id "k" .seats ∨ Sample.ticketsHeld.OutOfStock 10 20 4) ∧
    (SeatReservationService.ConflictTruthful Sample.settings Sample.bob Sample.oneSeat
      (Sample.uuid4 200) 6 Sample.ticketsHeld ↔
      ¬ Sample.ticketsHeld.KeyUsed Sample.bob.id "k" .quantity ∨
        ¬ Sample.ticketsHeld.HasSeats 10 [30] ∨ Sample.ticketsHeld.SeatTaken [30] 6) :=
  conflict_truthful_iff Sample.ticketsHeld_reachable (by decide) Sample.ticketsHeld_freshIds 6
    Sample.fourTickets Sample.oneSeat

end TicketReservation
