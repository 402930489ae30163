/-
  What the validators admit and what the database can store.

  The limits stand in two places: the validators bound the lengths of texts,
  but not the integers from above, and they admit U+0000 and times that are out
  of range in UTC.  A value that its column cannot hold ends the request in
  `DataError`, which nothing handles.

  * `Database.Sees.inRange`: no expression over the counters of a ticket type
    overflows;
  * `Submission.bound`: the values that a request binds;
  * `Submission.fits_iff_encodable`: a request fits iff its texts have no U+0000, its integers
    are below 2^31 and its times are in range, as far as it comes to bind them.
-/
import TicketReservation.SeatBatch
import TicketReservation.Conflicts

namespace TicketReservation

open Txn

/-! ## Counters -/

/-- A row of `ticket_types` that a transaction may see: a committed one, or one
    that a guarded update has left. -/
inductive Database.Sees (d : Database) : TicketType → Prop
  | committed {t : TicketType} : t ∈ d.ticketTypes → d.Sees t
  | updated {t : TicketType} (Δr Δs : ℤ) : d.Sees t → (t.add Δr Δs).Checks → d.Sees (t.add Δr Δs)

/-- The expressions over a row: those of the inventory view and of the guards,
    then those of the updates whose guard holds and of their CHECK constraints. -/
structure TicketType.InRange (t : TicketType) (quantity : ℤ) : Prop where
  unsold : Int32 (t.totalQuantity - t.soldQuantity)
  available : Int32 (t.totalQuantity - t.soldQuantity - t.reservedQuantity)
  allocated : Int32 (t.soldQuantity + t.reservedQuantity)
  reserve : t.totalQuantity - t.soldQuantity - t.reservedQuantity ≥ quantity →
    Int32 (t.reservedQuantity + quantity) ∧ Int32 (t.soldQuantity + (t.reservedQuantity + quantity))
  release : t.reservedQuantity ≥ quantity →
    Int32 (t.reservedQuantity - quantity) ∧ Int32 (t.soldQuantity + (t.reservedQuantity - quantity))
  confirm : t.reservedQuantity ≥ quantity →
    t.soldQuantity + t.reservedQuantity ≤ t.totalQuantity →
    Int32 (t.reservedQuantity - quantity) ∧ Int32 (t.soldQuantity + quantity) ∧
      Int32 (t.soldQuantity + quantity + (t.reservedQuantity - quantity))

/-- The constraints of a row bound its expressions. -/
theorem TicketType.Checks.inRange {t : TicketType} (h : t.Checks) (hint : Int32 t.totalQuantity)
    {quantity : ℤ} (hq : 0 < quantity) : t.InRange quantity := by
  have h1 := h.sold
  have h2 := h.reserved
  have h3 := h.allocated
  obtain ⟨-, hmax⟩ := hint
  refine ⟨?_, ?_, ?_, fun hguard => ?_, fun hguard => ?_, fun hguard _ => ?_⟩ <;> unfold Int32 <;> omega

theorem Database.Sees.checks {d : Database} (h : Inv d) {t : TicketType} (hs : d.Sees t) :
    t.Checks ∧ Int32 t.totalQuantity := by
  induction hs with
  | committed ht => exact ⟨h.ticketTypeChecks _ ht, h.ticketTypeInts _ ht⟩
  | updated Δr Δs _ hc ih => exact ⟨hc, ih.2⟩

/-- **No expression over the counters overflows.** -/
theorem Database.Sees.inRange {d : Database} (h : Inv d) {t : TicketType} (hs : d.Sees t)
    {quantity : ℤ} (hq : 0 < quantity) : t.InRange quantity :=
  (hs.checks h).1.inRange (hs.checks h).2 hq

/-! ## Requests -/

/-- A request with a validated body. -/
inductive Submission where
  | createEvent (payload : EventCreate) (uuid4 : UUID)
  | createTicketType (eventId : UUID) (payload : TicketTypeCreate) (uuid4 : UUID)
  | createSeats (eventId : UUID) (payload : SeatBatchCreate) (uuid4 : ℕ → UUID)
  | reserveQuantity (visitorSession : VisitorSession) (payload : QuantityReservationCreate)
      (uuid4 : ℕ → UUID) (now : Instant)
  | reserveSeats (visitorSession : VisitorSession) (payload : SeatReservationCreate)
      (uuid4 : ℕ → UUID) (now : Instant)

/-- The exception of an answer. -/
def raised {α : Type} : Except Error α → Option Error
  | .error e => some e
  | .ok _ => none

@[simp] theorem raised_map {α β : Type} (f : α → β) (r : Except Error α) :
    raised (r.map f) = raised r := by
  cases r <;> rfl

instance (d : Database) (u : UUID) (k : String) (kind : ReservationType) :
    Decidable (d.KeyUsed u k kind) := inferInstanceAs (Decidable (∃ r ∈ d.reservations, _))

theorem raised_eq_some {α : Type} {r : Except Error α} {e : Error} :
    raised r = some e ↔ r = .error e := by
  cases r with
  | error e' => simp [raised]
  | ok a => simp [raised]

/-- A value with the type of its column. -/
inductive Bound where
  | integer (n : ℤ)
  | varchar (limit : ℕ) (s : String)
  | timestamptz (t : Instant)

def Bound.Representable : Bound → Prop
  | .integer n => Int32 n
  | .varchar limit s => VarChar limit s
  | .timestamptz t => Timestamptz t

namespace Submission

/-- The exception that a request ends in. -/
def exception (settings : Settings) : Submission → Database → Option Error
  | .createEvent payload uuid4, d =>
    raised ((EventService.createEvent payload.name payload.startsAt payload.endsAt uuid4).alone d).1
  | .createTicketType eventId payload uuid4, d =>
    raised ((EventService.createTicketType eventId payload.name payload.totalQuantity uuid4).alone d).1
  | .createSeats eventId payload uuid4, d =>
    raised ((EventService.createSeats eventId payload.seats uuid4).alone d).1
  | .reserveQuantity visitorSession payload uuid4 now, d =>
    raised (((Call.reserveQuantity visitorSession payload uuid4 now).prog settings).alone d).1
  | .reserveSeats visitorSession payload uuid4 now, d =>
    raised (((Call.reserveSeats visitorSession payload uuid4 now).prog settings).alone d).1

/-- The values of its body that a request binds to its statements. -/
def bound : Submission → Database → List Bound
  | .createEvent payload _, _ => [.varchar 255 (strip payload.name), .timestamptz payload.startsAt,
    .timestamptz payload.endsAt]
  | .createTicketType eventId payload _, d =>
    if ∃ e ∈ d.events, e.id = eventId then
      [.varchar 255 (strip payload.name), .integer payload.totalQuantity, .integer 0, .integer 0]
    else []
  | .createSeats eventId payload _, d =>
    if ∃ e ∈ d.events, e.id = eventId then
      payload.seats.flatMap fun seat => [.varchar 100 (strip seat.section_),
        .varchar 50 (strip seat.rowName), .varchar 50 (strip seat.seatNumber)]
    else []
  -- the quantity is bound when there is no reservation to replay
  | .reserveQuantity visitorSession payload _ _, d =>
    .varchar 255 payload.idempotencyKey ::
      if d.KeyUsed visitorSession.id payload.idempotencyKey .quantity then []
      else [.integer payload.quantity]
  | .reserveSeats _ payload _ _, _ => [.varchar 255 payload.idempotencyKey]

/-- **A request fits**: all that it binds is representable, all that it computes
    is in range, and it does not end in `DataError`. -/
structure Fits (settings : Settings) (q : Submission) (d : Database) : Prop where
  bound : ∀ b ∈ q.bound d, b.Representable
  counters : ∀ t, d.Sees t → ∀ quantity, 0 < quantity → t.InRange quantity
  exception : q.exception settings d ≠ some .dataError

/-- The texts have no U+0000, the integers are below 2^31, the times are in range. -/
def Encodable : Submission → Database → Prop
  | .createEvent payload _, _ =>
    Storable payload.name ∧ Timestamptz payload.startsAt ∧ Timestamptz payload.endsAt
  | .createTicketType eventId payload _, d => (∃ e ∈ d.events, e.id = eventId) →
    Storable payload.name ∧ payload.totalQuantity < 2 ^ 31
  | .createSeats eventId payload _, d => (∃ e ∈ d.events, e.id = eventId) →
    ∀ seat ∈ payload.seats, seat.Storable
  | .reserveQuantity visitorSession payload _ _, d => Storable payload.idempotencyKey ∧
    (d.KeyUsed visitorSession.id payload.idempotencyKey .quantity ∨ payload.quantity < 2 ^ 31)
  | .reserveSeats _ payload _ _, _ => Storable payload.idempotencyKey

end Submission

/-! ## What a request binds -/

section
variable {settings : Settings} {d : Database}

theorem int32_iff {n : ℤ} (h : 0 ≤ n) : Int32 n ↔ n < 2 ^ 31 := by
  unfold Int32
  omega

theorem bound_createTicketType_iff {eventId : UUID} (hev : ∃ e ∈ d.events, e.id = eventId)
    (payload : TicketTypeCreate) (uuid4 : UUID) :
    (∀ b ∈ (Submission.createTicketType eventId payload uuid4).bound d, b.Representable) ↔
      VarChar 255 (strip payload.name) ∧ Int32 payload.totalQuantity := by
  rw [Submission.bound, if_pos hev]
  simp only [List.forall_mem_cons, Bound.Representable]
  exact and_congr_right fun _ => and_iff_left ⟨by decide, by decide, by simp⟩

/-- **What a request binds is representable** iff its texts have no U+0000, its
    integers are below 2^31 and its times are in range. -/
theorem bound_iff (q : Submission) : (∀ b ∈ q.bound d, b.Representable) ↔ q.Encodable d := by
  cases q with
  | createEvent payload uuid4 =>
    simp only [Submission.bound, List.forall_mem_cons, Bound.Representable, Submission.Encodable,
      payload.name_valid.varChar_iff]
    exact and_congr_right fun _ => and_congr_right fun _ => and_iff_left (by simp)
  | createTicketType eventId payload uuid4 =>
    by_cases hev : ∃ e ∈ d.events, e.id = eventId
    · rw [bound_createTicketType_iff hev, Submission.Encodable, forall_prop_of_true hev,
        payload.name_valid.varChar_iff, int32_iff payload.total_nonneg]
    · rw [Submission.bound, if_neg hev, Submission.Encodable]
      exact iff_of_true (by simp) fun h => absurd h hev
  | createSeats eventId payload uuid4 =>
    by_cases hev : ∃ e ∈ d.events, e.id = eventId
    · rw [Submission.bound, if_pos hev, Submission.Encodable, forall_prop_of_true hev]
      simp only [List.forall_mem_flatMap]
      refine forall₂_congr fun seat hseat => ?_
      have hv := payload.seats_valid seat hseat
      simp only [List.forall_mem_cons, Bound.Representable, hv.section_.varChar_iff,
        hv.rowName.varChar_iff, hv.seatNumber.varChar_iff]
      exact ⟨fun ⟨h1, h2, h3, _⟩ => ⟨h1, h2, h3⟩, fun h => ⟨h.1, h.2, h.3, by simp⟩⟩
    · rw [Submission.bound, if_neg hev, Submission.Encodable]
      exact iff_of_true (by simp) fun h => absurd h hev
  | reserveQuantity visitorSession payload uuid4 now =>
    have hint := int32_iff payload.quantity_pos.le
    simp only [Submission.bound, List.forall_mem_cons, Submission.Encodable]
    refine and_congr (and_iff_right payload.key_length.2) ?_
    by_cases hk : d.KeyUsed visitorSession.id payload.idempotencyKey .quantity
    · simp [hk]
    · simp [hk, Bound.Representable, hint]
  | reserveSeats visitorSession payload uuid4 now =>
    simp only [Submission.bound, List.mem_singleton, forall_eq]
    exact and_iff_right payload.key_length.2

/-- A quantity reservation ends in `DataError` at the look-up or at the update. -/
theorem quantityOutcome_dataError_iff (h : Inv d) {visitorSession : VisitorSession}
    {eventId ticketTypeId : UUID} {quantity : ℤ} {k : String} {uuid4 : ℕ → UUID} {now : Instant} :
    (QuantityReservationService.reserveOutcome settings visitorSession eventId ticketTypeId quantity k
        uuid4 now d).1 = .error .dataError ↔
      ¬ Storable k ∨ (¬ d.KeyUsed visitorSession.id k .quantity ∧ ¬ Int32 quantity) := by
  unfold QuantityReservationService.reserveOutcome
  by_cases hk : Storable k
  · rw [or_iff_right (not_not.2 hk)]
    rcases finds_quantityLookup (u := visitorSession.id) hk d h with ⟨hused, a, ha⟩ | ⟨hfree, hnone⟩
    · rw [show d.quantityLookup visitorSession.id k = .ok (some a) from ha]
      exact iff_of_false nofun fun hc => hc.1 hused
    · rw [show d.quantityLookup visitorSession.id k = .ok none from hnone, and_iff_right hfree]
      dsimp only
      split_ifs with hint
      · exact iff_of_false nofun (not_not.2 hint)
      · exact iff_of_false nofun (not_not.2 hint)
      · exact iff_of_true rfl hint
  · rw [Database.quantityLookup, if_pos hk]
    exact iff_of_true rfl (Or.inl hk)

theorem seatOutcome_dataError_iff (h : Inv d) {visitorSession : VisitorSession} {eventId : UUID}
    {seatIds : List UUID} {k : String} {uuid4 : ℕ → UUID} {now : Instant} :
    (SeatReservationService.reserveOutcome settings visitorSession eventId seatIds k uuid4 now d).1 =
      .error .dataError ↔ ¬ Storable k := by
  unfold SeatReservationService.reserveOutcome
  by_cases hk : Storable k
  · rcases finds_seatLookup (u := visitorSession.id) hk d h with ⟨-, a, ha⟩ | ⟨-, hnone⟩
    · rw [show d.seatLookup visitorSession.id k = .ok (some a) from ha]
      exact iff_of_false nofun (not_not.2 hk)
    · rw [show d.seatLookup visitorSession.id k = .ok none from hnone]
      dsimp only
      split_ifs <;> exact iff_of_false nofun (not_not.2 hk)
  · rw [Database.seatLookup, if_pos hk]
    exact iff_of_true rfl hk

theorem exception_iff (h : Inv d) (q : Submission) :
    q.exception settings d ≠ some .dataError ↔ ∀ b ∈ q.bound d, b.Representable := by
  cases q with
  | createEvent payload uuid4 =>
    rw [Submission.exception, EventService.alone_createEvent]
    have hb : (∀ b ∈ (Submission.createEvent payload uuid4).bound d, b.Representable) ↔
        (EventService.newEvent payload.name payload.startsAt payload.endsAt uuid4).Encodable := by
      simp only [Submission.bound, List.forall_mem_cons, Bound.Representable]
      exact and_congr_right fun _ => and_congr_right fun _ => and_iff_left (by simp)
    rw [hb]
    split_ifs with henc hfits
    · exact iff_of_true nofun henc
    · exact iff_of_true nofun henc
    · exact iff_of_false (fun hne => hne rfl) henc
  | createTicketType eventId payload uuid4 =>
    by_cases hev : ∃ e ∈ d.events, e.id = eventId
    · rw [Submission.exception, EventService.alone_createTicketType, if_pos hev,
        bound_createTicketType_iff hev]
      split_ifs with henc hfits
      · exact iff_of_true nofun henc
      · exact iff_of_true nofun henc
      · exact iff_of_false (fun hne => hne rfl) henc
    · rw [Submission.exception, EventService.alone_createTicketType, if_neg hev, Submission.bound,
        if_neg hev]
      exact iff_of_true nofun (by simp)
  | createSeats eventId payload uuid4 =>
    by_cases hev : ∃ e ∈ d.events, e.id = eventId
    · have hb := (bound_iff (d := d) (.createSeats eventId payload uuid4)).trans
        ((forall_prop_of_true hev).trans
          (EventService.encodable_newSeats_iff eventId uuid4 payload.seats_valid).symm)
      rw [Submission.exception, EventService.alone_createSeats, if_pos hev, hb]
      split_ifs with henc hfits
      · exact iff_of_true nofun henc
      · exact iff_of_true nofun henc
      · exact iff_of_false (fun hne => hne rfl) henc
    · rw [Submission.exception, EventService.alone_createSeats, if_neg hev, Submission.bound,
        if_neg hev]
      exact iff_of_true nofun (by simp)
  | reserveQuantity visitorSession payload uuid4 now =>
    have hspec := ((Call.spec_reserveQuantity h).1 (Call.alone_spec settings
      (.reserveQuantity visitorSession payload uuid4 now) h)).1
    rw [Submission.exception, hspec, raised_map, Ne, raised_eq_some, quantityOutcome_dataError_iff h,
      not_or, not_and_or, not_not, not_not, not_not, bound_iff, Submission.Encodable, int32_iff
        payload.quantity_pos.le]
  | reserveSeats visitorSession payload uuid4 now =>
    have hspec := ((Call.spec_reserveSeats h).1 (Call.alone_spec settings
      (.reserveSeats visitorSession payload uuid4 now) h)).1
    rw [Submission.exception, hspec, raised_map, Ne, raised_eq_some, seatOutcome_dataError_iff h,
      not_not, bound_iff, Submission.Encodable]

end

namespace Sample

/-- One more ticket than a signed 32-bit integer counts. -/
def hugeTicketType : TicketTypeCreate := ⟨"General", 2 ^ 31, by decide, by decide⟩

/-- From noon of 9999-12-31 in UTC until 23:59:59 at the offset -01:00. -/
def newYear : EventCreate := ⟨"New Year", 253402257600000000, 253402304399000000, by decide, by decide⟩

end Sample

namespace Submission

/-- **A request fits iff its texts have no U+0000, its integers are below 2^31
    and its times are in range**, as far as it comes to bind them. -/
theorem fits_iff_encodable {settings : Settings} {d : Database} (h : Served settings d)
    (q : Submission) : q.Fits settings d ↔ q.Encodable d := by
  constructor
  · intro hf
    exact (bound_iff q).1 hf.bound
  · intro he
    have hb := (bound_iff q).2 he
    exact ⟨hb, fun t ht quantity hq => ht.inRange h.inv hq, (exception_iff h.inv q).2 hb⟩

theorem fits_twoTickets : (reserveQuantity Sample.alice Sample.twoTickets (Sample.uuid4 100) 5).Fits
    Sample.settings Sample.inventory :=
  (fits_iff_encodable Sample.inventory_inventory.served _).2 ⟨by decide, Or.inr (by decide)⟩

/-- A ticket type with too many tickets is admitted and ends in `DataError`. -/
theorem not_fits_hugeTicketType : Served Sample.settings Sample.inventory ∧
    (createTicketType 10 Sample.hugeTicketType 21).exception Sample.settings Sample.inventory =
      some .dataError ∧
    ¬ (createTicketType 10 Sample.hugeTicketType 21).Fits Sample.settings Sample.inventory := by
  have hraised : (createTicketType 10 Sample.hugeTicketType 21).exception Sample.settings
      Sample.inventory = some .dataError := by decide
  exact ⟨Sample.inventory_inventory.served, hraised, fun hf => hf.exception hraised⟩

/-- So does an event whose end is out of range in UTC. -/
example : (createEvent Sample.newYear 11).exception Sample.settings Sample.inventory =
    some .dataError := by decide

end Submission

end TicketReservation
