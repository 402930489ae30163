/-
  The audit (`StressAdminService.assert_consistency`,
  stress_admin/service.py and stress_admin/repository.py).

  Six queries look for rows that break a rule; each is limited to a hundred
  rows and four of them to the events that the caller names.  The tables are
  arbitrary: the audit is there to find what the constraints should exclude.

  * `Database.Clean` says what the audit should find out;
  * `passes_iff`: the audit passes iff the tables are clean and there is no
    false alarm (`Database.FalseAlarm`), which an orphan outside the named
    events gives;
  * `audit_iff`: hence when its answer is right, and when other events'
    rows leave it alone.
-/
import TicketReservation.Repository
import Mathlib.Data.List.Dedup

namespace TicketReservation

open Txn

/-! ## Violations -/

structure TicketQuantityViolation where
  ticketTypeId : UUID
  totalQuantity : ℤ
  soldQuantity : ℤ
  reservedQuantity : ℤ
  deriving DecidableEq, Repr

structure DuplicateActiveSeatViolation where
  seatId : UUID
  activeReservationCount : ℕ
  deriving DecidableEq, Repr

structure OrphanReservationChildViolation where
  recordId : UUID
  reservationId : UUID
  deriving DecidableEq, Repr

structure StaleActiveReservationViolation where
  reservationId : UUID
  expiresAt : Instant
  deriving DecidableEq, Repr

/-! ## The queries -/

/-- The optional clause `event_id IN (event_ids)`. -/
abbrev InScope (eventIds : Option (List UUID)) (eventId : UUID) : Prop :=
  ∀ ids ∈ eventIds, eventId ∈ ids

/-- `ORDER BY k LIMIT limit`. -/
def firstRows {α κ : Type} [LinearOrder κ] (k : α → κ) (limit : ℕ) (rows : List α) : List α :=
  (rows.insertionSort fun a b => k a ≤ k b).take limit

def TicketType.violation (t : TicketType) : TicketQuantityViolation :=
  ⟨t.id, t.totalQuantity, t.soldQuantity, t.reservedQuantity⟩

namespace Database
variable (d : Database) (eventIds : Option (List UUID)) (limit : ℕ)

def negativeTicketQuantities : List TicketQuantityViolation :=
  (firstRows TicketType.id limit (d.ticketTypes.filter fun t =>
    (t.totalQuantity < 0 || t.soldQuantity < 0 || t.reservedQuantity < 0) &&
      InScope eventIds t.eventId)).map TicketType.violation

/-- The sum of two INTEGERs is an INTEGER, or an error; the rows are looked up
    by their event first. -/
def oversoldTicketQuantities : Except Error (List TicketQuantityViolation) :=
  if ∀ t ∈ d.ticketTypes, InScope eventIds t.eventId → Int32 (t.soldQuantity + t.reservedQuantity) then
    .ok ((firstRows TicketType.id limit (d.ticketTypes.filter fun t =>
      t.soldQuantity + t.reservedQuantity > t.totalQuantity &&
        InScope eventIds t.eventId)).map TicketType.violation)
  else .error .dataError

/-- The seat ids of the active rows, joined with `seats`. -/
def activeSeats : List UUID :=
  (d.reservationSeats.filter fun q => q.status.active).flatMap fun q =>
    (d.seats.filter fun s => s.id = q.seatId && InScope eventIds s.eventId).map fun _ => q.seatId

def duplicateActiveSeats : List DuplicateActiveSeatViolation :=
  (firstRows id limit ((d.activeSeats eventIds).dedup.filter fun s =>
    1 < (d.activeSeats eventIds).count s)).map fun s => ⟨s, (d.activeSeats eventIds).count s⟩

/-- `LEFT JOIN reservations ... WHERE reservations.id IS NULL`. -/
abbrev Orphan (reservationId : UUID) : Prop := ∀ r ∈ d.reservations, r.id ≠ reservationId

def orphanReservationItems : List OrphanReservationChildViolation :=
  (firstRows ReservationItem.id limit (d.reservationItems.filter fun i =>
    d.Orphan i.reservationId)).map fun i => ⟨i.id, i.reservationId⟩

def orphanReservationSeats : List OrphanReservationChildViolation :=
  (firstRows ReservationSeat.id limit (d.reservationSeats.filter fun q =>
    d.Orphan q.reservationId)).map fun q => ⟨q.id, q.reservationId⟩

def staleActiveReservations (expiredBefore : Instant) : List StaleActiveReservationViolation :=
  ((orderBy Reservation.expiresAt Reservation.id (d.reservations.filter fun r =>
    r.status = .reserved && r.expiresAt < expiredBefore && InScope eventIds r.eventId)).take
      limit).map fun r => ⟨r.id, r.expiresAt⟩

end Database

namespace StressConsistencyRepository

def listNegativeTicketQuantities (limit : ℕ) (eventIds : Option (List UUID)) :
    Tx (List TicketQuantityViolation) :=
  execute fun d => { result := d.negativeTicketQuantities eventIds limit }

def listOversoldTicketQuantities (limit : ℕ) (eventIds : Option (List UUID)) :
    Tx (List TicketQuantityViolation) :=
  executeOrRaise fun d => { result := d.oversoldTicketQuantities eventIds limit }

def listDuplicateActiveSeats (limit : ℕ) (eventIds : Option (List UUID)) :
    Tx (List DuplicateActiveSeatViolation) :=
  execute fun d => { result := d.duplicateActiveSeats eventIds limit }

def listOrphanReservationItems (limit : ℕ) : Tx (List OrphanReservationChildViolation) :=
  execute fun d => { result := d.orphanReservationItems limit }

def listOrphanReservationSeats (limit : ℕ) : Tx (List OrphanReservationChildViolation) :=
  execute fun d => { result := d.orphanReservationSeats limit }

def listStaleActiveReservations (expiredBefore : Instant) (limit : ℕ)
    (eventIds : Option (List UUID)) : Tx (List StaleActiveReservationViolation) :=
  execute fun d => { result := d.staleActiveReservations eventIds limit expiredBefore }

end StressConsistencyRepository

/-! ## The answer -/

/-- The names of the checks. -/
inductive StressConsistencyCheck where
  | ticketQuantityNotOversold
  | ticketQuantityNotNegative
  | noDuplicateActiveSeats
  | noOrphanReservationItems
  | noOrphanReservationSeats
  | noStaleActiveReservations
  deriving DecidableEq, Repr

structure StressConsistencyChecks where
  ticketQuantityNotOversold : Bool
  ticketQuantityNotNegative : Bool
  noDuplicateActiveSeats : Bool
  noOrphanReservationItems : Bool
  noOrphanReservationSeats : Bool
  noStaleActiveReservations : Bool
  deriving DecidableEq, Repr

def StressConsistencyChecks.get (checks : StressConsistencyChecks) : StressConsistencyCheck → Bool
  | .ticketQuantityNotOversold => checks.ticketQuantityNotOversold
  | .ticketQuantityNotNegative => checks.ticketQuantityNotNegative
  | .noDuplicateActiveSeats => checks.noDuplicateActiveSeats
  | .noOrphanReservationItems => checks.noOrphanReservationItems
  | .noOrphanReservationSeats => checks.noOrphanReservationSeats
  | .noStaleActiveReservations => checks.noStaleActiveReservations

/-- An id or an instant stands for its text. -/
inductive ConsistencyDataValue where
  | uuid (id : UUID)
  | instant (t : Instant)
  | int (n : ℤ)
  deriving DecidableEq, Repr

structure StressConsistencyDetail where
  check : StressConsistencyCheck
  message : String
  data : List (String × ConsistencyDataValue)
  deriving DecidableEq, Repr

structure StressConsistencyResponse where
  ok : Bool
  checks : StressConsistencyChecks
  details : List StressConsistencyDetail
  deriving DecidableEq, Repr

namespace StressAdminService

def consistencyDetailLimit : ℕ := 100

/-- 60 seconds. -/
def staleReservationTolerance : Instant := 60 * 1000000

def ticketQuantityDetails (check : StressConsistencyCheck) (message : String)
    (violations : List TicketQuantityViolation) : List StressConsistencyDetail :=
  violations.map fun violation =>
    ⟨check, message,
      [("ticket_type_id", .uuid violation.ticketTypeId),
        ("total_quantity", .int violation.totalQuantity),
        ("sold_quantity", .int violation.soldQuantity),
        ("reserved_quantity", .int violation.reservedQuantity)]⟩

def duplicateSeatDetails (violations : List DuplicateActiveSeatViolation) :
    List StressConsistencyDetail :=
  violations.map fun violation =>
    ⟨.noDuplicateActiveSeats, "Seat has more than one active reservation",
      [("seat_id", .uuid violation.seatId),
        ("active_reservation_count", .int violation.activeReservationCount)]⟩

def orphanDetails (check : StressConsistencyCheck) (message recordIdKey : String)
    (violations : List OrphanReservationChildViolation) : List StressConsistencyDetail :=
  violations.map fun violation =>
    ⟨check, message,
      [(recordIdKey, .uuid violation.recordId), ("reservation_id", .uuid violation.reservationId)]⟩

def staleReservationDetails (violations : List StaleActiveReservationViolation)
    (checkedAt : Instant) : List StressConsistencyDetail :=
  violations.map fun violation =>
    ⟨.noStaleActiveReservations,
      "Active reservation has remained expired beyond the worker tolerance",
      [("reservation_id", .uuid violation.reservationId),
        ("expires_at", .instant violation.expiresAt),
        ("seconds_overdue", .int ((checkedAt - violation.expiresAt).tdiv 1000000))]⟩

/-- The answer, from what the six queries found. -/
def consistencyResponse (checkedAt : Instant)
    (negativeQuantities oversoldQuantities : List TicketQuantityViolation)
    (duplicateActiveSeats : List DuplicateActiveSeatViolation)
    (orphanItems orphanSeats : List OrphanReservationChildViolation)
    (staleReservations : List StaleActiveReservationViolation) : StressConsistencyResponse :=
  let checks : StressConsistencyChecks :=
    { ticketQuantityNotOversold := oversoldQuantities.isEmpty
      ticketQuantityNotNegative := negativeQuantities.isEmpty
      noDuplicateActiveSeats := duplicateActiveSeats.isEmpty
      noOrphanReservationItems := orphanItems.isEmpty
      noOrphanReservationSeats := orphanSeats.isEmpty
      noStaleActiveReservations := staleReservations.isEmpty }
  { ok := checks.ticketQuantityNotOversold && checks.ticketQuantityNotNegative &&
      checks.noDuplicateActiveSeats && checks.noOrphanReservationItems &&
      checks.noOrphanReservationSeats && checks.noStaleActiveReservations
    checks := checks
    details :=
      ticketQuantityDetails .ticketQuantityNotOversold
        "Ticket type has more sold and reserved tickets than its total quantity"
        oversoldQuantities ++
      ticketQuantityDetails .ticketQuantityNotNegative "Ticket type has a negative quantity"
        negativeQuantities ++
      duplicateSeatDetails duplicateActiveSeats ++
      orphanDetails .noOrphanReservationItems "Reservation item points to a missing reservation"
        "reservation_item_id" orphanItems ++
      orphanDetails .noOrphanReservationSeats "Reservation seat points to a missing reservation"
        "reservation_seat_id" orphanSeats ++
      staleReservationDetails staleReservations checkedAt }

open StressConsistencyRepository in
def assertConsistency (checkedAt : Instant) (eventIds : Option (List UUID)) :
    Tx StressConsistencyResponse := do
  let negativeQuantities ← listNegativeTicketQuantities consistencyDetailLimit eventIds
  let oversoldQuantities ← listOversoldTicketQuantities consistencyDetailLimit eventIds
  let duplicateActiveSeats ← listDuplicateActiveSeats consistencyDetailLimit eventIds
  let orphanItems ← listOrphanReservationItems consistencyDetailLimit
  let orphanSeats ← listOrphanReservationSeats consistencyDetailLimit
  let staleReservations ← listStaleActiveReservations (checkedAt - staleReservationTolerance)
    consistencyDetailLimit eventIds
  Prog.rollback
  return consistencyResponse checkedAt negativeQuantities oversoldQuantities duplicateActiveSeats
    orphanItems orphanSeats staleReservations

end StressAdminService

/-! ## What it finds out -/

/-- The columns of type INTEGER hold INTEGERs. -/
def Database.Integers (d : Database) : Prop :=
  ∀ t ∈ d.ticketTypes, Int32 t.totalQuantity ∧ Int32 t.soldQuantity ∧ Int32 t.reservedQuantity

/-- An item belongs to the event of its ticket type. -/
def Database.ItemInScope (d : Database) (eventIds : Option (List UUID)) (i : ReservationItem) : Prop :=
  ∀ ids ∈ eventIds, ∃ t ∈ d.ticketTypes, t.id = i.ticketTypeId ∧ t.eventId ∈ ids

/-- A seat row belongs to the event of its seat. -/
def Database.SeatInScope (d : Database) (eventIds : Option (List UUID)) (q : ReservationSeat) : Prop :=
  ∀ ids ∈ eventIds, ∃ s ∈ d.seats, s.id = q.seatId ∧ s.eventId ∈ ids

instance (d : Database) (eventIds : Option (List UUID)) (i : ReservationItem) :
    Decidable (d.ItemInScope eventIds i) :=
  inferInstanceAs (Decidable (∀ ids ∈ eventIds, ∃ t ∈ d.ticketTypes, _))

instance (d : Database) (eventIds : Option (List UUID)) (q : ReservationSeat) :
    Decidable (d.SeatInScope eventIds q) :=
  inferInstanceAs (Decidable (∀ ids ∈ eventIds, ∃ s ∈ d.seats, _))

/-- How many active rows the seat has. -/
def Database.activeRows (d : Database) (seatId : UUID) : ℕ :=
  d.reservationSeats.countP fun q => q.status.active && q.seatId = seatId

/-- How many seats of the events have this id: at most one, if `id` is a key. -/
def Database.seatCount (d : Database) (eventIds : Option (List UUID)) (seatId : UUID) : ℕ :=
  d.seats.countP fun s => s.id = seatId && InScope eventIds s.eventId

/-- **The rows of the events are in order.** -/
structure Database.Clean (d : Database) (now : Instant) (eventIds : Option (List UUID)) : Prop where
  notNegative : ∀ t ∈ d.ticketTypes, InScope eventIds t.eventId →
    0 ≤ t.totalQuantity ∧ 0 ≤ t.soldQuantity ∧ 0 ≤ t.reservedQuantity
  notOversold : ∀ t ∈ d.ticketTypes, InScope eventIds t.eventId →
    t.soldQuantity + t.reservedQuantity ≤ t.totalQuantity
  notDuplicate : ∀ s ∈ d.seats, InScope eventIds s.eventId → d.activeRows s.id ≤ 1
  itemParent : ∀ i ∈ d.reservationItems, d.ItemInScope eventIds i →
    ∃ r ∈ d.reservations, r.id = i.reservationId
  seatParent : ∀ q ∈ d.reservationSeats, d.SeatInScope eventIds q →
    ∃ r ∈ d.reservations, r.id = q.reservationId
  notStale : ∀ r ∈ d.reservations, InScope eventIds r.eventId → r.status = .reserved →
    now - 60 * 1000000 ≤ r.expiresAt

/-- What the audit also takes for a violation: an orphan that does not belong
    to the events, and the one active row of a seat id that occurs twice. -/
def Database.FalseAlarm (d : Database) (eventIds : Option (List UUID)) : Prop :=
  (∃ i ∈ d.reservationItems, d.Orphan i.reservationId ∧ ¬ d.ItemInScope eventIds i) ∨
  (∃ q ∈ d.reservationSeats, d.Orphan q.reservationId ∧ ¬ d.SeatInScope eventIds q) ∨
  ∃ s, 1 < d.seatCount eventIds s ∧ d.activeRows s = 1

/-- The answer of the audit. -/
def Database.audit (d : Database) (checkedAt : Instant) (eventIds : Option (List UUID)) :
    Except Error StressConsistencyResponse :=
  (d.oversoldTicketQuantities eventIds 100).map fun oversold =>
    StressAdminService.consistencyResponse checkedAt (d.negativeTicketQuantities eventIds 100) oversold
      (d.duplicateActiveSeats eventIds 100) (d.orphanReservationItems 100)
      (d.orphanReservationSeats 100)
      (d.staleActiveReservations eventIds 100 (checkedAt - 60 * 1000000))

/-- The audit returns `ok = true`. -/
def Database.Passes (d : Database) (checkedAt : Instant) (eventIds : Option (List UUID)) : Prop :=
  ∃ response, d.audit checkedAt eventIds = .ok response ∧ response.ok = true

section
variable {d : Database} {now : Instant} {eventIds : Option (List UUID)} {limit : ℕ}

/-- A query returns what it finds in the store. -/
theorem run_query {β : Type} (f : Database → β) (d : Database) :
    (execute fun d => { result := f d } : Tx β).run d ∅ = (.ok (f d), d, ∅) := rfl

open StressAdminService StressConsistencyRepository in
theorem alone_assertConsistency : (assertConsistency now eventIds).alone d =
    (d.audit now eventIds, d) := by
  simp only [assertConsistency, listNegativeTicketQuantities, listOversoldTicketQuantities,
    listDuplicateActiveSeats, listOrphanReservationItems, listOrphanReservationSeats,
    listStaleActiveReservations, executeOrRaise, Prog.alone, Prog.bind_eq, Prog.run_bind, run_query]
  cases h : d.oversoldTicketQuantities eventIds 100 with
  | error e => simp only [consistencyDetailLimit, h, Database.audit, Except.map, Prog.run_raise]
  | ok oversold =>
    simp only [consistencyDetailLimit, h, Database.audit, Except.map, Prog.pure_eq, Prog.run_ret]
    rfl

/-! ## When a query finds nothing -/

/-- A limit hides some rows, but never all. -/
theorem take_insertionSort_eq_nil {α : Type} {r : α → α → Prop} [DecidableRel r] {rows : List α}
    (h : 0 < limit) : (rows.insertionSort r).take limit = [] ↔ rows = [] := by
  rw [List.take_eq_nil_iff]
  constructor
  · rintro (h0 | h1)
    · omega
    · exact List.perm_nil.1 (h1 ▸ (List.perm_insertionSort r rows).symm)
  · rintro rfl
    exact Or.inr rfl

theorem firstRows_eq_nil {α κ : Type} [LinearOrder κ] {k : α → κ} {rows : List α} (h : 0 < limit) :
    firstRows k limit rows = [] ↔ rows = [] :=
  take_insertionSort_eq_nil h

theorem negativeTicketQuantities_eq_nil (h : 0 < limit) :
    d.negativeTicketQuantities eventIds limit = [] ↔ ∀ t ∈ d.ticketTypes, InScope eventIds t.eventId →
      0 ≤ t.totalQuantity ∧ 0 ≤ t.soldQuantity ∧ 0 ≤ t.reservedQuantity := by
  rw [Database.negativeTicketQuantities, List.map_eq_nil_iff, firstRows_eq_nil h,
    List.filter_eq_nil_iff]
  refine forall₂_congr fun t _ => ?_
  simp only [Bool.and_eq_true, Bool.or_eq_true, decide_eq_true_eq]
  constructor
  · intro hn hs
    by_contra hneg
    exact hn ⟨by omega, hs⟩
  · rintro hn ⟨hneg, hs⟩
    have := hn hs
    omega

/-- With sums that are INTEGERs the second query finds what exceeds the total. -/
theorem oversoldTicketQuantities_eq_nil (h : 0 < limit) (hd : d.Integers)
    (hn : d.negativeTicketQuantities eventIds limit = []) :
    d.oversoldTicketQuantities eventIds limit = .ok [] ↔ ∀ t ∈ d.ticketTypes,
      InScope eventIds t.eventId → t.soldQuantity + t.reservedQuantity ≤ t.totalQuantity := by
  have hrows : ((firstRows TicketType.id limit (d.ticketTypes.filter fun t =>
      t.soldQuantity + t.reservedQuantity > t.totalQuantity &&
        InScope eventIds t.eventId)).map TicketType.violation = []) ↔ ∀ t ∈ d.ticketTypes,
      InScope eventIds t.eventId → t.soldQuantity + t.reservedQuantity ≤ t.totalQuantity := by
    rw [List.map_eq_nil_iff, firstRows_eq_nil h, List.filter_eq_nil_iff]
    refine forall₂_congr fun t _ => ?_
    simp only [Bool.and_eq_true, decide_eq_true_eq, not_and, gt_iff_lt]
    exact ⟨fun ht hs => not_lt.1 fun hlt => ht hlt hs, fun ht hlt hs => absurd hlt (not_lt.2 (ht hs))⟩
  rw [Database.oversoldTicketQuantities, ← hrows]
  constructor
  · intro hok
    split at hok
    · exact Except.ok.inj hok
    · cases hok
  · intro hnil
    rw [if_pos, hnil]
    intro t ht hs
    have hle := hrows.1 hnil t ht hs
    have hpos := (negativeTicketQuantities_eq_nil h).1 hn t ht hs
    have hint := hd t ht
    constructor <;> omega

theorem count_joined (q : ReservationSeat) (s : UUID) :
    ((d.seats.filter fun x => x.id = q.seatId && InScope eventIds x.eventId).map
      fun _ => q.seatId).count s = if q.seatId = s then d.seatCount eventIds s else 0 := by
  rw [List.map_const', List.count_replicate]
  by_cases hs : q.seatId = s
  · subst hs
    simp only [beq_self_eq_true, if_true, Database.seatCount, List.countP_eq_length_filter]
  · simp only [beq_iff_eq, hs, if_false]

/-- Each active row of a seat is counted once for every seat of that id. -/
theorem count_activeSeats (s : UUID) :
    (d.activeSeats eventIds).count s = d.activeRows s * d.seatCount eventIds s := by
  unfold Database.activeSeats Database.activeRows
  induction d.reservationSeats with
  | nil => simp
  | cons q rows ih =>
    by_cases ha : q.status.active
    · simp only [List.filter_cons, ha, if_true, List.flatMap_cons, List.count_append, ih,
        count_joined, List.countP_cons]
      by_cases hs : q.seatId = s
      · simp only [hs, decide_true, Bool.and_self, if_true, Nat.succ_mul]
        omega
      · simp only [hs, decide_false, Bool.and_false, Bool.false_eq_true, if_false, Nat.zero_add,
          Nat.add_zero]
    · simp only [List.filter_cons, ha, Bool.false_eq_true, if_false, ih, List.countP_cons,
        Bool.false_and, Nat.add_zero]

theorem duplicateActiveSeats_eq_nil (h : 0 < limit) : d.duplicateActiveSeats eventIds limit = [] ↔
    ∀ s, d.activeRows s * d.seatCount eventIds s ≤ 1 := by
  rw [Database.duplicateActiveSeats, List.map_eq_nil_iff, firstRows_eq_nil h, List.filter_eq_nil_iff]
  simp only [List.mem_dedup, decide_eq_true_eq, not_lt, count_activeSeats]
  constructor
  · intro hs s
    by_cases hm : s ∈ d.activeSeats eventIds
    · exact hs s hm
    · rw [← count_activeSeats, List.count_eq_zero.2 hm]
      omega
  · exact fun hs s _ => hs s

theorem orphanReservationItems_eq_nil (h : 0 < limit) : d.orphanReservationItems limit = [] ↔
    ∀ i ∈ d.reservationItems, ∃ r ∈ d.reservations, r.id = i.reservationId := by
  rw [Database.orphanReservationItems, List.map_eq_nil_iff, firstRows_eq_nil h,
    List.filter_eq_nil_iff]
  simp only [decide_eq_true_eq, not_forall, not_not, exists_prop, ne_eq]

theorem orphanReservationSeats_eq_nil (h : 0 < limit) : d.orphanReservationSeats limit = [] ↔
    ∀ q ∈ d.reservationSeats, ∃ r ∈ d.reservations, r.id = q.reservationId := by
  rw [Database.orphanReservationSeats, List.map_eq_nil_iff, firstRows_eq_nil h,
    List.filter_eq_nil_iff]
  simp only [decide_eq_true_eq, not_forall, not_not, exists_prop, ne_eq]

theorem staleActiveReservations_eq_nil (h : 0 < limit) {t : Instant} :
    d.staleActiveReservations eventIds limit t = [] ↔
      ∀ r ∈ d.reservations, InScope eventIds r.eventId → r.status = .reserved → t ≤ r.expiresAt := by
  rw [Database.staleActiveReservations, List.map_eq_nil_iff, orderBy, take_insertionSort_eq_nil h,
    List.filter_eq_nil_iff]
  refine forall₂_congr fun r _ => ?_
  simp only [Bool.and_eq_true, decide_eq_true_eq, not_and]
  exact ⟨fun hr hs hst => not_lt.1 fun hlt => hr ⟨hst, hlt⟩ hs,
    fun hr ⟨hst, hlt⟩ hs => absurd hlt (not_lt.2 (hr hs hst))⟩

/-! ## The audit passes -/

open StressAdminService in
theorem consistencyResponse_ok {negative oversold : List TicketQuantityViolation}
    {duplicate : List DuplicateActiveSeatViolation}
    {items seats : List OrphanReservationChildViolation}
    {stale : List StaleActiveReservationViolation} :
    (consistencyResponse now negative oversold duplicate items seats stale).ok = true ↔
      negative = [] ∧ oversold = [] ∧ duplicate = [] ∧ items = [] ∧ seats = [] ∧ stale = [] := by
  simp only [consistencyResponse, Bool.and_eq_true, List.isEmpty_iff]
  tauto

/-- The details of one check. -/
theorem exists_detail {β : Type} {f : β → StressConsistencyDetail} {c check : StressConsistencyCheck}
    (hf : ∀ v, (f v).check = c) (violations : List β) :
    (∃ detail, detail ∈ violations.map f ∧ detail.check = check) ↔
      violations.isEmpty = false ∧ c = check := by
  constructor
  · rintro ⟨_, hx, rfl⟩
    obtain ⟨v, hv, rfl⟩ := List.mem_map.1 hx
    exact ⟨List.isEmpty_eq_false_iff_exists_mem.2 ⟨v, hv⟩, (hf v).symm⟩
  · rintro ⟨hne, rfl⟩
    obtain ⟨v, hv⟩ := List.isEmpty_eq_false_iff_exists_mem.1 hne
    exact ⟨f v, List.mem_map_of_mem hv, hf v⟩

open StressAdminService in
/-- **A check is false iff a detail names it.** -/
theorem consistencyResponse_check {negative oversold : List TicketQuantityViolation}
    {duplicate : List DuplicateActiveSeatViolation}
    {items seats : List OrphanReservationChildViolation}
    {stale : List StaleActiveReservationViolation} (check : StressConsistencyCheck) :
    let response := consistencyResponse now negative oversold duplicate items seats stale
    response.checks.get check = false ↔ ∃ detail ∈ response.details, detail.check = check := by
  intro response
  have hdetails : (∃ detail ∈ response.details, detail.check = check) ↔
      (oversold.isEmpty = false ∧ .ticketQuantityNotOversold = check) ∨
      (negative.isEmpty = false ∧ .ticketQuantityNotNegative = check) ∨
      (duplicate.isEmpty = false ∧ .noDuplicateActiveSeats = check) ∨
      (items.isEmpty = false ∧ .noOrphanReservationItems = check) ∨
      (seats.isEmpty = false ∧ .noOrphanReservationSeats = check) ∨
      (stale.isEmpty = false ∧ .noStaleActiveReservations = check) := by
    simp only [response, consistencyResponse, ticketQuantityDetails, duplicateSeatDetails,
      orphanDetails, staleReservationDetails, List.mem_append, or_and_right, exists_or, or_assoc]
    refine or_congr ?_ <| or_congr ?_ <| or_congr ?_ <| or_congr ?_ <| or_congr ?_ ?_
    all_goals exact exists_detail (by intro v; rfl) _
  rw [hdetails]
  cases check <;> simp [response, consistencyResponse, StressConsistencyChecks.get]

theorem passes_iff_nil : d.Passes now eventIds ↔ d.negativeTicketQuantities eventIds 100 = [] ∧
    d.oversoldTicketQuantities eventIds 100 = .ok [] ∧ d.duplicateActiveSeats eventIds 100 = [] ∧
    d.orphanReservationItems 100 = [] ∧ d.orphanReservationSeats 100 = [] ∧
    d.staleActiveReservations eventIds 100 (now - 60 * 1000000) = [] := by
  rw [Database.Passes, Database.audit]
  cases h : d.oversoldTicketQuantities eventIds 100 with
  | error e =>
    constructor
    · rintro ⟨_, hr, _⟩
      cases hr
    · rintro ⟨_, hr, _⟩
      cases hr
  | ok oversold =>
    simp only [Except.map, Except.ok.injEq, exists_eq_left', consistencyResponse_ok]

/-- **The audit passes iff the rows of the events are in order and nothing gives a false alarm.** -/
theorem passes_iff (hd : d.Integers) :
    d.Passes now eventIds ↔ d.Clean now eventIds ∧ ¬ d.FalseAlarm eventIds := by
  rw [passes_iff_nil]
  constructor
  · rintro ⟨h1, h2, h3, h4, h5, h6⟩
    have hover := (oversoldTicketQuantities_eq_nil (by decide) hd h1).1 h2
    rw [negativeTicketQuantities_eq_nil (by decide)] at h1
    rw [duplicateActiveSeats_eq_nil (by decide)] at h3
    rw [orphanReservationItems_eq_nil (by decide)] at h4
    rw [orphanReservationSeats_eq_nil (by decide)] at h5
    rw [staleActiveReservations_eq_nil (by decide)] at h6
    refine ⟨⟨h1, hover, fun s hs hin => ?_, fun i hi _ => h4 i hi, fun q hq _ => h5 q hq, h6⟩, ?_⟩
    · have hcount : 0 < d.seatCount eventIds s.id :=
        List.countP_pos_iff.2 ⟨s, hs, by simp only [decide_true, Bool.true_and]; exact decide_eq_true hin⟩
      exact (Nat.le_mul_of_pos_right _ hcount).trans (h3 s.id)
    · rintro (⟨i, hi, hno, -⟩ | ⟨q, hq, hno, -⟩ | ⟨s, hs, hone⟩)
      · obtain ⟨r, hr, hid⟩ := h4 i hi
        exact hno r hr hid
      · obtain ⟨r, hr, hid⟩ := h5 q hq
        exact hno r hr hid
      · have := h3 s
        rw [hone] at this
        omega
  · rintro ⟨hc, hno⟩
    simp only [Database.FalseAlarm, not_or, not_exists, not_and, not_not] at hno
    obtain ⟨hitems, hseats, hdup⟩ := hno
    have hneg := (negativeTicketQuantities_eq_nil (show 0 < 100 by decide)).2 hc.notNegative
    refine ⟨hneg, (oversoldTicketQuantities_eq_nil (by decide) hd hneg).2 hc.notOversold,
      (duplicateActiveSeats_eq_nil (by decide)).2 fun s => ?_,
      (orphanReservationItems_eq_nil (by decide)).2 fun i hi => ?_,
      (orphanReservationSeats_eq_nil (by decide)).2 fun q hq => ?_,
      (staleActiveReservations_eq_nil (by decide)).2 hc.notStale⟩
    · rcases Nat.eq_zero_or_pos (d.seatCount eventIds s) with h0 | hpos
      · rw [h0]
        omega
      · obtain ⟨x, hx, hxs⟩ := List.countP_pos_iff.1 hpos
        simp only [Bool.and_eq_true, decide_eq_true_eq] at hxs
        have hle : d.activeRows s ≤ 1 := hxs.1 ▸ hc.notDuplicate x hx hxs.2
        rcases Nat.lt_or_ge 1 (d.seatCount eventIds s) with hlt | hge
        · have hzero : d.activeRows s = 0 := by
            have := hdup s hlt
            omega
          rw [hzero]
          omega
        · exact Nat.mul_le_mul hle hge
    · by_contra hno
      exact hno (hc.itemParent i hi (hitems i hi fun r hr hid => hno ⟨r, hr, hid⟩))
    · by_contra hno
      exact hno (hc.seatParent q hq (hseats q hq fun r hr hid => hno ⟨r, hr, hid⟩))

/-! ## Other events -/

/-- The rows of the events alone. -/
def Database.only (d : Database) (eventIds : Option (List UUID)) : Database :=
  { d with
    events := d.events.filter fun e => InScope eventIds e.id
    ticketTypes := d.ticketTypes.filter fun t => InScope eventIds t.eventId
    seats := d.seats.filter fun s => InScope eventIds s.eventId
    reservations := d.reservations.filter fun r => InScope eventIds r.eventId
    reservationItems := d.reservationItems.filter fun i => d.ItemInScope eventIds i
    reservationSeats := d.reservationSeats.filter fun q => d.SeatInScope eventIds q }

/-- No orphan belongs to another event, and no row of the events has its only
    parent there. -/
structure Database.Separate (d : Database) (eventIds : Option (List UUID)) : Prop where
  items : ∀ i ∈ d.reservationItems, d.Orphan i.reservationId → d.ItemInScope eventIds i
  itemParent : ∀ i ∈ d.reservationItems, d.ItemInScope eventIds i → ¬ d.Orphan i.reservationId →
    ¬ (d.only eventIds).Orphan i.reservationId
  seats : ∀ q ∈ d.reservationSeats, d.Orphan q.reservationId → d.SeatInScope eventIds q
  seatParent : ∀ q ∈ d.reservationSeats, d.SeatInScope eventIds q → ¬ d.Orphan q.reservationId →
    ¬ (d.only eventIds).Orphan q.reservationId

/-- A query that names the events finds the same among their rows. -/
theorem filter_scope {α : Type} (scope : α → Prop) [DecidablePred scope] (p : α → Bool)
    (rows : List α) : (rows.filter fun a => scope a).filter (fun a => p a && scope a) =
      rows.filter fun a => p a && scope a := by
  rw [List.filter_filter]
  refine List.filter_congr fun a _ => ?_
  rw [Bool.and_assoc, Bool.and_self]

theorem flatMap_filter {α β : Type} {p : α → Prop} [DecidablePred p] {f : α → List β}
    (h : ∀ a, ¬ p a → f a = []) (rows : List α) :
    (rows.filter fun a => p a).flatMap f = rows.flatMap f := by
  induction rows with
  | nil => rfl
  | cons a rows ih =>
    by_cases ha : p a
    · simp only [List.filter_cons, ha, decide_true, if_true, List.flatMap_cons, ih]
    · simp only [List.filter_cons, ha, decide_false, Bool.false_eq_true, if_false, List.flatMap_cons,
        ih, h a ha, List.nil_append]

theorem activeSeats_only : (d.only eventIds).activeSeats eventIds = d.activeSeats eventIds := by
  have hseats : ∀ q : ReservationSeat,
      ((d.seats.filter fun s => InScope eventIds s.eventId).filter fun s =>
        s.id = q.seatId && InScope eventIds s.eventId) =
      d.seats.filter fun s => s.id = q.seatId && InScope eventIds s.eventId := fun q =>
    filter_scope (fun s : Seat => InScope eventIds s.eventId) (fun s => s.id = q.seatId) d.seats
  simp only [Database.activeSeats, Database.only, hseats]
  rw [List.filter_filter]
  simp only [Bool.and_comm]
  rw [← List.filter_filter]
  refine flatMap_filter (fun q hq => ?_) _
  rw [List.map_eq_nil_iff, List.filter_eq_nil_iff]
  intro s hs hboth
  simp only [Bool.and_eq_true, decide_eq_true_eq] at hboth
  exact hq fun ids hids => ⟨s, hs, hboth.1, hboth.2 ids hids⟩

/-- The orphans are those of the events, if no other row is one. -/
theorem filter_orphan {α : Type} {scope : α → Prop} [DecidablePred scope] {parent : α → UUID}
    {rows : List α} (h : ∀ a ∈ rows, d.Orphan (parent a) → scope a)
    (hparent : ∀ a ∈ rows, scope a → ¬ d.Orphan (parent a) → ¬ (d.only eventIds).Orphan (parent a)) :
    ((rows.filter fun a => scope a).filter fun a => (d.only eventIds).Orphan (parent a)) =
      rows.filter fun a => d.Orphan (parent a) := by
  rw [List.filter_filter]
  refine List.filter_congr fun a ha => ?_
  rw [Bool.eq_iff_iff]
  simp only [Bool.and_eq_true, decide_eq_true_eq]
  constructor
  · rintro ⟨hno, hs⟩
    exact Decidable.byContradiction fun hhas => hparent a ha hs hhas hno
  · intro hno
    exact ⟨fun r hr => hno r (List.mem_filter.1 hr).1, h a ha hno⟩

/-- **The audit of separate events depends on their rows alone.** -/
theorem audit_only (h : d.Separate eventIds) :
    (d.only eventIds).audit now eventIds = d.audit now eventIds := by
  have hnegative : (d.only eventIds).negativeTicketQuantities eventIds 100 =
      d.negativeTicketQuantities eventIds 100 := by
    simp only [Database.negativeTicketQuantities, Database.only, filter_scope]
  have hoversold : (d.only eventIds).oversoldTicketQuantities eventIds 100 =
      d.oversoldTicketQuantities eventIds 100 := by
    have hsums : (∀ t ∈ (d.only eventIds).ticketTypes, InScope eventIds t.eventId →
        Int32 (t.soldQuantity + t.reservedQuantity)) ↔ ∀ t ∈ d.ticketTypes,
          InScope eventIds t.eventId → Int32 (t.soldQuantity + t.reservedQuantity) :=
      ⟨fun h t ht hs => h t (List.mem_filter.2 ⟨ht, decide_eq_true hs⟩) hs,
        fun h t ht hs => h t (List.mem_filter.1 ht).1 hs⟩
    simp only [Database.oversoldTicketQuantities, hsums]
    simp only [Database.only, filter_scope]
  have hitems : (d.only eventIds).orphanReservationItems 100 = d.orphanReservationItems 100 :=
    congrArg (fun rows => (firstRows ReservationItem.id 100 rows).map _)
      (filter_orphan h.items h.itemParent)
  have hseats : (d.only eventIds).orphanReservationSeats 100 = d.orphanReservationSeats 100 :=
    congrArg (fun rows => (firstRows ReservationSeat.id 100 rows).map _)
      (filter_orphan h.seats h.seatParent)
  have hstale : (d.only eventIds).staleActiveReservations eventIds 100 (now - 60 * 1000000) =
      d.staleActiveReservations eventIds 100 (now - 60 * 1000000) := by
    simp only [Database.staleActiveReservations, Database.only, filter_scope]
  simp only [Database.audit, hnegative, hoversold, hitems, hseats, hstale,
    Database.duplicateActiveSeats, activeSeats_only]

/-- Other events' rows never change the answer iff no events are named: an
    orphan of another event is always reported. -/
theorem local_iff {eventIds : Option (List UUID)} :
    (∀ (d d' : Database) (now : Instant), d.only eventIds = d'.only eventIds →
      d.audit now eventIds = d'.audit now eventIds) ↔ eventIds = none := by
  constructor
  · intro h
    cases eventIds with
    | none => rfl
    | some ids =>
      have hno := h {} { reservationItems := [⟨0, 0, 0, 1, .reserved⟩] } 0 rfl
      cases hno
  · rintro rfl d d' now heq
    have honly : ∀ d : Database, d.only none = d := fun d => by
      simp [Database.only, Database.ItemInScope, Database.SeatInScope, InScope]
    rw [honly, honly] at heq
    rw [heq]

end

open StressAdminService in
/-- **When the audit is right.**  It tells whether the events' rows are in order, unless they are
    and something gives a false alarm; a check is false iff a detail names it; and other events'
    rows leave the answer alone if the events are separate from them, which naming no events
    ensures and naming events does not. -/
theorem audit_iff (d : Database) (now : Instant) (eventIds : Option (List UUID)) (hd : d.Integers) :
    ((((∃ response, (assertConsistency now eventIds).alone d = (.ok response, d) ∧
        response.ok = true) ↔ d.Clean now eventIds) ↔
        ¬ (d.Clean now eventIds ∧ d.FalseAlarm eventIds)) ∧
      ∀ response, ((assertConsistency now eventIds).alone d).1 = .ok response →
        ∀ check, response.checks.get check = false ↔
          ∃ detail ∈ response.details, detail.check = check) ∧
    (∀ d' : Database, d.only eventIds = d'.only eventIds → d.Separate eventIds →
      d'.Separate eventIds → ((assertConsistency now eventIds).alone d).1 =
        ((assertConsistency now eventIds).alone d').1) ∧
    ((∀ (d d' : Database) (now : Instant), d.only eventIds = d'.only eventIds →
      ((assertConsistency now eventIds).alone d).1 =
        ((assertConsistency now eventIds).alone d').1) ↔ eventIds = none) := by
  simp only [alone_assertConsistency]
  refine ⟨⟨?_, fun response hr check => ?_⟩, fun d' heq h h' => ?_, local_iff⟩
  · have hpass : (∃ response, (d.audit now eventIds, d) = (.ok response, d) ∧ response.ok = true) ↔
        d.Clean now eventIds ∧ ¬ d.FalseAlarm eventIds := by
      rw [← passes_iff hd]
      simp only [Prod.mk.injEq, and_true, Database.Passes]
    rw [hpass]
    tauto
  · rw [Database.audit] at hr
    cases ho : d.oversoldTicketQuantities eventIds 100 with
    | error e =>
      rw [ho] at hr
      cases hr
    | ok oversold =>
      rw [ho] at hr
      cases hr
      exact consistencyResponse_check check
  · rw [← audit_only h, ← audit_only h', heq]

/-! ## Samples -/

/-- The events 10 and 11 with a ticket type each; the reservation of an item of
    event 11 is missing. -/
def Sample.orphaned : Database :=
  { events := [⟨10, "Concert", 0, 1⟩, ⟨11, "Play", 0, 1⟩]
    ticketTypes := [⟨20, 10, "General", 5, 0, 0⟩, ⟨21, 11, "General", 5, 0, 0⟩]
    reservationItems := [⟨110, 100, 21, 1, .reserved⟩] }

theorem Sample.orphaned_integers : Sample.orphaned.Integers := by
  unfold Database.Integers
  decide

/-- Among the rows of event 11 the missing reservation is found. -/
theorem audit_iff_orphaned : ((((∃ response,
        (StressAdminService.assertConsistency 0 (some [11])).alone Sample.orphaned =
          (.ok response, Sample.orphaned) ∧ response.ok = true) ↔
        Sample.orphaned.Clean 0 (some [11])) ↔
        ¬ (Sample.orphaned.Clean 0 (some [11]) ∧ Sample.orphaned.FalseAlarm (some [11]))) ∧
      ∀ response, ((StressAdminService.assertConsistency 0 (some [11])).alone Sample.orphaned).1 =
        .ok response → ∀ check, response.checks.get check = false ↔
          ∃ detail ∈ response.details, detail.check = check) :=
  (audit_iff Sample.orphaned 0 (some [11]) Sample.orphaned_integers).1

/-- The rows of event 10 are in order, but its audit fails for the item of event 11, and passes
    when this item is deleted. -/
theorem audit_misled : Sample.orphaned.Integers ∧ Sample.orphaned.Clean 0 (some [10]) ∧
    (∃ response, (StressAdminService.assertConsistency 0 (some [10])).alone Sample.orphaned =
      (.ok response, Sample.orphaned) ∧ response.ok = false) ∧
    (Sample.orphaned.only (some [10])).only (some [10]) = Sample.orphaned.only (some [10]) ∧
    ∃ response, (StressAdminService.assertConsistency 0 (some [10])).alone
      (Sample.orphaned.only (some [10])) = (.ok response, Sample.orphaned.only (some [10])) ∧
        response.ok = true := by
  refine ⟨Sample.orphaned_integers, ?_, ⟨_, rfl, rfl⟩, by decide, ⟨_, rfl, rfl⟩⟩
  exact ⟨by decide, by decide, by decide, by decide, by decide, by decide⟩

end TicketReservation
