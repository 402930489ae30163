/-
  The inventory view (`EventService.get_inventory`).

  The view lists the ticket types and the seats of an event; the status of a
  seat comes from an outer join with its active rows in `reservation_seats`.
  PostgreSQL sorts texts by the collation of the database, so a collation (a
  map of texts to their sort keys) is a parameter.

  * `getInventory_alone`: each ticket type and each seat is listed once, since
    no seat has two active rows;
  * `inventory_agrees`: what the view shows is what a reserve call with a new
    key would find, if the key can be stored.
-/
import TicketReservation.Conflicts
import Mathlib.Data.Prod.Lex

namespace TicketReservation

open Txn

/-! ## Responses -/

inductive SeatInventoryStatus where
  | available
  | reserved
  | confirmed
  deriving DecidableEq, Repr

structure TicketTypeInventoryResponse where
  id : UUID
  name : String
  total : ℤ
  sold : ℤ
  reserved : ℤ
  available : ℤ
  deriving DecidableEq, Repr

structure SeatInventoryResponse where
  id : UUID
  section_ : String
  rowName : String
  seatNumber : String
  status : SeatInventoryStatus
  deriving DecidableEq, Repr

structure EventInventoryResponse where
  eventId : UUID
  ticketTypes : List TicketTypeInventoryResponse
  seats : List SeatInventoryResponse
  deriving DecidableEq, Repr

structure SeatInventoryRecord where
  seat : Seat
  reservationStatus : Option ReservationStatus
  deriving DecidableEq, Repr

/-! ## Queries -/

section
variable {κ : Type} [LinearOrder κ] (collate : String → κ)

def listTicketTypes (eventId : UUID) : Tx (List TicketType) :=
  execute fun d =>
    { result := orderBy (fun t => collate t.name) TicketType.id
        (d.ticketTypes.filter fun t => t.eventId = eventId) }

/-- The rows of a seat in the outer join with its active holds. -/
def Database.seatInventory (d : Database) (seat : Seat) : List SeatInventoryRecord :=
  match d.reservationSeats.filter fun r => r.seatId = seat.id && r.status.active with
  | [] => [⟨seat, none⟩]
  | rows => rows.map fun r => ⟨seat, some r.status⟩

def listSeatInventory (eventId : UUID) : Tx (List SeatInventoryRecord) :=
  execute fun d =>
    { result := orderBy
        (fun r => toLex (collate r.seat.section_, toLex (collate r.seat.rowName,
          collate r.seat.seatNumber))) (fun r => r.seat.id)
        ((d.seats.filter fun s => s.eventId = eventId).flatMap d.seatInventory) }

end

namespace EventService

/-- `_seat_status`. -/
def seatStatus : Option ReservationStatus → SeatInventoryStatus
  | some .reserved => .reserved
  | some .confirmed => .confirmed
  | _ => .available

def ticketTypeResponse (t : TicketType) : TicketTypeInventoryResponse :=
  ⟨t.id, t.name, t.totalQuantity, t.soldQuantity, t.reservedQuantity,
    t.totalQuantity - t.soldQuantity - t.reservedQuantity⟩

def seatResponse (r : SeatInventoryRecord) : SeatInventoryResponse :=
  ⟨r.seat.id, r.seat.section_, r.seat.rowName, r.seat.seatNumber, seatStatus r.reservationStatus⟩

def getInventory {κ : Type} [LinearOrder κ] (collate : String → κ) (eventId : UUID) :
    Tx EventInventoryResponse := do
  let _ ← getEvent eventId
  let ticketTypes ← listTicketTypes collate eventId
  let seatRecords ← listSeatInventory collate eventId
  return ⟨eventId, ticketTypes.map ticketTypeResponse, seatRecords.map seatResponse⟩

end EventService

/-! ## What is listed -/

/-- The status of the active hold on a seat. -/
def Database.activeStatus (d : Database) (seatId : UUID) : Option ReservationStatus :=
  (d.reservationSeats.find? fun r => r.seatId = seatId && r.status.active).map ReservationSeat.status

section
variable {d : Database}

theorem activeStatus_eq_some (hd : Inv d) {seatId : UUID} {s : ReservationStatus} :
    d.activeStatus seatId = some s ↔
      ∃ q ∈ d.reservationSeats, q.seatId = seatId ∧ q.status.active ∧ q.status = s := by
  rw [Database.activeStatus, Option.map_eq_some_iff]
  constructor
  · rintro ⟨q, hf, rfl⟩
    have hp := List.find?_some hf
    rw [Bool.and_eq_true, decide_eq_true_eq] at hp
    exact ⟨q, List.mem_of_find?_eq_some hf, hp.1, hp.2, rfl⟩
  · rintro ⟨q, hq, rfl, ha, rfl⟩
    cases hf : d.reservationSeats.find? fun r => r.seatId = q.seatId && r.status.active with
    | none => exact absurd (List.find?_eq_none.1 hf q hq) (by simp [ha])
    | some q' =>
      have hp := List.find?_some hf
      rw [Bool.and_eq_true, decide_eq_true_eq] at hp
      have hmem := List.mem_of_find?_eq_some hf
      refine ⟨q', rfl, ?_⟩
      rw [Table.eq_of_key hd.activeSeats (List.mem_filter.2 ⟨hmem, hp.2⟩)
        (List.mem_filter.2 ⟨hq, ha⟩) hp.1]

/-- **The outer join has one row for each seat.** -/
theorem seatInventory_eq (hd : Inv d) (seat : Seat) :
    d.seatInventory seat = [⟨seat, d.activeStatus seat.id⟩] := by
  unfold Database.seatInventory Database.activeStatus
  have hn : ((d.reservationSeats.filter fun r => r.seatId = seat.id && r.status.active).map
      ReservationSeat.seatId).Nodup := by
    have hsub : (d.reservationSeats.filter fun r => r.seatId = seat.id && r.status.active) =
        (d.reservationSeats.filter fun r => r.status.active).filter fun r => r.seatId = seat.id := by
      rw [List.filter_filter]
    rw [hsub]
    exact hd.activeSeats.sublist (List.filter_sublist.map _)
  rw [← List.head?_filter]
  cases hf : d.reservationSeats.filter fun r => r.seatId = seat.id && r.status.active with
  | nil => rfl
  | cons q rows =>
    have hid : ∀ r ∈ q :: rows, r.seatId = seat.id := by
      intro r hr
      rw [← hf] at hr
      have hp := (List.mem_filter.1 hr).2
      rw [Bool.and_eq_true, decide_eq_true_eq] at hp
      exact hp.1
    rw [hf, List.map_cons, List.nodup_cons] at hn
    cases rows with
    | nil => rfl
    | cons r rows =>
      refine absurd ?_ hn.1
      rw [hid q List.mem_cons_self, ← hid r (List.mem_cons_of_mem _ List.mem_cons_self)]
      exact List.mem_cons_self

theorem flatMap_seatInventory (hd : Inv d) (seats : List Seat) :
    seats.flatMap d.seatInventory = seats.map fun s => ⟨s, d.activeStatus s.id⟩ := by
  have hfun : d.seatInventory = fun s => [⟨s, d.activeStatus s.id⟩] := funext (seatInventory_eq hd)
  rw [hfun, List.map_eq_flatMap]

end

namespace EventService

/-- A seat as the view shows it. -/
def seatView (d : Database) (seat : Seat) : SeatInventoryResponse :=
  seatResponse ⟨seat, d.activeStatus seat.id⟩

section
variable {d : Database} {eventId : UUID} {κ : Type} [LinearOrder κ]

theorem ticketTypes_once (hd : Inv d) {xs : List TicketTypeInventoryResponse}
    (h : xs.Perm ((d.ticketTypes.filter fun t => t.eventId = eventId).map ticketTypeResponse)) :
    (xs.map TicketTypeInventoryResponse.id).Nodup := by
  rw [(h.map _).nodup_iff, List.map_map]
  exact hd.ticketTypeIds.sublist (List.filter_sublist.map _)

theorem seats_once (hd : Inv d) {xs : List SeatInventoryResponse}
    (h : xs.Perm ((d.seats.filter fun s => s.eventId = eventId).map (seatView d))) :
    (xs.map SeatInventoryResponse.id).Nodup := by
  rw [(h.map _).nodup_iff, List.map_map]
  exact hd.seatIds.sublist (List.filter_sublist.map _)

/-- No ticket type is shown as oversold. -/
theorem available_nonneg (hd : Inv d) {r : TicketType} (hr : r ∈ d.ticketTypes) :
    0 ≤ (ticketTypeResponse r).available := by
  have hc := (hd.ticketTypeChecks r hr).allocated
  simp only [ticketTypeResponse]
  omega

/-- **The view lists the ticket types and the seats of the event**, each once. -/
theorem getInventory_alone (collate : String → κ) (hd : Inv d) (he : ∃ e ∈ d.events, e.id = eventId) :
    ∃ a, (getInventory collate eventId).alone d = (.ok a, d) ∧ a.eventId = eventId ∧
      a.ticketTypes.Perm ((d.ticketTypes.filter fun t => t.eventId = eventId).map
        ticketTypeResponse) ∧
      a.seats.Perm ((d.seats.filter fun s => s.eventId = eventId).map (seatView d)) := by
  obtain ⟨e, hf⟩ : ∃ e, d.events.find? (fun e => e.id = eventId) = some e := by
    rw [← Option.isSome_iff_exists, List.find?_isSome]
    obtain ⟨e, he, hid⟩ := he
    exact ⟨e, he, by simpa using hid⟩
  let ticketTypes := orderBy (fun t => collate t.name) TicketType.id
    (d.ticketTypes.filter fun t => t.eventId = eventId)
  let records := orderBy (fun r : SeatInventoryRecord => toLex (collate r.seat.section_,
      toLex (collate r.seat.rowName, collate r.seat.seatNumber))) (fun r => r.seat.id)
    ((d.seats.filter fun s => s.eventId = eventId).flatMap d.seatInventory)
  refine ⟨⟨eventId, ticketTypes.map ticketTypeResponse, records.map seatResponse⟩, ?_, rfl,
    (orderBy_perm _).map _, ?_⟩
  · simp only [Prog.alone, getInventory, getEvent, listTicketTypes, listSeatInventory, execute,
      Prog.bind_eq, Prog.run_bind, Prog.run_exec, Stmt.ofPlan, Session.view_empty, hf, Prog.pure_eq,
      Prog.run_ret]
    rfl
  · refine ((orderBy_perm _).map _).trans ?_
    rw [flatMap_seatInventory hd, List.map_map]
    exact .refl _

end

end EventService

/-! ## Agreement with `reserve` -/

/-- The visitor's session is known, the key is not used, and the ids are new. -/
structure FreshRequest (d : Database) (visitorSession : VisitorSession) (idempotencyKey : String)
    (uuid4 : ℕ → UUID) : Prop where
  session : visitorSession ∈ d.visitorSessions
  unused : ∀ kind, ¬ d.KeyUsed visitorSession.id idempotencyKey kind
  ids : FreshIds d uuid4

/-- The request alone succeeds in `d`. -/
def QuantityReservationCreate.Succeeds (p : QuantityReservationCreate) (settings : Settings)
    (visitorSession : VisitorSession) (uuid4 : ℕ → UUID) (now : Instant) (d : Database) : Prop :=
  ∃ a, ((QuantityReservationService.reserve settings visitorSession p.eventId p.ticketTypeId
    p.quantity p.idempotencyKey uuid4 now).alone d).1 = .ok a

def SeatReservationCreate.Succeeds (p : SeatReservationCreate) (settings : Settings)
    (visitorSession : VisitorSession) (uuid4 : ℕ → UUID) (now : Instant) (d : Database) : Prop :=
  ∃ a, ((SeatReservationService.reserve settings visitorSession p.eventId p.seatIds
    p.idempotencyKey uuid4 now).alone d).1 = .ok a

section
variable {settings : Settings} {d : Database} {visitorSession : VisitorSession} {uuid4 : ℕ → UUID}
  {now : Instant}

/-- **A new quantity request succeeds iff its key can be stored and the stock suffices.** -/
theorem QuantityReservationCreate.succeeds_iff {p : QuantityReservationCreate} (hd : Inv d)
    (h : FreshRequest d visitorSession p.idempotencyKey uuid4) :
    p.Succeeds settings visitorSession uuid4 now d ↔
      Storable p.idempotencyKey ∧ d.Stock p.eventId p.ticketTypeId p.quantity := by
  rw [Succeeds, (QuantityReservationService.atomically_reserve p.quantity_pos Response.quantity).alone
    (fun _ _ h => by cases h; rfl) hd]
  constructor
  · rintro ⟨a, ha⟩
    by_cases hk : Storable p.idempotencyKey
    · refine ⟨hk, not_not.1 fun hstock => ?_⟩
      by_cases hint : Int32 p.quantity
      · rw [(QuantityReservationService.reserveOutcome_fresh hd h.session h.ids hk h.unused
          p.quantity_pos hint).2 hstock] at ha
        cases ha
      · have hl := (quantityLookup_eq_none hd).2 ⟨hk, h.unused .quantity⟩
        rw [QuantityReservationService.reserveOutcome, hl] at ha
        simp only [if_pos hint] at ha
        cases ha
    · rw [QuantityReservationService.reserveOutcome_unstorable hk] at ha
      cases ha
  · rintro ⟨hk, hstock⟩
    have hint : Int32 p.quantity := by
      obtain ⟨t, ht, -, -, hle⟩ := hstock
      have hc := hd.ticketTypeChecks t ht
      have := hd.ticketTypeInts t ht
      have := hc.sold
      have := hc.reserved
      have := p.quantity_pos
      constructor <;> omega
    rw [(QuantityReservationService.reserveOutcome_fresh hd h.session h.ids hk h.unused
      p.quantity_pos hint).1 hstock]
    exact ⟨_, rfl⟩

/-- **A new seat request succeeds iff its key can be stored, its seats belong to the event and none
    is taken.** -/
theorem SeatReservationCreate.succeeds_iff {p : SeatReservationCreate} (hd : Inv d)
    (h : FreshRequest d visitorSession p.idempotencyKey uuid4) :
    p.Succeeds settings visitorSession uuid4 now d ↔
      Storable p.idempotencyKey ∧ d.HasSeats p.eventId p.seatIds ∧ ¬ d.SeatTaken p.seatIds now := by
  rw [Succeeds, (SeatReservationService.atomically_reserve p.seatIds_ne_nil p.seats_unique
    Response.seats).alone (fun _ _ h => by cases h; rfl) hd]
  by_cases hk : Storable p.idempotencyKey
  · rw [and_iff_right hk]
    by_cases hseats : d.HasSeats p.eventId p.seatIds
    · rw [SeatReservationService.reserveOutcome_fresh hd h.session h.ids hk h.unused
        p.seatIds_ne_nil p.seats_unique hseats]
      split_ifs with htaken
      · simp [htaken]
      · exact ⟨fun _ => ⟨hseats, htaken⟩, fun _ => ⟨_, rfl⟩⟩
    · have hl := (seatLookup_eq_none hd).2 ⟨hk, h.unused .seats⟩
      have hne := mt (eventSeats_eq_iff hd p.seats_unique).1 hseats
      rw [SeatReservationService.reserveOutcome, hl]
      simp only [if_pos hne]
      constructor
      · rintro ⟨a, ha⟩
        cases ha
      · rintro ⟨h, -⟩
        exact absurd h hseats
  · rw [SeatReservationService.reserveOutcome_unstorable hk]
    constructor
    · rintro ⟨a, ha⟩
      cases ha
    · rintro ⟨h, -⟩
      exact absurd h hk

end

/-- The seat is shown as available, or as reserved by a hold that has expired. -/
def SeatInventoryResponse.Reservable (s : SeatInventoryResponse) (now : Instant) (d : Database) :
    Prop :=
  s.status = .available ∨ (s.status = .reserved ∧ ∃ q ∈ d.reservationSeats, q.seatId = s.id ∧
    q.status.active ∧ q.expiresAt ≤ now)

/-- **The view agrees with what `reserve` would do** in the state of the run in which it is read. -/
structure EventInventoryResponse.Agrees (settings : Settings) (cfg : ServiceConfig)
    (a : EventInventoryResponse) : Prop where
  /-- each ticket type of the event is listed once, and nothing else -/
  ticketTypes : a.ticketTypes.Perm ((cfg.db.ticketTypes.filter fun t => t.eventId = a.eventId).map
    EventService.ticketTypeResponse)
  ticketTypesOnce : (a.ticketTypes.map TicketTypeInventoryResponse.id).Nodup
  /-- each seat of the event is listed once, and nothing else -/
  seats : a.seats.Perm ((cfg.db.seats.filter fun s => s.eventId = a.eventId).map
    (EventService.seatView cfg.db))
  seatsOnce : (a.seats.map SeatInventoryResponse.id).Nodup
  available : ∀ t ∈ a.ticketTypes, t.available = t.total - t.sold - t.reserved ∧ 0 ≤ t.available
  /-- a new quantity request succeeds iff it asks for no more than is shown as available; this is so
  iff its key can be stored, or it asks for more -/
  quantity : ∀ t ∈ a.ticketTypes, ∀ (p : QuantityReservationCreate) v uuid4 now,
    FreshRequest cfg.db v p.idempotencyKey uuid4 → p.eventId = a.eventId → p.ticketTypeId = t.id →
      ((p.Succeeds settings v uuid4 now cfg.db ↔ p.quantity ≤ t.available) ↔
        Storable p.idempotencyKey ∨ ¬ p.quantity ≤ t.available)
  /-- a new request for one seat succeeds iff the seat is shown as available, or as reserved by a
  hold that has expired; this is so iff its key can be stored, or the seat is not shown so -/
  seat : ∀ s ∈ a.seats, ∀ (p : SeatReservationCreate) v uuid4 now,
    FreshRequest cfg.db v p.idempotencyKey uuid4 → p.eventId = a.eventId → p.seatIds = [s.id] →
      ((p.Succeeds settings v uuid4 now cfg.db ↔ s.Reservable now cfg.db) ↔
        Storable p.idempotencyKey ∨ ¬ s.Reservable now cfg.db)
  /-- a seat shown as confirmed keeps its confirmed hold as the only active one, and no new request
  for it succeeds in a later state -/
  confirmed : ∀ s ∈ a.seats, s.status = .confirmed → ∀ cfg', ServiceRun settings cfg cfg' →
    (∃ q ∈ cfg.db.reservationSeats, q.seatId = s.id ∧ q.status = .confirmed ∧
      ∀ q' ∈ cfg'.db.reservationSeats, q'.seatId = s.id → q'.status.active → q' = q) ∧
    ∀ (p : SeatReservationCreate) v uuid4 now, FreshRequest cfg'.db v p.idempotencyKey uuid4 →
      s.id ∈ p.seatIds → ¬ p.Succeeds settings v uuid4 now cfg'.db

section
variable {settings : Settings} {d d' : Database}

theorem seatStatus_eq_available {o : Option ReservationStatus} (h : ∀ s ∈ o, s.active) :
    EventService.seatStatus o = .available ↔ o = none := by
  cases o with
  | none => simp [EventService.seatStatus]
  | some s => cases s <;> simp_all [EventService.seatStatus]

theorem seatStatus_eq_reserved {o : Option ReservationStatus} :
    EventService.seatStatus o = .reserved ↔ o = some .reserved := by
  cases o with
  | none => simp [EventService.seatStatus]
  | some s => cases s <;> simp [EventService.seatStatus]

theorem seatStatus_eq_confirmed {o : Option ReservationStatus} :
    EventService.seatStatus o = .confirmed ↔ o = some .confirmed := by
  cases o with
  | none => simp [EventService.seatStatus]
  | some s => cases s <;> simp [EventService.seatStatus]

/-- A CONFIRMED hold stays as it is. -/
theorem confirmed_leads {q : ReservationSeat} (hd : Inv d) (hl : protocol.Leads d d')
    (hq : q ∈ d.reservationSeats) (hc : q.status = .confirmed) : q ∈ d'.reservationSeats := by
  obtain ⟨q', hq', rfl⟩ := (keeps_hold (Λ := []) (A := fun r => r = q) (by
    rintro r r' hm rfl
    have hst : r'.status = r.status := hm.status.resolve_left (by rw [hc]; simp)
    rw [hm.same, hst])).leads hd hl ⟨q, hq, rfl⟩
  exact hq'

/-- **The active hold on a seat decides**: there is none, or it has lapsed. -/
theorem seatTaken_iff (hd : Inv d) {seatId : UUID} {now : Instant} :
    ¬ d.SeatTaken [seatId] now ↔ d.activeStatus seatId = none ∨
      (d.activeStatus seatId = some .reserved ∧ ∃ q ∈ d.reservationSeats, q.seatId = seatId ∧
        q.status.active ∧ q.expiresAt ≤ now) := by
  have hactive : ∀ {q : ReservationSeat}, q.status = .confirmed ∨
      (q.status = .reserved ∧ now < q.expiresAt) → q.status.active := by
    rintro q (h | ⟨h, -⟩) <;> simp [h]
  cases hs : d.activeStatus seatId with
  | none =>
    refine iff_of_true ?_ (Or.inl rfl)
    rintro ⟨q, hq, hid, htaken⟩
    have := (activeStatus_eq_some hd).2 ⟨q, hq, List.mem_singleton.1 hid, hactive htaken, rfl⟩
    rw [hs] at this
    cases this
  | some s =>
    obtain ⟨q, hq, rfl, ha, rfl⟩ := (activeStatus_eq_some hd).1 hs
    have honly : ∀ q' ∈ d.reservationSeats, q'.seatId = q.seatId → q'.status.active → q' = q :=
      fun q' hq' hid ha' => Table.eq_of_key hd.activeSeats (List.mem_filter.2 ⟨hq', ha'⟩)
        (List.mem_filter.2 ⟨hq, ha⟩) hid
    constructor
    · intro hfree
      right
      cases hst : q.status with
      | reserved =>
        refine ⟨rfl, q, hq, rfl, ha, not_lt.1 fun hlt => hfree ?_⟩
        exact ⟨q, hq, List.mem_singleton.2 rfl, Or.inr ⟨hst, hlt⟩⟩
      | confirmed => exact absurd ⟨q, hq, List.mem_singleton.2 rfl, Or.inl hst⟩ hfree
      | cancelled | expired => rw [hst] at ha; cases ha
    · rintro (h | ⟨hres, q', hq', hid, ha', hle⟩) ⟨r, hr, hrid, htaken⟩
      · cases h
      · obtain rfl := honly q' hq' hid ha'
        obtain rfl := honly r hr (List.mem_singleton.1 hrid) (hactive htaken)
        rcases htaken with hc | ⟨-, hlt⟩
        · rw [hc] at hres
          cases hres
        · exact absurd hle (not_le.2 hlt)

/-- The active rows of a seat are active. -/
theorem active_of_activeStatus (hd : Inv d) (seatId : UUID) : ∀ s ∈ d.activeStatus seatId, s.active := by
  intro s hs
  obtain ⟨q, -, -, ha, rfl⟩ := (activeStatus_eq_some hd).1 hs
  exact ha

section
variable {v : VisitorSession} {uuid4 : ℕ → UUID} {now : Instant}

/-- A new request with a storable key takes what is shown as available. -/
theorem quantity_agrees (hd : Inv d) {t : TicketType} (ht : t ∈ d.ticketTypes)
    {p : QuantityReservationCreate} (hfresh : FreshRequest d v p.idempotencyKey uuid4)
    (hev : t.eventId = p.eventId) (hid : p.ticketTypeId = t.id) :
    p.Succeeds settings v uuid4 now d ↔ Storable p.idempotencyKey ∧
      p.quantity ≤ (EventService.ticketTypeResponse t).available := by
  rw [QuantityReservationCreate.succeeds_iff hd hfresh, Database.Stock]
  refine and_congr_right fun _ => ?_
  constructor
  · rintro ⟨t', ht', hid', -, hle⟩
    obtain rfl := Table.eq_of_key hd.ticketTypeIds ht' ht (hid'.trans hid)
    exact hle
  · exact fun hle => ⟨t, ht, hid.symm, hev, hle⟩

/-- A new request with a storable key takes a seat that is shown as available, or whose hold has
    lapsed. -/
theorem seat_agrees (hd : Inv d) {c : Seat} (hc : c ∈ d.seats) {p : SeatReservationCreate}
    (hfresh : FreshRequest d v p.idempotencyKey uuid4) (hev : c.eventId = p.eventId)
    (hid : p.seatIds = [c.id]) :
    p.Succeeds settings v uuid4 now d ↔
      Storable p.idempotencyKey ∧ (EventService.seatView d c).Reservable now d := by
  have hhas : d.HasSeats p.eventId p.seatIds := by
    rw [hid]
    intro s hs
    exact ⟨c, hc, (List.mem_singleton.1 hs).symm, hev⟩
  rw [SeatReservationCreate.succeeds_iff hd hfresh, and_iff_right hhas, hid]
  refine and_congr_right fun _ => (seatTaken_iff hd).trans (or_congr ?_ (and_congr_left' ?_))
  · exact (seatStatus_eq_available (active_of_activeStatus hd c.id)).symm
  · exact seatStatus_eq_reserved.symm

end

/-- A seat that is shown as confirmed stays taken. -/
theorem confirmed_agrees (hd : Inv d) (hl : protocol.Leads d d') {c : Seat}
    (hconf : (EventService.seatView d c).status = .confirmed) :
    (∃ q ∈ d.reservationSeats, q.seatId = c.id ∧ q.status = .confirmed ∧
      ∀ q' ∈ d'.reservationSeats, q'.seatId = c.id → q'.status.active → q' = q) ∧
    ∀ (p : SeatReservationCreate) v uuid4 now, FreshRequest d' v p.idempotencyKey uuid4 →
      c.id ∈ p.seatIds → ¬ p.Succeeds settings v uuid4 now d' := by
  obtain ⟨q, hq, hqs, ha, hst⟩ := (activeStatus_eq_some hd).1 (seatStatus_eq_confirmed.1 hconf)
  have hd' : Inv d' := hl.inv hd
  have hq' := confirmed_leads hd hl hq hst
  refine ⟨⟨q, hq, hqs, hst, fun q' hm hid ha' => ?_⟩, fun p v uuid4 now hfresh hmem hsucc => ?_⟩
  · exact Table.eq_of_key hd'.activeSeats (List.mem_filter.2 ⟨hm, ha'⟩) (List.mem_filter.2 ⟨hq', ha⟩)
      (hid.trans hqs.symm)
  · refine ((SeatReservationCreate.succeeds_iff hd' hfresh).1 hsucc).2.2 ⟨q, hq', ?_, Or.inl hst⟩
    rw [hqs]
    exact hmem

end

/-- **The inventory view agrees with what `reserve` would do.** -/
theorem inventory_agrees {settings : Settings} {d₀ : Database} {cfg : ServiceConfig} {κ : Type}
    [LinearOrder κ] (h : Inventory d₀) (r : ServiceRun settings (start d₀) cfg)
    (collate : String → κ) {eventId : UUID} (he : ∃ e ∈ cfg.db.events, e.id = eventId) :
    ∃ a, (EventService.getInventory collate eventId).alone cfg.db = (.ok a, cfg.db) ∧
      a.eventId = eventId ∧ a.Agrees settings cfg := by
  obtain ⟨l, hl⟩ := System.tracks_run (S := system settings) h.inv r
  have hd : Inv cfg.db := hl.inv
  obtain ⟨a, ha, hid, htypes, hseats⟩ := EventService.getInventory_alone collate hd he
  refine ⟨a, ha, hid, ?_⟩
  subst hid
  have htype : ∀ {t}, t ∈ a.ticketTypes → ∃ r ∈ cfg.db.ticketTypes, r.eventId = a.eventId ∧
      EventService.ticketTypeResponse r = t := by
    intro t ht
    obtain ⟨r, hr, rfl⟩ := List.mem_map.1 (htypes.mem_iff.1 ht)
    exact ⟨r, (List.mem_filter.1 hr).1, by simpa using (List.mem_filter.1 hr).2, rfl⟩
  have hseat : ∀ {s}, s ∈ a.seats → ∃ c ∈ cfg.db.seats, c.eventId = a.eventId ∧
      EventService.seatView cfg.db c = s := by
    intro s hs
    obtain ⟨c, hc, rfl⟩ := List.mem_map.1 (hseats.mem_iff.1 hs)
    exact ⟨c, (List.mem_filter.1 hc).1, by simpa using (List.mem_filter.1 hc).2, rfl⟩
  exact
    { ticketTypes := htypes
      ticketTypesOnce := EventService.ticketTypes_once hd htypes
      seats := hseats
      seatsOnce := EventService.seats_once hd hseats
      available := fun t ht => by
        obtain ⟨r, hr, -, rfl⟩ := htype ht
        exact ⟨rfl, EventService.available_nonneg hd hr⟩
      quantity := fun t ht p v uuid4 now hfresh hev hid => by
        obtain ⟨r, hr, hre, rfl⟩ := htype ht
        rw [quantity_agrees hd hr hfresh (hre.trans hev.symm) hid, and_iff_right_iff_imp,
          imp_iff_or_not]
      seat := fun s hs p v uuid4 now hfresh hev hid => by
        obtain ⟨c, hc, hce, rfl⟩ := hseat hs
        rw [seat_agrees hd hc hfresh (hce.trans hev.symm) hid, and_iff_right_iff_imp,
          imp_iff_or_not]
      confirmed := fun s hs hconf cfg' r' => by
        obtain ⟨c, -, -, rfl⟩ := hseat hs
        exact confirmed_agrees hd (System.leads_run (S := system settings) ⟨l, hl⟩ r') hconf }

/-- Alice holds the seat 30 and Bob has confirmed two tickets. -/
def Sample.viewed : List (Action Call) :=
  alone 0 8 (.reserveSeats alice oneSeat (uuid4 100) 5) ++
    alone 1 6 (.reserveQuantity bob twoTickets (uuid4 200) 5) ++ alone 2 9 (.confirm 200 bob 6)

theorem inventory_agrees_viewed :
    ∃ a, (EventService.getInventory (κ := ℕ) String.length 10).alone
      ((start Sample.inventory).after (Call.prog Sample.settings) Sample.viewed).db = (.ok a,
        ((start Sample.inventory).after (Call.prog Sample.settings) Sample.viewed).db) ∧
      a.eventId = 10 ∧ a.Agrees Sample.settings
        ((start Sample.inventory).after (Call.prog Sample.settings) Sample.viewed) :=
  inventory_agrees Sample.inventory_inventory (run_after (by decide)) String.length (by decide)

/-- With a key that contains U+0000 no ticket and no seat is reserved, though all are available. -/
theorem inventory_disagrees : Reachable Sample.settings Sample.inventory ∧
    (EventService.getInventory String.length 10).alone Sample.inventory =
      (.ok ⟨10, [⟨20, "General", 5, 0, 0, 5⟩], [⟨30, "A", "1", "1", .available⟩,
        ⟨31, "A", "1", "2", .available⟩]⟩, Sample.inventory) ∧
    FreshRequest Sample.inventory Sample.bob "\x00" (Sample.uuid4 100) ∧
    ¬ (Sample.nulTickets.Succeeds Sample.settings Sample.bob (Sample.uuid4 100) 6 Sample.inventory ↔
      Sample.nulTickets.quantity ≤ 5) ∧
    ¬ (Sample.nulSeat.Succeeds Sample.settings Sample.bob (Sample.uuid4 100) 6 Sample.inventory ↔
      SeatInventoryResponse.Reservable ⟨30, "A", "1", "1", .available⟩ 6 Sample.inventory) := by
  have hfresh : FreshRequest Sample.inventory Sample.bob "\x00" (Sample.uuid4 100) :=
    ⟨by decide, by rintro (_ | _) <;> simp only [Database.KeyUsed] <;> decide,
      Sample.freshIds (by decide) (by decide) (by decide)⟩
  have hd : Inv Sample.inventory := Sample.inventory_inventory.inv
  refine ⟨Sample.inventory_inventory.reachable, by decide, hfresh, fun h => ?_, fun h => ?_⟩
  · have hk := ((QuantityReservationCreate.succeeds_iff hd hfresh).1 (h.2 (by decide))).1
    exact absurd hk (by decide)
  · have hk := ((SeatReservationCreate.succeeds_iff hd hfresh).1 (h.2 (.inl rfl))).1
    exact absurd hk (by decide)

end TicketReservation
