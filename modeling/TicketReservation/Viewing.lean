/-
  Looks at the inventory while calls of the reservation services are running
  (`EventService.get_inventory`).

  `get_inventory` makes three queries, and at READ COMMITTED each of them sees
  the store that was committed last.  So the ticket types that it shows may be
  older than the seats, and no committed store need be as the view says.

  * `Visit`: a reservation call, or a look at the inventory;
  * `inventory_seen`: looks disturb no call, and a look shows the ticket types of
    a committed store and the seats of a later one, each once.
-/
import TicketReservation.InventoryView
import TicketReservation.Txn.Readers

namespace TicketReservation

open Txn

/-! ## Visits -/

/-- A call of the reservation services or a look at the inventory. -/
inductive Visit where
  | reservation (call : Call)
  | inventory (eventId : UUID)

inductive Shown where
  | reservation (response : Response)
  | inventory (response : EventInventoryResponse)
  deriving DecidableEq, Repr

def Visit.call : Visit → Option Call
  | .reservation call => some call
  | .inventory _ => none

section
variable {κ : Type} [LinearOrder κ] (settings : Settings) (collate : String → κ)

def Visit.prog : Visit → Tx Shown
  | .reservation call => (call.prog settings).map .reservation
  | .inventory eventId => (EventService.getInventory collate eventId).map .inventory

end

abbrev VisitConfig := Config Visit Database Write Lock Error Shown

/-! ## The three reads -/

namespace EventService

section
variable {κ : Type} [LinearOrder κ] (collate : String → κ) {α : Type}

/-- The answer of `list_ticket_types`. -/
def ticketTypesOf (eventId : UUID) (d : Database) : List TicketType :=
  orderBy (fun t => collate t.name) TicketType.id
    (d.ticketTypes.filter fun t => t.eventId = eventId)

/-- The answer of `list_seat_inventory`. -/
def seatRecordsOf (eventId : UUID) (d : Database) : List SeatInventoryRecord :=
  orderBy (fun r => toLex (collate r.seat.section_, toLex (collate r.seat.rowName,
    collate r.seat.seatNumber))) (fun r => r.seat.id)
    ((d.seats.filter fun s => s.eventId = eventId).flatMap d.seatInventory)

/-- What is shown if the queries see `d₂` and `d₃`. -/
def viewOf (eventId : UUID) (d₂ d₃ : Database) : EventInventoryResponse :=
  ⟨eventId, (ticketTypesOf collate eventId d₂).map ticketTypeResponse,
    (seatRecordsOf collate eventId d₃).map seatResponse⟩

theorem getInventory_reads (eventId : UUID) (f : EventInventoryResponse → α) :
    (getInventory collate eventId).map f =
      (Prog.exec (Stmt.read fun d => d.events.find? fun e => e.id = eventId)).bind fun event =>
        event.elim (.raise .eventNotFoundError) fun _ =>
          (Prog.exec (Stmt.read (ticketTypesOf collate eventId))).bind fun ticketTypes =>
            (Prog.exec (Stmt.read (seatRecordsOf collate eventId))).bind fun seatRecords =>
              .ret (f ⟨eventId, ticketTypes.map ticketTypeResponse,
                seatRecords.map seatResponse⟩) := by
  refine congrArg (Prog.stmt _) (funext fun event => ?_)
  cases event <;> rfl

theorem silent_getInventory (eventId : UUID) (f : EventInventoryResponse → α) :
    ((getInventory collate eventId).map f).Silent := by
  rw [getInventory_reads]
  refine (Prog.silent_read _).bind fun event => ?_
  cases event with
  | none => trivial
  | some _ => exact (Prog.silent_read _).bind fun _ => (Prog.silent_read _).bind fun _ => trivial

/-- At its end it has found no event, or has made its three reads. -/
theorem sees_getInventory {eventId : UUID} {f : EventInventoryResponse → α} {ds : List Database}
    {q : Tx α} (h : Sees ((getInventory collate eventId).map f) ds q) (hq : q.Ended) :
    (∃ d₁, ds = [d₁] ∧ (∀ e ∈ d₁.events, e.id ≠ eventId) ∧ q = .raise .eventNotFoundError) ∨
      ∃ d₁ d₂ d₃, ds = [d₁, d₂, d₃] ∧ q = .ret (f (viewOf collate eventId d₂ d₃)) := by
  rw [getInventory_reads] at h
  obtain ⟨d₁, ds₁, rfl, h₁⟩ := h.read hq
  cases hf : d₁.events.find? fun e => e.id = eventId with
  | none =>
    rw [hf] at h₁
    cases h₁ with
    | nil => exact .inl ⟨d₁, rfl, by simpa using hf, rfl⟩
  | some event =>
    rw [hf] at h₁
    obtain ⟨d₂, ds₂, rfl, h₂⟩ := Sees.read h₁ hq
    obtain ⟨d₃, ds₃, rfl, h₃⟩ := Sees.read h₂ hq
    cases h₃ with
    | nil => exact .inr ⟨d₁, d₂, d₃, rfl, rfl⟩

end

end EventService

/-- The calls among the visits. -/
def visits {κ : Type} [LinearOrder κ] (settings : Settings) (collate : String → κ) :
    Viewers (Call.prog settings) (Visit.prog settings collate) where
  call := Visit.call
  answer := .reservation
  kept v c h := by
    cases v with
    | reservation call =>
      cases h
      rfl
    | inventory => cases h
  silent v h := by
    cases v with
    | reservation => cases h
    | inventory eventId => exact EventService.silent_getInventory collate eventId _

/-! ## What is shown -/

/-- **The view shows** the ticket types of `d₂` and the seats of the later `d₃`; `d` is the store by
now. -/
structure EventInventoryResponse.Shows (settings : Settings) (eventId : UUID) (d₂ d₃ d : Database)
    (a : EventInventoryResponse) : Prop where
  event : a.eventId = eventId
  /-- each ticket type of the event is listed once, and nothing else -/
  ticketTypes : a.ticketTypes.Perm ((d₂.ticketTypes.filter fun t => t.eventId = eventId).map
    EventService.ticketTypeResponse)
  ticketTypesOnce : (a.ticketTypes.map TicketTypeInventoryResponse.id).Nodup
  available : ∀ t ∈ a.ticketTypes, t.available = t.total - t.sold - t.reserved ∧ 0 ≤ t.available
  /-- each seat of the event is listed once, and nothing else -/
  seats : a.seats.Perm ((d₃.seats.filter fun s => s.eventId = eventId).map
    (EventService.seatView d₃))
  seatsOnce : (a.seats.map SeatInventoryResponse.id).Nodup
  /-- a seat shown as confirmed is still so, by its only active hold -/
  confirmed : ∀ s ∈ a.seats, s.status = .confirmed → ∃ q ∈ d.reservationSeats, q.seatId = s.id ∧
    q.status = .confirmed ∧ ∀ q' ∈ d.reservationSeats, q'.seatId = s.id → q'.status.active → q' = q
  /-- and no new request for it succeeds -/
  gone : ∀ s ∈ a.seats, s.status = .confirmed → ∀ (p : SeatReservationCreate) v uuid4 now,
    FreshRequest d v p.idempotencyKey uuid4 → s.id ∈ p.seatIds → ¬ p.Succeeds settings v uuid4 now d

/-- What the queries show of two committed stores. -/
theorem EventService.viewOf_shows {κ : Type} [LinearOrder κ] (settings : Settings)
    (collate : String → κ) (eventId : UUID) {d₂ d₃ d : Database} (h₂ : Inv d₂) (h₃ : Inv d₃)
    (hl : protocol.Leads d₃ d) :
    (viewOf collate eventId d₂ d₃).Shows settings eventId d₂ d₃ d := by
  have htypes : (viewOf collate eventId d₂ d₃).ticketTypes.Perm
      ((d₂.ticketTypes.filter fun t => t.eventId = eventId).map ticketTypeResponse) :=
    (orderBy_perm _).map _
  have hseats : (viewOf collate eventId d₂ d₃).seats.Perm
      ((d₃.seats.filter fun s => s.eventId = eventId).map (seatView d₃)) := by
    refine ((orderBy_perm _).map seatResponse).trans ?_
    rw [flatMap_seatInventory h₃, List.map_map]
    exact .refl _
  have hconfirmed {c : Seat} (hc : (seatView d₃ c).status = .confirmed) :=
    @confirmed_agrees settings d₃ d h₃ hl c hc
  exact
    { event := rfl
      ticketTypes := htypes
      ticketTypesOnce := ticketTypes_once h₂ htypes
      available := fun t ht => by
        obtain ⟨r, hr, rfl⟩ := List.mem_map.1 (htypes.mem_iff.1 ht)
        exact ⟨rfl, available_nonneg h₂ (List.mem_filter.1 hr).1⟩
      seats := hseats
      seatsOnce := seats_once h₃ hseats
      confirmed := fun s hs hconf => by
        obtain ⟨c, -, rfl⟩ := List.mem_map.1 (hseats.mem_iff.1 hs)
        obtain ⟨q, hq, hid, hst, honly⟩ := (hconfirmed hconf).1
        exact ⟨q, confirmed_leads h₃ hl hq hst, hid, hst, honly⟩
      gone := fun s hs hconf => by
        obtain ⟨c, -, rfl⟩ := List.mem_map.1 (hseats.mem_iff.1 hs)
        exact (hconfirmed hconf).2 }

/-! ## Every run -/

section
variable {κ : Type} [LinearOrder κ] (settings : Settings) (collate : String → κ)

/-- The run has committed these stores one after another since the look arrived, and so have its
calls alone. -/
def PassedSince (d₀ : Database) (i : ℕ) (t : Thread Visit Database Write Lock Error Shown)
    (ds : List Database) (cfg : VisitConfig) : Prop :=
  ∃ c, Arrived (Visit.prog settings collate) ⟨d₀, []⟩ c i t.call t.born ∧
    Passes (Visit.prog settings collate) c ds cfg ∧
    ∃ c₀ cfg₀, ServiceRun settings (start d₀) c₀ ∧ Passes (Call.prog settings) c₀ ds cfg₀ ∧
      (visits settings collate).Erased c c₀ ∧ (visits settings collate).Erased cfg cfg₀

/-- **What the visitors see.** -/
structure Viewed (d₀ : Database) (cfg : VisitConfig) : Prop where
  /-- the looks disturb no call: the calls alone end in the same store with the same answers -/
  undisturbed : ∃ cfg₀, ServiceRun settings (start d₀) cfg₀ ∧
    (visits settings collate).Erased cfg cfg₀ ∧ cfg₀.db = cfg.db ∧
    (cfg.answers.filterMap fun p => p.1.call.map fun c => (c, p.2)) =
      cfg₀.answers.map fun p => (p.1, p.2.map Shown.reservation)
  /-- a look shows the ticket types of a store and the seats of a later one, both committed since
  it arrived -/
  inventory : ∀ (i : ℕ) t, cfg.threads[i]? = some t → ∀ eventId, t.call = .inventory eventId →
    ∀ a, t.status = .returned (.ok a) → ∃ d₁ d₂ d₃,
      PassedSince settings collate d₀ i t [d₁, d₂, d₃] cfg ∧
      ∃ response, a = .inventory response ∧ response.Shows settings eventId d₂ d₃ cfg.db
  /-- a look that fails has seen a store without the event -/
  missing : ∀ (i : ℕ) t, cfg.threads[i]? = some t → ∀ eventId, t.call = .inventory eventId →
    ∀ e, t.status = .returned (.error e) → e = .eventNotFoundError ∧ ∃ d₁,
      PassedSince settings collate d₀ i t [d₁] cfg ∧ ∀ event ∈ d₁.events, event.id ≠ eventId

variable {settings collate} {d₀ : Database} {cfg : VisitConfig} {i : ℕ}
  {t : Thread Visit Database Write Lock Error Shown} {ds : List Database}

/-- What it has seen were stores of the service, each leading to the next. -/
theorem PassedSince.mem (h : PassedSince settings collate d₀ i t ds cfg) (hi : Inv d₀)
    {d : Database} (hd : d ∈ ds) : Inv d ∧ protocol.Leads d cfg.db := by
  obtain ⟨-, -, -, c₀, cfg₀, r₀, hp, -, hcfg⟩ := h
  obtain ⟨c₁, r₁, rfl, r₂⟩ := hp.mem d hd
  have htracks := System.tracks_run (S := system settings) hi (r₀.trans r₁)
  exact ⟨ServiceRun.inv hi (r₀.trans r₁),
    hcfg.db ▸ System.leads_run (S := system settings) htracks r₂⟩

/-- A look that has ended has seen these stores. -/
theorem look_seen (r : Run (Visit.prog settings collate) ⟨d₀, []⟩ cfg)
    (ht : cfg.threads[i]? = some t) {eventId : UUID} (hc : t.call = .inventory eventId) :
    ∃ ds, PassedSince settings collate d₀ i t ds cfg ∧
      t.status.Seen ((EventService.getInventory collate eventId).map .inventory) ds := by
  obtain ⟨c, ds, harr, hp, hseen⟩ := sees_run rfl r ht
    (by rw [hc]; exact EventService.silent_getInventory collate eventId _)
  obtain ⟨c₀, r₀, hc₀⟩ := Viewers.erases_run (.start (visits settings collate) d₀) harr.run
  obtain ⟨cfg₀, hp₀, hcfg₀⟩ := Viewers.erases_passes hp hc₀
  rw [hc] at hseen
  exact ⟨ds, ⟨c, harr, hp, c₀, cfg₀, r₀, hp₀, hc₀, hcfg₀⟩, hseen⟩

end

/-- **Looks disturb nobody and show committed rows.** -/
theorem inventory_seen {settings : Settings} {d₀ : Database} {cfg : VisitConfig} {κ : Type}
    [LinearOrder κ] {collate : String → κ} (h : Inventory d₀)
    (r : Run (Visit.prog settings collate) ⟨d₀, []⟩ cfg) : Viewed settings collate d₀ cfg where
  undisturbed := by
    obtain ⟨cfg₀, r₀, h₀⟩ := Viewers.erases_run (.start (visits settings collate) d₀) r
    exact ⟨cfg₀, r₀, h₀, h₀.db.symm, h₀.threads.answers⟩
  inventory i t ht eventId hc a hr := by
    obtain ⟨ds, hv, hseen⟩ := look_seen r ht hc
    rw [hr] at hseen
    obtain ⟨d₁, rfl, -, hq⟩ | ⟨d₁, d₂, d₃, rfl, hq⟩ :=
      EventService.sees_getInventory collate hseen trivial
    · cases hq
    · cases hq
      have h₂ := hv.mem h.inv (d := d₂) (by simp)
      have h₃ := hv.mem h.inv (d := d₃) (by simp)
      exact ⟨d₁, d₂, d₃, hv, _, rfl,
        EventService.viewOf_shows settings collate eventId h₂.1 h₃.1 h₃.2⟩
  missing i t ht eventId hc e hr := by
    obtain ⟨ds, hv, hseen⟩ := look_seen r ht hc
    rw [hr] at hseen
    obtain ⟨d₁, rfl, hmiss, hq⟩ | ⟨d₁, d₂, d₃, rfl, hq⟩ :=
      EventService.sees_getInventory collate hseen trivial
    · cases hq
      exact ⟨rfl, d₁, hv, hmiss⟩
    · cases hq

/-- Between the two lists of a look Bob takes two tickets and Alice buys the seat 30; a second look
is at no event. -/
def Sample.looks : List (Action Visit) :=
  [.arrive (.inventory 10), .step 0, .step 0,
    .arrive (.reservation (.reserveQuantity bob twoTickets (uuid4 200) 5))] ++
    List.replicate 6 (.step 1) ++
    .arrive (.reservation (.reserveSeats alice oneSeat (uuid4 100) 5)) ::
    List.replicate 8 (.step 2) ++
    .arrive (.reservation (.confirm 100 alice 6)) :: List.replicate 8 (.step 3) ++
    [.step 0, .step 0, .arrive (.inventory 11), .step 4, .step 4]

def Sample.looked : VisitConfig :=
  Config.after (Visit.prog settings String.length) ⟨inventory, []⟩ looks

/-- The view shows the seat as sold and no ticket as reserved, though the tickets went first. -/

theorem inventory_seen_looked :
    Viewed Sample.settings String.length Sample.inventory Sample.looked ∧
    Sample.looked.answer 0 = some (.ok (.inventory ⟨10, [⟨20, "General", 5, 0, 0, 5⟩],
      [⟨30, "A", "1", "1", .confirmed⟩, ⟨31, "A", "1", "2", .available⟩]⟩)) ∧
    Sample.looked.answer 4 = some (.error .eventNotFoundError) := by
  have r : Run (Visit.prog Sample.settings String.length) ⟨Sample.inventory, []⟩ Sample.looked :=
    run_after (by decide)
  exact ⟨inventory_seen Sample.inventory_inventory r, by decide, by decide⟩

end TicketReservation
