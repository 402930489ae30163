/-
  What the application never loses.

  The routers of the events and of the stress data complete the site: they call
  the services, answer their errors, and keep the stress data out of production
  (`ensure_local_environment`).  Between the requests, calls of the reservation
  services and passes of the worker may run at the same time (`Site.Reaches`).

  * `records_kept`: rows are never deleted and a sale is never undone, except
    that `reset` removes the events with the prefix of the stress data.  In
    production nothing is excepted.
-/
import TicketReservation.Ownership
import TicketReservation.Payloads
import TicketReservation.StressAdmin.Seed
import TicketReservation.InventoryView
import TicketReservation.StressAdmin.Audit

namespace TicketReservation

open Txn

/-! ## The routers -/

/-- An error with its HTTP status (core/exceptions.py). -/
structure AppError where
  statusCode : ℕ
  code : String
  message : String
  deriving DecidableEq, Repr

def notFoundError (message code : String) : AppError := ⟨404, code, message⟩

def conflictError (message code : String) : AppError := ⟨409, code, message⟩

/-- What becomes of a request; an error that no handler expects is left to the framework. -/
inductive Handled (α : Type) where
  | ok (result : α)
  | appError (error : AppError)
  | unhandled (error : Error)

/-- The `except` clauses of a handler. -/
def Handled.of {α : Type} (except : Error → Option AppError) : Except Error α → Handled α
  | .ok result => .ok result
  | .error e => (except e).elim (.unhandled e) .appError

/-- A request to events/router.py. -/
inductive EventRequest where
  | createEvent (payload : EventCreate) (uuid4 : UUID)
  | getEvent (eventId : UUID)
  | createTicketType (eventId : UUID) (payload : TicketTypeCreate) (uuid4 : UUID)
  | createSeats (eventId : UUID) (payload : SeatBatchCreate) (uuid4 : ℕ → UUID)
  | getInventory (eventId : UUID)

inductive EventResult where
  | event (row : Event)
  | ticketType (row : TicketType)
  | seats (rows : List Seat)
  | inventory (response : EventInventoryResponse)

def eventNotFound : AppError := notFoundError "Event not found" "EVENT_NOT_FOUND"

def EventRequest.except : EventRequest → Error → Option AppError
  | .createEvent _ _, _ => none
  | .createSeats _ _ _, .seatConflictError =>
    some (conflictError "One or more seats already exist for this event" "SEAT_ALREADY_EXISTS")
  | _, .eventNotFoundError => some eventNotFound
  | _, _ => none

section
variable {κ : Type} [LinearOrder κ] (collate : String → κ)

def EventRequest.prog : EventRequest → Tx EventResult
  | .createEvent payload uuid4 =>
    (EventService.createEvent payload.name payload.startsAt payload.endsAt uuid4).map .event
  | .getEvent eventId => (EventService.getEvent eventId).map .event
  | .createTicketType eventId payload uuid4 =>
    (EventService.createTicketType eventId payload.name payload.totalQuantity uuid4).map .ticketType
  | .createSeats eventId payload uuid4 =>
    (EventService.createSeats eventId payload.seats uuid4).map .seats
  | .getInventory eventId => (EventService.getInventory collate eventId).map .inventory

def EventRequest.serve (request : EventRequest) (d : Database) : Handled EventResult × Database :=
  let (result, d') := (request.prog collate).alone d
  (.of request.except result, d')

end

/-- `app_env`. -/
inductive AppEnv where
  | development
  | test
  | production
  deriving DecidableEq, Repr

/-- A request to stress_admin/router.py. -/
inductive StressRequest where
  | seed (now : Instant) (uuid4 : ℕ → UUID)
  | reset
  | assertConsistency (now : Instant)

inductive StressResult where
  | seeded (response : StressAdminService.StressSeedResponse)
  | eventsDeleted (count : ℕ)
  | consistency (response : StressConsistencyResponse)

def ensureLocalEnvironment (env : AppEnv) : Except AppError Unit :=
  if env = .production then .error (notFoundError "Not found" "NOT_FOUND") else .ok ()

def StressRequest.run (d : Database) : StressRequest → Except Error StressResult × Database
  | .seed now uuid4 => ((StressAdminService.seed now uuid4).map .seeded).alone d
  | .reset => (StressAdminService.reset.map .eventsDeleted).alone d
  | .assertConsistency now =>
    ((StressAdminService.assertConsistency now none).map .consistency).alone d

def StressRequest.serve (env : AppEnv) (request : StressRequest) (d : Database) :
    Handled StressResult × Database :=
  match ensureLocalEnvironment env with
  | .error e => (.appError e, d)
  | .ok () => (.of (fun _ => none) (request.run d).1, (request.run d).2)

/-! ## The application -/

structure Application (κ : Type) extends App where
  env : AppEnv
  collate : String → κ

inductive AppRequest where
  | site (request : Request)
  | event (request : EventRequest)
  | stress (request : StressRequest)

inductive AppAnswer where
  | site (answer : Answer)
  | event (answer : Handled EventResult)
  | stress (answer : Handled StressResult)

section
variable {κ : Type} [LinearOrder κ]

def Site.handle (app : Application κ) (s : Site) : AppRequest → AppAnswer × Site
  | .site request => (.site (s.serve app.toApp request).1, (s.serve app.toApp request).2)
  | .event request =>
    (.event (request.serve app.collate s.db).1, ⟨(request.serve app.collate s.db).2, s.clock⟩)
  | .stress request =>
    (.stress (request.serve app.env s.db).1, ⟨(request.serve app.env s.db).2, s.clock⟩)

/-- **What the application comes to**: requests one after another, and between them
    reservation calls and passes of the worker that run at the same time. -/
inductive Site.Reaches (app : Application κ) (s : Site) : Site → Prop
  | refl : Reaches app s s
  | request {s' : Site} (q : AppRequest) : Reaches app s s' → Reaches app s (s'.handle app q).2
  | burst {s' : Site} {cfg : ServiceConfig} : Reaches app s s' →
      ServiceRun app.settings (start s'.db) cfg → Reaches app s ⟨cfg.db, s'.clock⟩

end

/-! ## What is kept -/

/-- The same ticket type, of which no fewer are sold. -/
structure TicketType.Kept (t t' : TicketType) : Prop where
  same : t' = { t with reservedQuantity := t'.reservedQuantity, soldQuantity := t'.soldQuantity }
  sold : t.soldQuantity ≤ t'.soldQuantity

/-- **The rows of `d` are still there**, as far as they belong to the users or to the events `ok`. -/
structure Database.Kept (ok : UUID → Prop) (d d' : Database) : Prop where
  users : ∀ u ∈ d.users, u ∈ d'.users
  events : ∀ e ∈ d.events, ok e.id → e ∈ d'.events
  seats : ∀ c ∈ d.seats, ok c.eventId → c ∈ d'.seats
  ticketTypes : ∀ t ∈ d.ticketTypes, ok t.eventId → ∃ t' ∈ d'.ticketTypes, t.Kept t'
  /-- a reservation may be moved out of RESERVED, and stays so -/
  reservations : ∀ r ∈ d.reservations, ok r.eventId → ∃ r' ∈ d'.reservations, r.Moved r'
  items : ∀ r ∈ d.reservations, ok r.eventId → ∀ i ∈ d.reservationItems, i.reservationId = r.id →
    ∃ i' ∈ d'.reservationItems, i.Moved i'
  reservationSeats : ∀ r ∈ d.reservations, ok r.eventId → ∀ q ∈ d.reservationSeats,
    q.reservationId = r.id → ∃ q' ∈ d'.reservationSeats, q.Moved q'

namespace Database.Kept
variable {ok : UUID → Prop} {d d' d'' : Database}

theorem refl (d : Database) : d.Kept ok d where
  users _ h := h
  events _ h _ := h
  seats _ h _ := h
  ticketTypes t h _ := ⟨t, h, rfl, le_refl _⟩
  reservations r h _ := ⟨r, h, .refl r⟩
  items _ _ _ i h _ := ⟨i, h, rfl, Or.inr rfl⟩
  reservationSeats _ _ _ q h _ := ⟨q, h, rfl, Or.inr rfl⟩

theorem trans (h : d.Kept ok d') (h' : d'.Kept ok d'') : d.Kept ok d'' where
  users u hu := h'.users u (h.users u hu)
  events e he hok := h'.events e (h.events e he hok) hok
  seats c hc hok := h'.seats c (h.seats c hc hok) hok
  ticketTypes t ht hok := by
    obtain ⟨t', ht', hk⟩ := h.ticketTypes t ht hok
    obtain ⟨t'', ht'', hk'⟩ := h'.ticketTypes t' ht' (by rw [hk.same]; exact hok)
    exact ⟨t'', ht'', by rw [hk'.same, hk.same], hk.sold.trans hk'.sold⟩
  reservations r hr hok := by
    obtain ⟨r', hr', hm⟩ := h.reservations r hr hok
    obtain ⟨r'', hr'', hm'⟩ := h'.reservations r' hr' (by rw [hm.same]; exact hok)
    exact ⟨r'', hr'', hm.trans hm'⟩
  items r hr hok i hi hir := by
    obtain ⟨r', hr', hm⟩ := h.reservations r hr hok
    obtain ⟨i', hi', hs⟩ := h.items r hr hok i hi hir
    obtain ⟨i'', hi'', hs'⟩ := h'.items r' hr' (by rw [hm.same]; exact hok) i' hi'
      (by rw [hs.same, hm.id]; exact hir)
    exact ⟨i'', hi'', hs.trans hs'⟩
  reservationSeats r hr hok q hq hqr := by
    obtain ⟨r', hr', hm⟩ := h.reservations r hr hok
    obtain ⟨q', hq', hs⟩ := h.reservationSeats r hr hok q hq hqr
    obtain ⟨q'', hq'', hs'⟩ := h'.reservationSeats r' hr' (by rw [hm.same]; exact hok) q' hq'
      (by rw [hs.same, hm.id]; exact hqr)
    exact ⟨q'', hq'', hs.trans hs'⟩

end Database.Kept

section
variable {ok : UUID → Prop} {d d' : Database}

/-- One change by a reservation service. -/
theorem Effect.kept {Λ : List Lock} (h : Effect Λ d d') (hi : Inv d) : d.Kept ok d' where
  users u hu := by rwa [h.users]
  events e he _ := by rwa [h.events]
  seats c hc _ := by rwa [h.seats]
  ticketTypes t ht _ := by
    cases h with
    | finish x s =>
      refine ⟨_, List.mem_map_of_mem ht, rfl, ?_⟩
      have := hi.held_nonneg x.id t.id
      simp only [TicketType.add]
      split_ifs <;> omega
    | addQuantity x i =>
      refine ⟨_, List.mem_map_of_mem ht, ?_, ?_⟩
      · split_ifs <;> rfl
      · split_ifs <;> simp [TicketType.add]
    | addSeats x rows => exact ⟨t, ht, rfl, le_refl _⟩
  reservations r hr _ := h.reservation hi hr
  items _ _ _ _ him _ := h.item hi him
  reservationSeats _ _ _ _ hq _ := h.seat hi hq

theorem kept_of_leads (hi : Inv d) (h : protocol.Leads d d') : d.Kept ok d' := by
  induction h with
  | refl => exact .refl d
  | tail hl hstep ih =>
    obtain ⟨Λ, heff⟩ := hstep
    exact ih.trans (heff.kept (Protocol.Leads.inv hl hi))

/-- An insertion keeps what was there. -/
theorem kept_insert {d₁ : Database} (h : d.Kept ok d') (hu : d₁.users = d'.users)
    (he : d'.events ⊆ d₁.events) (hs : d'.seats ⊆ d₁.seats)
    (ht : d'.ticketTypes ⊆ d₁.ticketTypes) (hr : d₁.reservations = d'.reservations)
    (hi : d₁.reservationItems = d'.reservationItems)
    (hq : d₁.reservationSeats = d'.reservationSeats) : d.Kept ok d₁ where
  users u hm := hu ▸ h.users u hm
  events e hm hok := he (h.events e hm hok)
  seats c hm hok := hs (h.seats c hm hok)
  ticketTypes t hm hok := (h.ticketTypes t hm hok).imp fun _ ⟨hm, hk⟩ => ⟨ht hm, hk⟩
  reservations := by rw [hr]; exact h.reservations
  items := by rw [hi]; exact h.items
  reservationSeats := by rw [hq]; exact h.reservationSeats

theorem kept_insertsKeep (ok : UUID → Prop) (d : Database) : InsertsKeep (d.Kept ok) where
  event h _ := kept_insert h rfl (List.subset_append_left _ _) (List.Subset.refl _)
    (List.Subset.refl _) rfl rfl rfl
  ticketType h _ _ _ := kept_insert h rfl (List.Subset.refl _) (List.Subset.refl _)
    (List.subset_append_left _ _) rfl rfl rfl
  seat h _ := kept_insert h rfl (List.Subset.refl _) (List.subset_append_left _ _)
    (List.Subset.refl _) rfl rfl rfl

/-- Events that do not matter are removed. -/
theorem kept_withoutEvents {ids : List UUID} (hi : Inv d) (hids : ∀ x ∈ ids, ¬ ok x) :
    d.Kept ok (d.withoutEvents ids) := by
  have hout {x : UUID} (hok : ok x) : x ∉ ids := fun hx => hids x hx hok
  have hchild {r : Reservation} (hr : r ∈ d.reservations) (hok : ok r.eventId) :
      r.id ∉ d.reservationIdsOf ids := by
    rw [hi.id_mem_reservationIdsOf hr]
    exact hout hok
  exact
    { users := fun _ h => h
      events := fun e he hok => List.mem_filter.2 ⟨he, by simpa using hout hok⟩
      seats := fun c hc hok => List.mem_filter.2 ⟨hc, by simpa using hout hok⟩
      ticketTypes := fun t ht hok =>
        ⟨t, List.mem_filter.2 ⟨ht, by simpa using hout hok⟩, rfl, le_refl _⟩
      reservations := fun r hr hok =>
        ⟨r, List.mem_filter.2 ⟨hr, by simpa using hout hok⟩, .refl r⟩
      items := fun r hr hok i him hir =>
        ⟨i, List.mem_filter.2 ⟨him, by simpa [hir] using hchild hr hok⟩, rfl, Or.inr rfl⟩
      reservationSeats := fun r hr hok q hq hqr =>
        ⟨q, List.mem_filter.2 ⟨hq, by simpa [hqr] using hchild hr hok⟩, rfl, Or.inr rfl⟩ }

end

/-! ## One request -/

section
variable {I : Database → Prop} {κ : Type} [LinearOrder κ]

theorem maintains_getInventory (collate : String → κ) (eventId : UUID) :
    (EventService.getInventory collate eventId).Maintains I :=
  .bind (EventService.maintains_getEvent _) fun _ => .bind (.exec fun _ h => h) fun _ =>
    .bind (.exec fun _ h => h) fun _ => .ret _

theorem maintains_map {α β : Type} {p : Tx α} (h : p.Maintains I) (f : α → β) :
    (p.map f).Maintains I := h.bind fun _ => .ret _

/-- The requests to the events only insert. -/
theorem EventRequest.maintains (h : InsertsKeep I) (collate : String → κ) (q : EventRequest) :
    (q.prog collate).Maintains I := by
  cases q with
  | createEvent payload uuid4 =>
    exact maintains_map (EventService.maintains_createEvent h _ _ _ _) _
  | getEvent eventId => exact maintains_map (EventService.maintains_getEvent _) _
  | createTicketType eventId payload uuid4 =>
    exact maintains_map (EventService.maintains_createTicketType h _ _ _ _) _
  | createSeats eventId payload uuid4 =>
    exact maintains_map (EventService.maintains_createSeats h _ _ _) _
  | getInventory eventId => exact maintains_map (maintains_getInventory collate eventId) _

end

/-- What a request to the stress data does, if it is served at all. -/
theorem StressRequest.run_snd {d : Database} (hi : Inv d) (q : StressRequest) :
    (q.run d).2 = d.withoutEvents (StressAdminService.stressEventIds d) ∨
      ∀ {I}, InsertsKeep I → I d → I (q.run d).2 := by
  cases q with
  | seed now uuid4 =>
    refine .inr fun h hd => ?_
    have hm : ((StressAdminService.seed now uuid4).map StressResult.seeded).Maintains _ :=
      maintains_map (StressAdminService.maintains_seed h now uuid4) _
    rw [run]
    exact hm.alone hd
  | reset =>
    left
    rw [run, Prog.alone_map (StressAdminService.alone_reset hi)]
  | assertConsistency now =>
    refine .inr fun _ hd => ?_
    rwa [run, Prog.alone_map alone_assertConsistency]

theorem StressRequest.serve_snd (q : StressRequest) (env : AppEnv) (d : Database) :
    (q.serve env d).2 = d ∨ env ≠ .production ∧ (q.serve env d).2 = (q.run d).2 := by
  unfold serve ensureLocalEnvironment
  by_cases henv : env = .production
  · rw [if_pos henv]
    exact .inl rfl
  · rw [if_neg henv]
    exact .inr ⟨henv, rfl⟩

/-- A request of a visitor deletes nothing. -/
theorem Site.Serves.kept {app : App} {s s' : Site} {q : Request} {a : Answer} {ok : UUID → Prop}
    (h : s.Serves app q a s') (hi : Inv s.db) : s.db.Kept ok s'.db := by
  cases h with
  | account call result t hdoes =>
    have hrefl : s.db.Kept ok s.db := .refl s.db
    exact { hrefl with users := fun _ hu => hdoes.user hu }
  | unauthorized cookie request e => exact .refl s.db
  | reservation cookie request v hv hexp =>
    exact kept_of_leads hi ((request.call s.clock v).alone_leads app.settings hi)

/-! ## The application's life -/

/-- The rows of this event are never reset. -/
def Database.Lasting (env : AppEnv) (d : Database) (eventId : UUID) : Prop :=
  env = .production ∨
    ∃ e ∈ d.events, e.id = eventId ∧ StressAdminService.isStressEvent e = false

section
variable {κ : Type} [LinearOrder κ] {app : Application κ} {s s' : Site} {d₀ : Database}

/-- `reset` spares the events without the prefix. -/
theorem not_lasting {env : AppEnv} {d : Database} (hi : Inv d) (henv : env ≠ .production)
    (hk : d₀.Kept (d₀.Lasting env) d) :
    ∀ x ∈ StressAdminService.stressEventIds d, ¬ d₀.Lasting env x := by
  rintro x hx (h | ⟨e, he, rfl, hname⟩)
  · exact henv h
  · obtain ⟨e', he', hid⟩ := List.mem_map.1 hx
    obtain ⟨he', hstress⟩ := List.mem_filter.1 he'
    have hmem := hk.events e he (.inr ⟨e, he, rfl, hname⟩)
    obtain rfl := Table.eq_of_key hi.eventIds he' hmem hid
    rw [hname] at hstress
    cases hstress

/-- **One request.** -/
theorem Site.handle_kept (hi : Inv s.db) (hk : d₀.Kept (d₀.Lasting app.env) s.db) (q : AppRequest) :
    Inv (s.handle app q).2.db ∧ d₀.Kept (d₀.Lasting app.env) (s.handle app q).2.db := by
  cases q with
  | site q =>
    have hs := Site.serves app.toApp hi q
    exact ⟨hs.inv hi, hk.trans (hs.kept hi)⟩
  | event q =>
    exact ⟨(q.maintains Inv.insertsKeep app.collate).alone hi,
      (q.maintains (kept_insertsKeep _ d₀) app.collate).alone hk⟩
  | stress q =>
    rcases q.serve_snd app.env s.db with h | ⟨henv, h⟩
    · simp only [Site.handle, h]
      exact ⟨hi, hk⟩
    · simp only [Site.handle, h]
      rcases q.run_snd hi with hreset | hinsert
      · rw [hreset]
        exact ⟨hi.withoutEvents _, hk.trans (kept_withoutEvents hi (not_lasting hi henv hk))⟩
      · exact ⟨hinsert Inv.insertsKeep hi, hinsert (kept_insertsKeep _ d₀) hk⟩

end

/-- **Rows are never deleted and sales are never undone**, but for what `reset` may remove.  The
invariant holds of every served database (`Served.inv`), and it is kept. -/
theorem records_kept {κ : Type} [LinearOrder κ] {app : Application κ} {s s' : Site}
    (h : Inv s.db) (r : s.Reaches app s') :
    Inv s'.db ∧ s.db.Kept (s.db.Lasting app.env) s'.db := by
  induction r with
  | refl => exact ⟨h, .refl s.db⟩
  | request q _ ih => exact Site.handle_kept ih.1 ih.2 q
  | @burst s' cfg _ r ih =>
    have hl : protocol.Leads s'.db cfg.db :=
      System.leads_run (S := system app.settings) 
      ⟨[], System.tracks_init (S := system app.settings) ih.1⟩ r
    exact ⟨hl.inv ih.1, ih.2.trans (kept_of_leads ih.1 hl)⟩

def Sample.application : Application ℕ :=
  { Sample.app with
    env := .development
    collate := String.length }

/-- Alice holds a seat, and stress data come and go. -/
def Sample.seeded : Site :=
  (Site.handle application ⟨seatHeld, 5⟩ (.stress (.seed 5 (uuid4 1000)))).2

theorem records_kept_reset :
    Inv (Sample.seeded.handle Sample.application (.stress .reset)).2.db ∧
      Sample.seatHeld.Kept (Sample.seatHeld.Lasting .development)
        (Sample.seeded.handle Sample.application (.stress .reset)).2.db :=
  records_kept (s := ⟨Sample.seatHeld, 5⟩) Sample.seatHeld_reachable.inv
    (.request (.stress .reset) (.request (.stress (.seed 5 (Sample.uuid4 1000))) .refl))

end TicketReservation
