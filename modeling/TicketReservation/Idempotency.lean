/-
  Idempotent creation under concurrency.

  A repeated request may find the reservation at its look-up, lose at the stock
  update, wait for a seat, or fail at the unique index; it always ends with the
  reservation that has the key, or with none.  Reservations do not disappear and
  keep what a response shows of them, except for the status (`response_leads`).

  * `Creation.replay`: what a call does whose key is used by its kind;
  * `Creation.answered`: a successful answer shows the reservation with the key;
  * `Idempotent`: what is said about the calls that repeat one request;
  * `idempotent_creation`: this holds in every run.
-/
import TicketReservation.Successes
import TicketReservation.Isolation
import TicketReservation.LifecycleSafety
import TicketReservation.FirstLock
import TicketReservation.SeatDeadlock
import TicketReservation.Txn.Finish
import TicketReservation.Txn.History

namespace TicketReservation

open Txn

/-! ## Requests -/

/-- A request to create a reservation. -/
inductive Creation
  | quantity (payload : QuantityReservationCreate)
  | seats (payload : SeatReservationCreate)

namespace Creation

def idempotencyKey : Creation → String
  | quantity payload => payload.idempotencyKey
  | seats payload => payload.idempotencyKey

def kind : Creation → ReservationType
  | quantity _ => .quantity
  | seats _ => .seats

/-- The reservation is the visitor's, with the key of the request and of its kind. -/
structure Row (q : Creation) (visitorSessionId : UUID) (r : Reservation) : Prop where
  visitor : r.visitorSessionId = visitorSessionId
  key : r.idempotencyKey = q.idempotencyKey
  kind : r.reservationType = q.kind

/-- What a response to the request shows of the reservation. -/
def response (q : Creation) (d : Database) (r : Reservation) : Response :=
  match q with
  | quantity _ => .quantity ⟨r.id, r.status, .quantity, r.expiresAt,
      (d.itemsOf r.id).map fun i => ⟨i.ticketTypeId, i.quantity⟩⟩
  | seats _ => .seats ⟨r.id, r.status, .seats, r.expiresAt,
      ((d.seatsOf r.id).map ReservationSeat.seatId).insertionSort (· ≤ ·)⟩

end Creation

/-- The call asks for the creation `q`, on behalf of the visitor session. -/
def Call.Creates (visitorSessionId : UUID) (q : Creation) : Call → Prop
  | .reserveQuantity visitorSession payload _ _ =>
    visitorSession.id = visitorSessionId ∧ q = .quantity payload
  | .reserveSeats visitorSession payload _ _ =>
    visitorSession.id = visitorSessionId ∧ q = .seats payload
  | _ => False

/-- The `reservation_id`, the `expires_at` and the items or seats of a response to `reserve`. -/
def Response.core : Response →
    Option (UUID × Instant × List QuantityReservationItemResponse × List UUID)
  | .quantity response => some (response.reservationId, response.expiresAt, response.items, [])
  | .seats response => some (response.reservationId, response.expiresAt, [], response.seats)
  | _ => none

/-! ## One call -/

section
variable {settings : Settings} {d d' : Database} {c : Call} {q : Creation} {v : UUID} {r : Reservation}
  {res : Except Error Response} {a : Response}

/-- There is at most one reservation with a key. -/
theorem Creation.Row.unique (hd : Inv d) {r' : Reservation} (h : q.Row v r) (h' : q.Row v r')
    (hr : r ∈ d.reservations) (hr' : r' ∈ d.reservations) : r = r' :=
  Table.eq_of_key hd.visitorKeys hr hr'
    (Prod.ext (h.visitor.trans h'.visitor.symm) (h.key.trans h'.key.symm))

/-- **A call whose key is used by its kind** answers with this reservation and changes nothing. -/
theorem Creation.replay (hd : Inv d) (hc : c.Creates v q) (hr : r ∈ d.reservations) (hrow : q.Row v r) :
    c.spec settings d res d' ↔ res = .ok (q.response d r) ∧ d' = d := by
  obtain ⟨hv, hk, hkind⟩ := hrow
  have hstorable : Storable q.idempotencyKey := KeyUsed.storable hd ⟨r, hr, hv, hk, hkind⟩
  cases c with
  | reserveQuantity visitorSession payload uuid4 now =>
    obtain ⟨rfl, rfl⟩ := hc
    obtain ⟨i, hi, hrecords⟩ := quantityRecords_of_mem hd hr hkind
    rw [hv, hk] at hrecords
    have hkey : Storable payload.idempotencyKey := hstorable
    have hlook : d.quantityLookup visitorSession.id payload.idempotencyKey = .ok (some
        ⟨r.id, r.status, .quantity, r.expiresAt, i.ticketTypeId, i.quantity⟩) := by
      rw [Database.quantityLookup, if_neg (not_not.2 hkey),
        show d.quantityRecords visitorSession.id payload.idempotencyKey = _ from hrecords]
    rw [Call.spec_reserveQuantity hd, QuantityReservationService.reserveOutcome, hlook]
    simp only [Creation.response, hi]
    rfl
  | reserveSeats visitorSession payload uuid4 now =>
    obtain ⟨rfl, rfl⟩ := hc
    have hlook := seatLookup_of_mem hd hr hkind (hk ▸ hstorable)
    rw [hv, hk] at hlook
    rw [Call.spec_reserveSeats hd, SeatReservationService.reserveOutcome,
      show d.seatLookup visitorSession.id payload.idempotencyKey = _ from hlook]
    rfl
  | get | cancel | confirm | expireBatch => cases hc

theorem QuantityReservationService.reservationType_eq {visitorSession : VisitorSession}
    {payload : QuantityReservationCreate} {uuid4 : ℕ → UUID} {now : Instant}
    {b : QuantityReservationResponse} (hd : Inv d)
    (hfree : ¬ d.KeyUsed visitorSession.id payload.idempotencyKey .quantity)
    (h : (reserveOutcome settings visitorSession payload.eventId payload.ticketTypeId payload.quantity
      payload.idempotencyKey uuid4 now d).1 = .ok b) : b.reservationType = .quantity := by
  unfold reserveOutcome at h
  cases hl : d.quantityLookup visitorSession.id payload.idempotencyKey with
  | error e => simp [hl] at h
  | ok o =>
    simp only [hl] at h
    cases o with
    | some existing =>
      obtain ⟨r, hr, -⟩ := quantityLookup_eq_some hd hl
      exact absurd hr.keyUsed hfree
    | none =>
      simp only at h
      split_ifs at h
      cases h
      rfl

theorem SeatReservationService.reservationType_eq {visitorSession : VisitorSession}
    {payload : SeatReservationCreate} {uuid4 : ℕ → UUID} {now : Instant}
    {b : SeatReservationResponse} (hd : Inv d)
    (hfree : ¬ d.KeyUsed visitorSession.id payload.idempotencyKey .seats)
    (h : (reserveOutcome settings visitorSession payload.eventId payload.seatIds
      payload.idempotencyKey uuid4 now d).1 = .ok b) : b.reservationType = .seats := by
  unfold reserveOutcome at h
  cases hl : d.seatLookup visitorSession.id payload.idempotencyKey with
  | error e => simp [hl] at h
  | ok o =>
    simp only [hl] at h
    cases o with
    | some existing =>
      obtain ⟨r, hr, -⟩ := seatLookup_eq_some hd hl
      exact absurd hr.keyUsed hfree
    | none =>
      simp only at h
      split_ifs at h
      cases h
      rfl

/-- **A successful answer shows the reservation with the key.** -/
theorem Creation.answered (hd : Inv d) (hc : c.Creates v q) (h : c.spec settings d (.ok a) d') :
    ∃ r ∈ d'.reservations, q.Row v r ∧ a = q.response d' r := by
  by_cases hused : ∃ r ∈ d.reservations, q.Row v r
  · obtain ⟨r, hr, hrow⟩ := hused
    obtain ⟨hres, rfl⟩ := (Creation.replay hd hc hr hrow).1 h
    exact ⟨r, hr, hrow, Except.ok.inj hres⟩
  have hans := Call.answeredBy hd h
  cases c with
  | reserveQuantity visitorSession payload uuid4 now =>
    obtain ⟨rfl, rfl⟩ := hc
    obtain ⟨⟨id, status, type, expiresAt, items⟩, r, rfl, hb⟩ := hans
    obtain ⟨hmem, hv, hkey, hkind, hid, hstatus, hexp⟩ := hb.names
    obtain ⟨hok, -⟩ := (Call.spec_reserveQuantity hd).1 h
    have htype : type = .quantity := by
      obtain ⟨b, hout, hb⟩ := ok_eq_map hok
      cases hb
      exact QuantityReservationService.reservationType_eq hd
        (fun ⟨r, hr, h1, h2, h3⟩ => hused ⟨r, hr, h1, h2, h3⟩) hout
    refine ⟨r, hmem, ⟨hv, hkey, hkind⟩, ?_⟩
    have hitems : items = _ := hb.items
    subst hid hstatus hexp htype hitems
    rfl
  | reserveSeats visitorSession payload uuid4 now =>
    obtain ⟨rfl, rfl⟩ := hc
    obtain ⟨⟨id, status, type, expiresAt, seats⟩, r, rfl, hb⟩ := hans
    obtain ⟨hmem, hv, hkey, hkind, hid, hstatus, hexp⟩ := hb.names
    obtain ⟨hok, -⟩ := (Call.spec_reserveSeats hd).1 h
    have htype : type = .seats := by
      obtain ⟨b, hout, hb⟩ := ok_eq_map hok
      cases hb
      exact SeatReservationService.reservationType_eq hd
        (fun ⟨r, hr, h1, h2, h3⟩ => hused ⟨r, hr, h1, h2, h3⟩) hout
    refine ⟨r, hmem, ⟨hv, hkey, hkind⟩, ?_⟩
    have hseats : seats = _ := hb.seats
    subst hid hstatus hexp htype hseats
    rfl
  | get | cancel | confirm | expireBatch => cases hc

/-- A call that fails changes nothing. -/
theorem Creation.refused {e : Error} (hc : c.Creates v q)
    (h : c.spec settings d (.error e) d') : d' = d := by
  cases c with
  | reserveQuantity visitorSession payload uuid4 now =>
    obtain ⟨he, rfl⟩ := alone_map_error h
    exact QuantityReservationService.undone_reserve _ _ _ _ _ _ _ _ d ∅ _ he
  | reserveSeats visitorSession payload uuid4 now =>
    obtain ⟨he, rfl⟩ := alone_map_error h
    exact SeatReservationService.undone_reserve _ _ _ _ _ _ _ d ∅ _ he
  | get | cancel | confirm | expireBatch => cases hc

/-- Alone the call has one outcome. -/
theorem Call.Creates.spec_iff (hc : c.Creates v q) :
    c.spec settings d res d' ↔ (c.prog settings).alone d = (res, d') := by
  cases c with
  | reserveQuantity | reserveSeats => exact Iff.rfl
  | get | cancel | confirm | expireBatch => cases hc

/-- **A reservation stays**, with all that a response shows of it but its status. -/
theorem Creation.response_leads (hd : Inv d) (hl : protocol.Leads d d') (hr : r ∈ d.reservations)
    (hrow : q.Row v r) : ∃ r' ∈ d'.reservations, q.Row v r' ∧
      (q.response d' r').core = (q.response d r).core := by
  obtain ⟨y, hy, hm, hitems, hseats⟩ := moved_leads hd hl hr
  have hkind : y.reservationType = r.reservationType := by rw [hm.same]
  have hexp : y.expiresAt = r.expiresAt := by rw [hm.same]
  refine ⟨y, hy, ⟨hm.key.1.trans hrow.visitor, hm.key.2.trans hrow.key, hkind.trans hrow.kind⟩, ?_⟩
  cases q with
  | quantity payload =>
    have := congrArg (List.map fun t : UUID × UUID × ℤ =>
      (⟨t.2.1, t.2.2⟩ : QuantityReservationItemResponse)) hitems
    simp only [List.map_map, Function.comp_def] at this
    simp only [Creation.response, Response.core, hm.id, hexp, this]
  | seats payload =>
    have hids : (d'.seatsOf r.id).map ReservationSeat.seatId =
        (d.seatsOf r.id).map ReservationSeat.seatId := by
      have := congrArg (List.map fun t : UUID × UUID × Instant => t.2.1) hseats
      rwa [List.map_map, List.map_map] at this
    simp only [Creation.response, Response.core, hm.id, hexp, hids]

end

/-! ## Repeated calls, one after another -/

section
variable {settings : Settings} {d d' : Database} {q : Creation} {v : UUID} {r : Reservation}
  {l : List (Entry Call Database (Except Error Response))}

/-- Once the key is used, all calls answer with the reservation and change nothing. -/
theorem Creation.replays (hp : Path protocol (Call.spec settings) d l d')
    (hl : ∀ e ∈ l, e.call.Creates v q) (hr : r ∈ d.reservations) (hrow : q.Row v r) :
    d' = d ∧ ∀ e ∈ l, e.result = .ok (q.response d r) := by
  induction hp with
  | nil => exact ⟨rfl, by simp⟩
  | @cons e l d' hi hs hl' hp ih =>
    obtain ⟨hres, hpost⟩ := (Creation.replay hi (hl e List.mem_cons_self) hr hrow).1 hs
    rw [hpost] at ih
    obtain ⟨hd, hrest⟩ := ih (fun x hx => hl x (List.mem_cons_of_mem _ hx)) hr
    exact ⟨hd, List.forall_mem_cons.2 ⟨hres, hrest⟩⟩

/-- **If each call would succeed alone, all give the success of the first one**, which creates the
    reservation or finds it. -/
theorem Creation.same_success (hp : Path protocol (Call.spec settings) d l d')
    (hl : ∀ e ∈ l, e.call.Creates v q)
    (halone : ∀ e ∈ l, ∃ a d', (e.call.prog settings).alone d = (.ok a, d')) (hne : l ≠ []) :
    ∃ e ∈ l, ∃ a d₁, (e.call.prog settings).alone d = (.ok a, d₁) ∧ ∀ e ∈ l, e.result = .ok a := by
  cases hp with
  | nil => exact absurd rfl hne
  | @cons e l d' hi hs hl' hp =>
    have hc := hl e List.mem_cons_self
    obtain ⟨a, d₁, ha⟩ := halone e List.mem_cons_self
    obtain ⟨hres, rfl⟩ := Prod.mk.inj (ha.symm.trans (hc.spec_iff.1 hs))
    rw [← hres] at hs
    obtain ⟨r, hr, hrow, rfl⟩ := Creation.answered hi hc hs
    obtain ⟨-, hrest⟩ := Creation.replays hp (fun x hx => hl x (List.mem_cons_of_mem _ hx)) hr hrow
    exact ⟨e, List.mem_cons_self, _, _, ha, List.forall_mem_cons.2 ⟨hres.symm, hrest⟩⟩

end

/-! ## Runs -/

/-- The first lock that the request takes. -/
def Creation.firstLock : Creation → Database → Option Lock
  | quantity payload, _ => some (.ticketType payload.ticketTypeId)
  | seats payload, d =>
    (d.eventSeats payload.eventId (payload.seatIds.insertionSort (· ≤ ·))).head?.map .seat

/-- Call `i` asks for the creation `q`, on behalf of the visitor session. -/
def Repeats (cfg : ServiceConfig) (v : UUID) (q : Creation) (i : ℕ) : Prop :=
  ∃ t, cfg.threads[i]? = some t ∧ t.call.Creates v q

section
variable {settings : Settings} {d : Database} {cfg : ServiceConfig} {q : Creation} {v : UUID}

theorem Creation.always_reserve {c : Call} (hc : c.Creates v q) (hi : Inv d) :
    always protocol (firstGuard q.firstLock) (c.prog settings) (fun _ _ _ => True) d ∅ := by
  cases c with
  | reserveQuantity visitorSession payload uuid4 now =>
    obtain ⟨-, rfl⟩ := hc
    exact always_reserveQuantity payload hi
  | reserveSeats visitorSession payload uuid4 now =>
    obtain ⟨-, rfl⟩ := hc
    exact always_reserveSeats payload hi
  | get | cancel | confirm | expireBatch => cases hc

/-- A guarded call at a statement holds the first lock or none. -/
theorem first_of_atStmt {first : Database → Option Lock} {s : CallStatus}
    (h : s.Always protocol (firstGuard first) (fun _ => True) d) (hs : s.AtStmt) :
    s.locks = [] ∨ ∃ l ∈ first d, l ∈ s.locks := by
  cases s with
  | returned | aborted => cases hs
  | running p σ =>
    cases p with
    | ret | raise | commit => cases hs
    | stmt s k => exact h.stmt

/-- **Of the calls that repeat one request, at most one at a statement holds locks.** -/
theorem oneHolder_repeats (h : Inv d) (r : ServiceRun settings (start d) cfg)
    (hall : ∀ t ∈ cfg.threads, t.call.Creates v q) : cfg.OneHolder Status.AtStmt := by
  obtain ⟨l, hl⟩ := System.tracks_run (S := system settings) h r
  have hguard : ∀ {i : ℕ} {t}, cfg.threads[i]? = some t →
      t.status.Always protocol (firstGuard q.firstLock) (fun _ => True) cfg.db := fun ht =>
    guarded_run (·.Creates v q) (fun _ _ hc hi => Creation.always_reserve hc hi) h r ht
      (hall _ (List.mem_of_getElem? ht))
  intro i j ti tj hij hi hj si sj
  rcases first_of_atStmt (hguard hi) si with hnil | ⟨m, hm, hmi⟩
  · exact Or.inl hnil
  rcases first_of_atStmt (hguard hj) sj with hnil | ⟨m', hm', hmj⟩
  · exact Or.inr hnil
  obtain rfl : m = m' := Option.some.inj (hm.symm.trans hm')
  exact absurd hmj (hl.locks i j ti tj hij hi hj hmi)

end

/-- **Idempotent creation**: what is said about the calls that repeat one request. -/
structure Idempotent (settings : Settings) (d : Database) (cfg : ServiceConfig) (v : UUID)
    (q : Creation) : Prop where
  /-- at most one reservation with the key ever exists -/
  unique : ∀ c, ServiceRun settings (start d) c → ServiceRun settings c cfg →
    ∀ r ∈ c.db.reservations, ∀ r' ∈ cfg.db.reservations,
      r.visitorSessionId = v → r.idempotencyKey = q.idempotencyKey →
      r'.visitorSessionId = v → r'.idempotencyKey = q.idempotencyKey → r'.id = r.id
  /-- of the steps of the calls, one at most changes the tables -/
  once : ∀ steps, History (Call.prog settings) (start d) steps cfg →
    steps.Pairwise fun s s' => Repeats cfg v q s.call → Repeats cfg v q s'.call →
      s.pre ≠ s.post → s'.post = s'.pre
  /-- all successes show the same -/
  same : ∃ core, ∀ t ∈ cfg.threads, t.call.Creates v q → ∀ a, t.status = .returned (.ok a) →
    a.core = some core
  /-- a call that arrives after a success does not fail -/
  replayed : ∀ c, ServiceRun settings (start d) c → ServiceRun settings c cfg →
    (∃ t ∈ c.threads, t.call.Creates v q ∧ ∃ a, t.status = .returned (.ok a)) →
    ∀ j ≥ c.threads.length, ∀ t, cfg.threads[j]? = some t → t.call.Creates v q →
      ∀ e, t.status ≠ .returned (.error e)
  /-- if nothing else runs and each call would succeed alone, all give the success that one of them
      gives alone, and the calls that are not aborted can always be brought to it -/
  alone : cfg.threads ≠ [] → (∀ t ∈ cfg.threads, t.call.Creates v q ∧
      ∃ a d', (t.call.prog settings).alone d = (.ok a, d')) →
    ∃ t₀ ∈ cfg.threads, ∃ a d', (t₀.call.prog settings).alone d = (.ok a, d') ∧
      (∀ t ∈ cfg.threads, ∀ res, t.status = .returned res → res = .ok a) ∧
      ∃ cfg', Steps (Call.prog settings) cfg cfg' ∧
        ∀ (i : ℕ) t, cfg.threads[i]? = some t → t.status ≠ .aborted →
          ∃ t', cfg'.threads[i]? = some t' ∧ t'.status = .returned (.ok a)

section
variable {settings : Settings} {d : Database} {cfg : ServiceConfig} {q : Creation} {v : UUID}
  {l : List (Entry Call Database (Except Error Response))}

/-- The reservation of a success is in the table, and the success shows it. -/
theorem row_of_returned (h : (system settings).Tracks d cfg l)
    {t : Thread Call Database Write Lock Error Response} (ht : t ∈ cfg.threads)
    (hc : t.call.Creates v q) {a : Response} (ha : t.status = .returned (.ok a)) :
    ∃ r ∈ cfg.db.reservations, q.Row v r ∧ a.core = (q.response cfg.db r).core := by
  obtain ⟨i, hi⟩ := List.mem_iff_getElem?.1 ht
  obtain ⟨d₁, d₂, hd, -, -, hs, hl, hl'⟩ := h.returned hi ha
  obtain ⟨r, hr, hrow, rfl⟩ := Creation.answered hd hc hs
  obtain ⟨r', hr', hrow', hcore⟩ := Creation.response_leads (hl.inv hd) hl' hr hrow
  exact ⟨r', hr', hrow', hcore.symm⟩

/-- **A step of one of the calls** changes the tables only if no reservation has the key, and it
    creates it then. -/
theorem Creation.step {c c' : ServiceConfig} {i : ℕ} (h : (system settings).Tracks d c l)
    (hact : c.act (Call.prog settings) (.step i) = some c')
    (hrep : ∀ t, c.threads[i]? = some t → t.call.Creates v q) :
    (c.db ≠ c'.db → ∃ r ∈ c'.db.reservations, q.Row v r) ∧
      ((∃ r ∈ c.db.reservations, q.Row v r) → c'.db = c.db) := by
  rcases h.commit hact with hdb | ⟨t, res, ht, hs, -⟩
  · exact ⟨fun hne => absurd hdb.symm hne, fun _ => hdb⟩
  have hc := hrep t ht
  refine ⟨fun hne => ?_, fun ⟨r, hr, hrow⟩ => ((Creation.replay h.inv hc hr hrow).1 hs).2⟩
  cases res with
  | error e => exact absurd (Creation.refused hc hs).symm hne
  | ok a =>
    obtain ⟨r, hr, hrow, -⟩ := Creation.answered h.inv hc hs
    exact ⟨r, hr, hrow⟩

/-- **Of the steps of the calls, one at most changes the tables.** -/
theorem once_of_history {repeats : ℕ → Prop} {steps : List (StepRecord Database)} (hd : Inv d)
    (h : History (Call.prog settings) (start d) steps cfg)
    (hrep : ∀ (i : ℕ) t, cfg.threads[i]? = some t → repeats i → t.call.Creates v q) :
    (∀ s ∈ steps, repeats s.call → s.pre ≠ s.post → ∃ r ∈ cfg.db.reservations, q.Row v r) ∧
      steps.Pairwise fun s s' => repeats s.call → repeats s'.call → s.pre ≠ s.post →
        s'.post = s'.pre := by
  generalize hcfg₀ : start d = cfg₀ at h
  induction h with
  | refl => simp
  | @tail c c' steps a h hact ih =>
    subst hcfg₀
    obtain ⟨l, hl⟩ := System.tracks_run (S := system settings) hd h.run
    have hrep' : ∀ (i : ℕ) t, c.threads[i]? = some t → repeats i → t.call.Creates v q := by
      intro i t ht hi
      have r : ServiceRun settings c c' := .tail a (.refl c) trivial hact
      obtain ⟨t', ht', hc, -⟩ := r.thread ht
      exact hc ▸ hrep i t' ht' hi
    obtain ⟨hrow, hpair⟩ := ih hrep'
    -- once created, the reservation stays
    have hstay : ∀ s ∈ steps, repeats s.call → s.pre ≠ s.post →
        ∃ r ∈ c'.db.reservations, q.Row v r := by
      intro s hs hr hne
      obtain ⟨r, hr, hq⟩ := hrow s hs hr hne
      obtain ⟨r', hr', hq', -⟩ := Creation.response_leads hl.inv (hl.leads hact) hr hq
      exact ⟨r', hr', hq'⟩
    cases a with
    | arrive | abort =>
      simp only [Action.record, List.append_nil]
      exact ⟨hstay, hpair⟩
    | step i =>
      simp only [Action.record, List.forall_mem_append, List.pairwise_append, List.forall_mem_singleton]
      refine ⟨⟨hstay, fun hi hne => ?_⟩, hpair, List.pairwise_singleton _ _, fun s hs hr hi hne => ?_⟩
      · exact (Creation.step hl hact fun t ht => hrep' i t ht hi).1 hne
      · exact (Creation.step hl hact fun t ht => hrep' i t ht hi).2 (hrow s hs hr hne)

/-- If each of the calls would succeed alone, all that answer give the success of one of them. -/
theorem same_answer (hd : Inv d) (r : ServiceRun settings (start d) cfg)
    (hall : ∀ t ∈ cfg.threads, t.call.Creates v q ∧
      ∃ a d', (t.call.prog settings).alone d = (.ok a, d')) (hne : cfg.threads ≠ []) :
    ∃ t₀ ∈ cfg.threads, ∃ a d', (t₀.call.prog settings).alone d = (.ok a, d') ∧
      ∀ t ∈ cfg.threads, ∀ res, t.status = .returned res → res = .ok a := by
  obtain ⟨l, hl⟩ := System.tracks_run (S := system settings) hd r
  have hentry : ∀ t ∈ cfg.threads, ∀ res, t.status = .returned res → ∃ e ∈ l, e.result = res := by
    intro t ht res hres
    obtain ⟨i, hi⟩ := List.mem_iff_getElem?.1 ht
    have hok := hl.thread i t hi
    rw [System.ThreadOk, hres] at hok
    obtain ⟨e, he, -, hr, -⟩ := hok
    exact ⟨e, he, hr⟩
  have hcall : ∀ e ∈ l, ∃ t ∈ cfg.threads, t.call = e.call := by
    intro e he
    obtain ⟨t, ht, hc⟩ := hl.call e he
    exact ⟨t, List.mem_of_getElem? ht, hc⟩
  have hall' : ∀ e ∈ l, e.call.Creates v q ∧
      ∃ a d', (e.call.prog settings).alone d = (.ok a, d') := by
    intro e he
    obtain ⟨t, ht, hc⟩ := hcall e he
    exact hc ▸ hall t ht
  by_cases hnil : l = []
  · -- no call has taken effect
    obtain ⟨t, ht⟩ := List.exists_mem_of_ne_nil _ hne
    obtain ⟨a, d', ha⟩ := (hall t ht).2
    refine ⟨t, ht, a, d', ha, fun t ht res hres => ?_⟩
    obtain ⟨e, he, -⟩ := hentry t ht res hres
    rw [hnil] at he
    cases he
  · obtain ⟨e, he, a, d', ha, hsame⟩ := Creation.same_success hl.path (fun e he => (hall' e he).1)
      (fun e he => (hall' e he).2) hnil
    obtain ⟨t, ht, hc⟩ := hcall e he
    refine ⟨t, ht, a, d', hc ▸ ha, fun t ht res hres => ?_⟩
    obtain ⟨e, he, rfl⟩ := hentry t ht res hres
    exact hsame e he

/-- The calls of a run can be brought to the success of one of them. -/
theorem alone_answer (h : Reachable settings d) (r : ServiceRun settings (start d) cfg)
    (hne : cfg.threads ≠ []) (hall : ∀ t ∈ cfg.threads, t.call.Creates v q ∧
      ∃ a d', (t.call.prog settings).alone d = (.ok a, d')) :
    ∃ t₀ ∈ cfg.threads, ∃ a d', (t₀.call.prog settings).alone d = (.ok a, d') ∧
      (∀ t ∈ cfg.threads, ∀ res, t.status = .returned res → res = .ok a) ∧
      ∃ cfg', Steps (Call.prog settings) cfg cfg' ∧
        ∀ (i : ℕ) t, cfg.threads[i]? = some t → t.status ≠ .aborted →
          ∃ t', cfg'.threads[i]? = some t' ∧ t'.status = .returned (.ok a) := by
  obtain ⟨cfg', rs, hf, hcalls⟩ := exists_finished (Call.prog settings)
    (oneHolder_repeats h.inv r fun t ht => (hall t ht).1)
  have hback : ∀ t ∈ cfg'.threads, ∃ t' ∈ cfg.threads, t'.call = t.call := by
    intro t ht
    have := List.mem_map_of_mem (f := Thread.call) ht
    rw [hcalls] at this
    exact List.mem_map.1 this
  have hne' : cfg'.threads ≠ [] := by
    intro hnil
    rw [hnil] at hcalls
    exact hne (List.map_eq_nil_iff.1 hcalls.symm)
  obtain ⟨t₁, ht₁, a, d', ha, hsame⟩ := same_answer (q := q) (v := v) h.inv
    (r.trans (rs.mono fun _ _ _ => trivial)) (fun t ht => by
      obtain ⟨t', ht', hc⟩ := hback t ht
      exact hc ▸ hall t' ht') hne'
  obtain ⟨t₀, ht₀, hc₀⟩ := hback t₁ ht₁
  refine ⟨t₀, ht₀, a, d', hc₀ ▸ ha, fun t ht res hres => ?_, cfg', rs, fun i t ht hs => ?_⟩
  · obtain ⟨i, hi⟩ := List.mem_iff_getElem?.1 ht
    obtain ⟨t', ht', -, -, hres'⟩ := rs.thread hi
    exact hsame t' (List.mem_of_getElem? ht') res (hres' res hres)
  · obtain ⟨t', ht', hs'⟩ := rs.not_aborted ht hs
    have hmem := List.mem_of_getElem? ht'
    refine ⟨t', ht', ?_⟩
    cases hst : t'.status with
    | running p σ =>
      have := hf t' hmem
      rw [hst] at this
      cases this
    | returned res => rw [hsame t' hmem res hst]
    | aborted => exact absurd hst hs'

/-- **Idempotent creation under concurrency.** -/
theorem idempotent_creation (h : Reachable settings d) (r : ServiceRun settings (start d) cfg)
    (v : UUID) (q : Creation) : Idempotent settings d cfg v q where
  unique c rc rc' x hx y hy hxv hxk hyv hyk := by
    have hl := System.leads_run (System.tracks_run (S := system settings) h.inv rc) rc'
    obtain ⟨x', hx', hm, -⟩ := moved_leads (ServiceRun.inv h.inv rc) hl hx
    have heq : x' = y := Table.eq_of_key (ServiceRun.inv h.inv r).visitorKeys hx' hy
      (Prod.ext (hm.key.1.trans (hxv.trans hyv.symm)) (hm.key.2.trans (hxk.trans hyk.symm)))
    exact heq ▸ hm.id
  once steps hsteps := by
    have hrep : ∀ (i : ℕ) t, cfg.threads[i]? = some t → Repeats cfg v q i → t.call.Creates v q := by
      rintro i t ht ⟨t', ht', hc⟩
      obtain rfl : t = t' := Option.some.inj (ht.symm.trans ht')
      exact hc
    exact (once_of_history h.inv hsteps hrep).2
  same := by
    obtain ⟨l, hl⟩ := System.tracks_run (S := system settings) h.inv r
    by_cases hex : ∃ x ∈ cfg.db.reservations, q.Row v x
    · obtain ⟨x, hx, hrow⟩ := hex
      have hcore : ∃ core, (q.response cfg.db x).core = some core := by
        cases q <;> exact ⟨_, rfl⟩
      refine hcore.imp fun core hcore t ht hc a ha => ?_
      obtain ⟨y, hy, hrow', hy'⟩ := row_of_returned hl ht hc ha
      obtain rfl := hrow.unique hl.inv hrow' hx hy
      exact hy'.trans hcore
    · refine ⟨(0, 0, [], []), fun t ht hc a ha => absurd ?_ hex⟩
      obtain ⟨y, hy, hrow, -⟩ := row_of_returned hl ht hc ha
      exact ⟨y, hy, hrow⟩
  replayed c rc rc' := by
    rintro ⟨t, ht, hc, a, ha⟩ j hj u hu hcu e hue
    obtain ⟨l, hl⟩ := System.tracks_run (S := system settings) h.inv rc
    obtain ⟨x, hx, hrow, -⟩ := row_of_returned hl ht hc ha
    have hborn := System.born_run (S := system settings) ⟨l, hl⟩ rc' hu hj
    obtain ⟨l', hl'⟩ := System.tracks_run (S := system settings) h.inv r
    obtain ⟨d₁, d₂, hd, -, hb, hs, -, -⟩ := hl'.returned hu hue
    obtain ⟨y, hy, hrow', -⟩ := Creation.response_leads hl.inv (hborn.trans hb) hx hrow
    cases ((Creation.replay hd hcu hy hrow').1 hs).1
  alone := alone_answer h r

end

namespace Sample

/-- Alice asks for four tickets of five, twice with the same key. -/
def fourTwice : List Call :=
  [.reserveQuantity alice fourTickets (uuid4 100) 5, .reserveQuantity alice fourTickets (uuid4 200) 6]

/-- Both calls find the key free; the first one locks the ticket type, and the second one waits for
    it and is refused there. -/
def fourRace : List (Action Call) :=
  fourTwice.map .arrive ++ [0, 1, 0, 0, 0, 0, 1, 0, 1].map .step

theorem fourTwice_alone {c : Call} (hc : c ∈ fourTwice) : c.Creates 1 (.quantity fourTickets) ∧
    ∃ a d', (c.prog settings).alone inventory = (.ok a, d') := by
  have hcreates : ∀ c ∈ fourTwice, c.Creates 1 (.quantity fourTickets) :=
    List.forall_mem_cons.2 ⟨⟨rfl, rfl⟩, List.forall_mem_singleton.2 ⟨rfl, rfl⟩⟩
  have hok : ∀ c ∈ fourTwice, ((c.prog settings).alone inventory).1.isOk := by decide
  refine ⟨hcreates c hc, ?_⟩
  have := hok c hc
  generalize (c.prog settings).alone inventory = x at this ⊢
  obtain ⟨e | a, d'⟩ := x
  · cases this
  · exact ⟨a, d', rfl⟩

end Sample

/-- Two requests, and stock for one of them. -/
theorem idempotent_creation_race :
    ((start Sample.inventory).after (Call.prog Sample.settings) Sample.fourRace).threads.map
      Thread.call = Sample.fourTwice ∧
    (∀ c ∈ Sample.fourTwice, c.Creates 1 (.quantity Sample.fourTickets) ∧
      ∃ a d', (c.prog Sample.settings).alone Sample.inventory = (.ok a, d')) ∧
    Idempotent Sample.settings Sample.inventory
      ((start Sample.inventory).after (Call.prog Sample.settings) Sample.fourRace) 1
      (.quantity Sample.fourTickets) :=
  ⟨rfl, fun _ hc => Sample.fourTwice_alone hc,
    idempotent_creation Sample.inventory_inventory.reachable (run_after (by decide)) _ _⟩

end TicketReservation
