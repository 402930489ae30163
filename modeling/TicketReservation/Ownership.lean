/-
  Who reaches a reservation.

  A `Site` serves one request after another: requests to the accounts, and
  requests to the reservations, for which `get_current_session` finds the
  visitor's session by its cookie (reservations/router.py).

  The reservation of a logged-in user `A` is read and changed by the sessions of
  `A` (`Entitled`), with two exceptions that the code makes.  A login links the
  session whose token it presents, also when another user was logged in there
  (`TakesOver`), and the session keeps the reservations made in it.  A seat
  request expires the reservation when it has lapsed.

  * `reservation_stays_with_user`: there is no other way;
  * `reservation_changes_hands`: a takeover, run.
-/
import TicketReservation.Accounts.Alone
import TicketReservation.Reads
import TicketReservation.LifecycleSafety
import TicketReservation.Successes

namespace TicketReservation

open Txn

/-! ## A site -/

/-- The configuration of the application. -/
structure App where
  security : Accounts.Security
  sessionSettings : Accounts.Settings
  settings : Settings

/-- The committed database, and the time. -/
structure Site where
  db : Database
  clock : Instant

def Site.accounts (s : Site) : Accounts.Tables := ⟨s.db.users, s.db.visitorSessions, s.clock⟩

def Site.withAccounts (s : Site) (t : Accounts.Tables) : Site :=
  ⟨{ s.db with users := t.users, visitorSessions := t.visitorSessions }, t.clock⟩

/-- A request to the reservations. -/
inductive ReservationRequest where
  | reserveQuantity (payload : QuantityReservationCreate) (uuid4 : ℕ → UUID)
  | reserveSeats (payload : SeatReservationCreate) (uuid4 : ℕ → UUID)
  | get (reservationId : UUID)
  | cancel (reservationId : UUID)
  | confirm (reservationId : UUID)

/-- The call of the service, for the visitor's session. -/
def ReservationRequest.call (now : Instant) (visitorSession : VisitorSession) :
    ReservationRequest → Call
  | reserveQuantity payload uuid4 => .reserveQuantity visitorSession payload uuid4 now
  | reserveSeats payload uuid4 => .reserveSeats visitorSession payload uuid4 now
  | get reservationId => .get reservationId visitorSession
  | cancel reservationId => .cancel reservationId visitorSession now
  | confirm reservationId => .confirm reservationId visitorSession now

inductive Request where
  | account (call : Accounts.Call)
  | reservation (cookie : Option String) (request : ReservationRequest)

/-- An answer; that of a reservation request with the session that it is for. -/
inductive Answer where
  | account (result : Except Accounts.Error Accounts.Response)
  | unauthorized (error : Accounts.Error)
  | reservation (visitorSession : VisitorSession) (result : Except Error Response)

/-- A reservation request, when its session is known. -/
def Site.reserve (app : App) (s : Site) (visitorSession : VisitorSession)
    (request : ReservationRequest) : Answer × Site :=
  let (result, db) := ((request.call s.clock visitorSession).prog app.settings).alone s.db
  (.reservation visitorSession result, ⟨db, s.clock⟩)

/-- One request: its answer, and what it leaves. -/
def Site.serve (app : App) (s : Site) : Request → Answer × Site
  | .account call =>
    let (result, t) := (call.prog app.security app.sessionSettings).alone s.accounts
    (.account result, s.withAccounts t)
  | .reservation cookie request =>
    match (Accounts.getCurrentSession app.security cookie).alone s.accounts with
    | (.error e, t) => (.unauthorized e, s.withAccounts t)
    | (.ok visitorSession, t) => (s.withAccounts t).reserve app visitorSession request

/-- What is left when the requests have been served in this order. -/
def Site.after (app : App) (s : Site) (requests : List Request) : Site :=
  requests.foldl (fun s request => (s.serve app request).2) s

/-- The reservation that an answer shows. -/
def Response.reservationId? : Response → Option UUID
  | .quantity response => some response.reservationId
  | .seats response => some response.reservationId
  | .detail response => some response.reservationId
  | .count _ => none

/-! ## What a reservation request answers and does -/

section
variable {settings : Settings} {d : Database} {R : Reservation} {visitorSession : VisitorSession}
  {now : Instant}

/-- A successful `cancel` or `confirm` is the owner's. -/
theorem moveToOutcome_owned {s : ReservationStatus} {reservationId : UUID}
    {a : ReservationDetailResponse} (hd : Inv d)
    (h : (moveToOutcome s reservationId visitorSession now d).1 = .ok a) :
    a.reservationId = reservationId ∧ ∃ x ∈ d.reservations, x.id = reservationId ∧
      x.ownedBy visitorSession.id visitorSession.userId := by
  obtain ⟨w, -, hid, -, rfl⟩ := moveToOutcome_ok hd h
  refine ⟨hid, ?_⟩
  unfold moveToOutcome at h
  cases hx : d.ownedReservation reservationId visitorSession.id visitorSession.userId with
  | none => rw [hx] at h; cases h
  | some x => exact ⟨x, (ownedReservation_eq_some hd).1 hx⟩

/-- `get` with nothing else running. -/
theorem alone_get (reservationId : UUID) :
    ((Call.get reservationId visitorSession).prog settings).alone d =
      (match d.ownedReservation reservationId visitorSession.id visitorSession.userId with
        | none => .error .reservationNotFoundError
        | some x => .ok (.detail (Whole.of d x).detail), d) := by
  rw [get_eq, Prog.alone, Prog.run]
  dsimp only [Stmt.ofPlan, Session.view_empty]
  cases d.ownedReservation reservationId visitorSession.id visitorSession.userId <;> rfl

/-- **A successful answer is about a reservation of the session or of its user.** -/
theorem success_owned (hd : Inv d) (q : ReservationRequest) (hR : R ∈ d.reservations) {a : Response}
    (h : (((q.call now visitorSession).prog settings).alone d).1 = .ok a)
    (ha : a.reservationId? = some R.id) : R.ownedBy visitorSession.id visitorSession.userId := by
  have hspec := (q.call now visitorSession).alone_spec settings hd
  have hleads := (q.call now visitorSession).alone_leads settings hd
  rw [h] at hspec
  -- the row that a replay shows is that of `R`
  have hvisitor : ∀ {d'}, protocol.Leads d d' → ∀ r ∈ d'.reservations,
      r.visitorSessionId = visitorSession.id → r.id = R.id →
      R.ownedBy visitorSession.id visitorSession.userId := by
    intro d' hl r hr hv hid
    have hkeep : protocol.Keeps [] fun d => ∃ y ∈ d.reservations, y.id = R.id ∧
        y.visitorSessionId = R.visitorSessionId :=
      keeps_reservation fun y y' hm hy => by rwa [hm.same]
    obtain ⟨y, hy, hyid, hyv⟩ := hkeep.leads hd hl ⟨R, hR, rfl, rfl⟩
    obtain rfl := (hl.inv hd).eq_of_id hy hr (hyid.trans hid.symm)
    simp [Reservation.ownedBy, ← hyv, hv]
  -- `cancel` and `confirm` show the reservation that they have locked
  have hmove : ∀ {s reservationId}, .ok a = (moveToOutcome s reservationId visitorSession now d).1.map
      Response.detail → R.ownedBy visitorSession.id visitorSession.userId := by
    intro s reservationId hok
    obtain ⟨b, hout, rfl⟩ := ok_eq_map hok
    obtain ⟨hid, x, hx, hxid, ho⟩ := moveToOutcome_owned hd hout
    have hRid : b.reservationId = R.id := Option.some.inj ha
    rwa [← hd.eq_of_id hx hR (hxid.trans (hid.symm.trans hRid))]
  cases q with
  | reserveQuantity payload uuid4 =>
    obtain ⟨b, r, rfl, hb⟩ := Call.answeredBy hd hspec
    exact hvisitor hleads r hb.names.mem hb.names.visitor (hb.names.id.trans (Option.some.inj ha))
  | reserveSeats payload uuid4 =>
    obtain ⟨b, r, rfl, hb⟩ := Call.answeredBy hd hspec
    exact hvisitor hleads r hb.names.mem hb.names.visitor (hb.names.id.trans (Option.some.inj ha))
  | get reservationId =>
    rw [ReservationRequest.call, alone_get] at h
    cases hx : d.ownedReservation reservationId visitorSession.id visitorSession.userId with
    | none => rw [hx] at h; cases h
    | some x =>
      rw [hx] at h
      cases h
      obtain ⟨hxm, -, ho⟩ := (ownedReservation_eq_some hd).1 hx
      rwa [← hd.eq_of_id hxm hR (Option.some.inj ha)]
  | cancel reservationId => exact hmove ((Call.spec_cancel hd).1 hspec).1
  | confirm reservationId => exact hmove ((Call.spec_confirm hd).1 hspec).1

/-- `get`, `cancel` and `confirm` of the reservation. -/
def ReservationRequest.On (reservationId : UUID) : ReservationRequest → Prop
  | reserveQuantity _ _ => False
  | reserveSeats _ _ => False
  | get x => x = reservationId
  | cancel x => x = reservationId
  | confirm x => x = reservationId

/-- A successful `get`, `cancel` or `confirm` shows the reservation that was asked for. -/
theorem success_shows (hd : Inv d) {q : ReservationRequest} {reservationId : UUID}
    (hq : q.On reservationId) {a : Response}
    (h : (((q.call now visitorSession).prog settings).alone d).1 = .ok a) :
    a.reservationId? = some reservationId := by
  have hspec := (q.call now visitorSession).alone_spec settings hd
  rw [h] at hspec
  have hmove : ∀ {s}, .ok a = (moveToOutcome s reservationId visitorSession now d).1.map
      Response.detail → a.reservationId? = some reservationId := by
    intro s hok
    obtain ⟨b, hout, rfl⟩ := ok_eq_map hok
    exact congrArg some (moveToOutcome_owned hd hout).1
  cases q with
  | reserveQuantity payload uuid4 => exact hq.elim
  | reserveSeats payload uuid4 => exact hq.elim
  | get x =>
    obtain rfl : x = reservationId := hq
    rw [ReservationRequest.call, alone_get] at h
    cases hx : d.ownedReservation x visitorSession.id visitorSession.userId with
    | none => rw [hx] at h; cases h
    | some y =>
      rw [hx] at h
      cases h
      exact congrArg some ((ownedReservation_eq_some hd).1 hx).2.1
  | cancel x =>
    obtain rfl : x = reservationId := hq
    exact hmove ((Call.spec_cancel hd).1 hspec).1
  | confirm x =>
    obtain rfl : x = reservationId := hq
    exact hmove ((Call.spec_confirm hd).1 hspec).1

/-- What a session may do to a reservation of another session and another user:
    a seat request expires it when it has lapsed. -/
def ReservationRequest.MayChange (q : ReservationRequest) (now : Instant)
    (visitorSession : VisitorSession) (R : Reservation) : Prop :=
  R.ownedBy visitorSession.id visitorSession.userId ∨
    (∃ payload uuid4, q = .reserveSeats payload uuid4) ∧ R.status = .reserved ∧ R.expiresAt ≤ now

/-- **A reservation that a request changes** is of the session or of its user, or it has lapsed. -/
theorem changed_owned (hd : Inv d) (q : ReservationRequest) (hR : R ∈ d.reservations)
    (h : R ∉ (((q.call now visitorSession).prog settings).alone d).2.reservations) :
    q.MayChange now visitorSession R := by
  obtain ⟨ids, s, new, hm⟩ := Call.moves hd ((q.call now visitorSession).alone_spec settings hd)
  by_cases hid : R.id ∈ ids
  · obtain ⟨hst, hmay⟩ := hm.may R hR hid
    cases q with
    | reserveQuantity payload uuid4 => cases hmay
    | reserveSeats payload uuid4 =>
      cases hmay with
      | reserveSeats _ _ _ _ hexp => exact Or.inr ⟨⟨payload, uuid4, rfl⟩, hst, hexp⟩
    | get reservationId => cases hmay
    | cancel reservationId => cases hmay <;> exact Or.inl ‹_›
    | confirm reservationId => cases hmay <;> exact Or.inl ‹_›
  · refine absurd ?_ h
    rw [hm.reservations]
    exact List.mem_append_left _ (List.mem_map.2 ⟨R, hR, if_neg hid⟩)

theorem moveToOutcome_snd (s : ReservationStatus) (reservationId : UUID)
    (visitorSession : VisitorSession) (now : Instant) (d : Database) :
    (moveToOutcome s reservationId visitorSession now d).2 = d ∨
      ∃ x s', (moveToOutcome s reservationId visitorSession now d).2 = d.finish x s' := by
  unfold moveToOutcome
  cases d.ownedReservation reservationId visitorSession.id visitorSession.userId with
  | none => exact Or.inl rfl
  | some x =>
    simp only [moveOutcome]
    split_ifs
    · exact Or.inl rfl
    · exact Or.inl rfl
    · exact Or.inr ⟨_, _, rfl⟩
    · exact Or.inr ⟨_, _, rfl⟩

/-- **A reservation that a request adds** is of the session and of its user. -/
theorem added_owned (hd : Inv d) (q : ReservationRequest)
    (h : R ∈ (((q.call now visitorSession).prog settings).alone d).2.reservations) :
    (∃ x ∈ d.reservations, R = { x with status := R.status }) ∨
      R.visitorSessionId = visitorSession.id ∧ R.userId = visitorSession.userId := by
  have hspec := (q.call now visitorSession).alone_spec settings hd
  generalize (((q.call now visitorSession).prog settings).alone d).2 = d' at h hspec
  generalize (((q.call now visitorSession).prog settings).alone d).1 = r at hspec
  have hsame : R ∈ d.reservations → ∃ x ∈ d.reservations, R = { x with status := R.status } :=
    fun hR => ⟨R, hR, rfl⟩
  have hmove : ∀ {s reservationId}, d' = (moveToOutcome s reservationId visitorSession now d).2 →
      ∃ x ∈ d.reservations, R = { x with status := R.status } := by
    intro s reservationId hd'
    rcases moveToOutcome_snd s reservationId visitorSession now d with heq | ⟨y, s', heq⟩
    · exact hsame (heq ▸ hd' ▸ h)
    · rw [hd', heq] at h
      obtain ⟨x, hx, rfl⟩ := List.mem_map.1 h
      refine ⟨x, hx, ?_⟩
      unfold Reservation.finish
      split_ifs <;> rfl
  cases q with
  | reserveQuantity payload uuid4 =>
    obtain ⟨-, rfl⟩ := (Call.spec_reserveQuantity hd).1 hspec
    unfold QuantityReservationService.reserveOutcome at h
    split at h
    · exact Or.inl (hsame h)
    · exact Or.inl (hsame h)
    · split_ifs at h
      · rcases List.mem_append.1 h with h | h
        · exact Or.inl (hsame h)
        · obtain rfl := List.mem_singleton.1 h
          exact Or.inr ⟨rfl, rfl⟩
      · exact Or.inl (hsame h)
      · exact Or.inl (hsame h)
  | reserveSeats payload uuid4 =>
    obtain ⟨-, rfl⟩ := (Call.spec_reserveSeats hd).1 hspec
    unfold SeatReservationService.reserveOutcome at h
    split at h
    · exact Or.inl (hsame h)
    · exact Or.inl (hsame h)
    · split_ifs at h
      · exact Or.inl (hsame h)
      · rcases List.mem_append.1 h with h | h
        · obtain ⟨x, hx, rfl⟩ := List.mem_map.1 h
          refine Or.inl ⟨x, hx, ?_⟩
          split_ifs <;> rfl
        · obtain rfl := List.mem_singleton.1 h
          exact Or.inr ⟨rfl, rfl⟩
      · exact Or.inl (hsame h)
  | get reservationId =>
    obtain rfl : d' = d := hspec
    exact Or.inl (hsame h)
  | cancel reservationId => exact Or.inl (hmove ((Call.spec_cancel hd).1 hspec).2)
  | confirm reservationId => exact Or.inl (hmove ((Call.spec_confirm hd).1 hspec).2)

end

/-! ## Requests one after another -/

section
variable {app : App} {s s' : Site} {q : Request} {a : Answer}

theorem Site.accounts_valid (h : Inv s.db) : s.accounts.Valid :=
  ⟨h.userIds, h.userEmails, h.sessionIds, h.sessionTokens, h.sessionUsers⟩

theorem Site.inv_withAccounts {c r t} (h : Inv s.db)
    (hdoes : Accounts.Does app.security app.sessionSettings s.accounts c r t) :
    Inv (s.withAccounts t).db := by
  have hv := hdoes.valid (Site.accounts_valid h)
  exact
    { h with
      userIds := hv.userIds
      userEmails := hv.userEmails
      sessionIds := hv.ids
      sessionTokens := hv.hashes
      sessionUsers := hv.hasUser
      reservationSessions := fun r hr => by
        obtain ⟨v, hvm, hid⟩ := h.reservationSessions r hr
        obtain ⟨v', hv', hid', -⟩ := hdoes.session (Site.accounts_valid h) hvm
        exact ⟨v', hv', hid'.trans hid⟩
      reservationUsers := fun r hr u hu => by
        obtain ⟨x, hx, hid⟩ := h.reservationUsers r hr u hu
        exact ⟨x, hdoes.user hx, hid⟩ }

/-- **What serving a request comes to.** -/
inductive Site.Serves (app : App) (s : Site) : Request → Answer → Site → Prop
  | account (call : Accounts.Call) (result : Except Accounts.Error Accounts.Response)
      (t : Accounts.Tables) :
      Accounts.Does app.security app.sessionSettings s.accounts call result t →
      Serves app s (.account call) (.account result) (s.withAccounts t)
  | unauthorized (cookie : Option String) (request : ReservationRequest) (e : Accounts.Error) :
      Serves app s (.reservation cookie request) (.unauthorized e) s
  | reservation (cookie : Option String) (request : ReservationRequest) (v : VisitorSession) :
      v ∈ s.db.visitorSessions → s.clock < v.expiresAt →
      Serves app s (.reservation cookie request)
        (.reservation v (((request.call s.clock v).prog app.settings).alone s.db).1)
        ⟨(((request.call s.clock v).prog app.settings).alone s.db).2, s.clock⟩

theorem Site.serves (app : App) (h : Inv s.db) (q : Request) :
    s.Serves app q (s.serve app q).1 (s.serve app q).2 := by
  cases q with
  | account call => exact .account call _ _ (Accounts.Call.does (Site.accounts_valid h) call)
  | reservation cookie request =>
    have hcur : (Accounts.getCurrentSession app.security cookie).alone s.accounts = _ :=
      congrArg (fun x => (x.1, x.2.1)) (Accounts.run_getCurrentSession (Site.accounts_valid h) cookie)
    simp only [Site.serve, hcur]
    cases hact : cookie.bind fun token => s.accounts.activeSession app.security token with
    | none => exact .unauthorized cookie request .unauthorizedError
    | some v =>
      obtain ⟨token, -, hs⟩ := Option.bind_eq_some_iff.1 hact
      obtain ⟨hmem, -, hexp⟩ := (Accounts.Tables.activeSession_eq_some (Site.accounts_valid h)).1 hs
      exact .reservation cookie request v hmem hexp

theorem Site.Serves.inv (h : s.Serves app q a s') (hi : Inv s.db) : Inv s'.db := by
  cases h with
  | account call result t hdoes => exact Site.inv_withAccounts hi hdoes
  | unauthorized cookie request e => exact hi
  | reservation cookie request v hv hexp =>
    exact ((request.call s.clock v).alone_leads app.settings hi).inv hi

@[simp] theorem Site.after_nil : s.after app [] = s := rfl

@[simp] theorem Site.after_snoc (requests : List Request) (q : Request) :
    s.after app (requests ++ [q]) = ((s.after app requests).serve app q).2 := by
  simp [Site.after]

theorem Site.inv_after (app : App) (h : Inv s.db) (requests : List Request) :
    Inv (s.after app requests).db := by
  induction requests using List.reverseRecOn with
  | nil => exact h
  | append_singleton requests q ih =>
    rw [Site.after_snoc]
    exact (Site.serves app ih q).inv ih

/-! ## The sessions of a reservation -/

/-- The request is a successful login as another user than `A`, and presents the
    active token of the session `visitorSessionId`. -/
def TakesOver (app : App) (A visitorSessionId : UUID) (s : Site) (q : Request) : Prop :=
  ∃ email password token uuid4 freshToken result v,
    q = .account (.login email password (some token) uuid4 freshToken) ∧
    s.accounts.activeSession app.security token = some v ∧ v.id = visitorSessionId ∧
    (s.serve app q).1 = .account (.ok (.loggedIn result)) ∧ result.user.id ≠ A

/-- Since the reservation exists, its session has been taken over. -/
def TakenOver (app : App) (s : Site) (requests : List Request) (R : Reservation) (A : UUID) : Prop :=
  ∃ before login after, requests = before ++ login :: after ∧
    (∃ x ∈ (s.after app before).db.reservations, x.id = R.id) ∧
    TakesOver app A R.visitorSessionId (s.after app before) login

/-- The session is linked to `A`, or it is the session of the reservation, taken over. -/
def Entitled (app : App) (s : Site) (requests : List Request) (R : Reservation) (A : UUID)
    (v : VisitorSession) : Prop :=
  v.userId = some A ∨ v.id = R.visitorSessionId ∧ TakenOver app s requests R A

theorem TakenOver.snoc {requests : List Request} {R : Reservation} {A : UUID}
    (h : TakenOver app s requests R A) (q : Request) : TakenOver app s (requests ++ [q]) R A := by
  obtain ⟨before, login, after, rfl, h⟩ := h
  exact ⟨before, login, after ++ [q], by simp, h⟩

/-- **The session of a reservation of `A`** is linked to `A`, or it has expired, or
    it has been taken over. -/
theorem session_after (h : Inventory s.db) (requests : List Request) {R : Reservation} {A : UUID}
    (hR : R ∈ (s.after app requests).db.reservations) (hA : R.userId = some A) :
    ∃ v ∈ (s.after app requests).db.visitorSessions, v.id = R.visitorSessionId ∧
      (v.userId = some A ∨ v.expiresAt ≤ (s.after app requests).clock ∨
        TakenOver app s requests R A) := by
  induction requests using List.reverseRecOn generalizing R with
  | nil =>
    rw [Site.after_nil, h.unreserved.reservations] at hR
    cases hR
  | append_singleton requests q ih =>
    have hi := Site.inv_after app h.inv requests
    rw [Site.after_snoc] at hR ⊢
    have hserves := Site.serves app hi q
    generalize hans : ((s.after app requests).serve app q).1 = a at hserves
    generalize ((s.after app requests).serve app q).2 = s' at hR hserves ⊢
    cases hserves with
    | account call result t hdoes =>
      obtain ⟨v, hv, hid, hcase⟩ := ih hR hA
      obtain ⟨v', hv', hid', hcase'⟩ := hdoes.session (Site.accounts_valid hi) hv
      refine ⟨v', hv', hid'.trans hid, ?_⟩
      rcases hcase' with ⟨huser, hexp⟩ | hexp |
        ⟨email, password, token, uuid4, freshToken, user, rfl, hact, rfl, huser⟩
      · rcases hcase with hlinked | hlapsed | htaken
        · exact Or.inl (huser.trans hlinked)
        · exact Or.inr (Or.inl (hexp ▸ hlapsed.trans hdoes.clock))
        · exact Or.inr (Or.inr (htaken.snoc _))
      · exact Or.inr (Or.inl hexp)
      · by_cases hown : user.id = A
        · exact Or.inl (hown ▸ huser)
        · exact Or.inr (Or.inr ⟨requests, _, [], rfl, ⟨R, hR, rfl⟩, email, password, token, uuid4,
            freshToken, _, v, rfl, hact, hid, hans, hown⟩)
    | unauthorized cookie request e =>
      obtain ⟨v, hv, hid, hcase⟩ := ih hR hA
      exact ⟨v, hv, hid, hcase.imp_right fun h => h.imp_right fun h => h.snoc _⟩
    | reservation cookie request v hv hexp =>
      have hleads := (request.call (s.after app requests).clock v).alone_leads app.settings hi
      have hsessions := (keeps_catalogue (Λ := []) fun _ sessions _ _ =>
        sessions = (s.after app requests).db.visitorSessions).leads hi hleads rfl
      rcases added_owned hi request hR with ⟨x, hx, hsame⟩ | ⟨hvid, huser⟩
      · generalize R.status = status at hsame
        subst hsame
        obtain ⟨w, hw, hid, hcase⟩ := ih hx hA
        exact ⟨w, hsessions ▸ hw, hid, hcase.imp_right fun h => h.imp_right fun h => h.snoc _⟩
      · exact ⟨v, hsessions ▸ hv, hvid.symm, Or.inl (huser ▸ hA)⟩

/-- What the request `q`, served after `requests`, does with the reservation `R` of `A`. -/
structure Respects (app : App) (s : Site) (requests : List Request) (q : Request) (R : Reservation)
    (A : UUID) : Prop where
  succeeds : ∀ cookie request v a, q = .reservation cookie request → request.On R.id →
    ((s.after app requests).serve app q).1 = .reservation v (.ok a) → Entitled app s requests R A v
  reads : ∀ v a, ((s.after app requests).serve app q).1 = .reservation v (.ok a) →
    a.reservationId? = some R.id → Entitled app s requests R A v
  changes : ¬ (Whole.of (s.after app requests).db R).In ((s.after app requests).serve app q).2.db →
    ∃ v result, ((s.after app requests).serve app q).1 = .reservation v result ∧
      (Entitled app s requests R A v ∨
        (∃ cookie payload uuid4, q = .reservation cookie (.reserveSeats payload uuid4)) ∧
        R.status = .reserved ∧ R.expiresAt ≤ (s.after app requests).clock)

/-- The active session that owns the reservation of `A` is entitled to it. -/
theorem entitled_of_owned (h : Inventory s.db) {requests : List Request} {R : Reservation} {A : UUID}
    (hR : R ∈ (s.after app requests).db.reservations) (hA : R.userId = some A) {v : VisitorSession}
    (hv : v ∈ (s.after app requests).db.visitorSessions)
    (hexp : (s.after app requests).clock < v.expiresAt) (ho : R.ownedBy v.id v.userId) :
    Entitled app s requests R A v := by
  rw [Reservation.ownedBy, Bool.or_eq_true, Bool.and_eq_true, decide_eq_true_iff,
    decide_eq_true_iff] at ho
  rcases ho with hid | ⟨-, huser⟩
  · obtain ⟨w, hw, hwid, hcase⟩ := session_after h requests hR hA
    obtain rfl := Table.eq_of_key (Site.inv_after app h.inv requests).sessionIds hw hv
      (hwid.trans hid)
    rcases hcase with hlinked | hlapsed | htaken
    · exact Or.inl hlinked
    · exact absurd hexp (not_lt.2 hlapsed)
    · exact Or.inr ⟨hid.symm, htaken⟩
  · exact Or.inl (huser ▸ hA)

/-- **A reservation stays with its user**, unless its session is taken over. -/
theorem reservation_stays_with_user (h : Inventory s.db) (requests : List Request) (q : Request)
    {R : Reservation} {A : UUID} (hR : R ∈ (s.after app requests).db.reservations)
    (hA : R.userId = some A) : Respects app s requests q R A := by
  have hi := Site.inv_after app h.inv requests
  have hserves := Site.serves app hi q
  generalize hserve : (s.after app requests).serve app q = served at hserves
  obtain ⟨a, s'⟩ := served
  have hreads : ∀ v b, a = .reservation v (.ok b) → b.reservationId? = some R.id →
      Entitled app s requests R A v := by
    rintro v b rfl hb
    generalize hb' : Answer.reservation v (.ok b) = a' at hserves
    cases hserves with
    | account call result t hdoes => cases hb'
    | unauthorized cookie request e => cases hb'
    | reservation cookie request w hw hexp =>
      obtain ⟨rfl, hok⟩ := Answer.reservation.inj hb'
      exact entitled_of_owned h hR hA hw hexp (success_owned hi request hR hok.symm hb)
  refine ⟨?_, hserve ▸ hreads, ?_⟩
  · rw [hserve]
    rintro cookie request v b rfl hon rfl
    refine hreads v b rfl ?_
    generalize hb' : Answer.reservation v (.ok b) = a' at hserves
    cases hserves with
    | unauthorized cookie request e => cases hb'
    | reservation cookie request w hw hexp =>
      obtain ⟨rfl, hok⟩ := Answer.reservation.inj hb'
      exact success_shows hi hon hok.symm
  · rw [hserve]
    intro hchange
    cases hserves with
    | account call result t hdoes =>
      obtain ⟨hrow, hitems, hseats⟩ := Whole.of_in hi hR
      exact absurd ⟨hrow, hitems, hseats⟩ hchange
    | unauthorized cookie request e => exact absurd (Whole.of_in hi hR) hchange
    | reservation cookie request v hv hexp =>
      refine ⟨v, _, rfl, ?_⟩
      have hgone : R ∉ (((request.call (s.after app requests).clock v).prog app.settings).alone
          (s.after app requests).db).2.reservations := fun hR' =>
        hchange (whole_leads hi ((request.call _ v).alone_leads app.settings hi) hR hR')
      rcases changed_owned hi request hR hgone with ho | ⟨⟨payload, uuid4, rfl⟩, hst, hlapsed⟩
      · exact Or.inl (entitled_of_owned h hR hA hv hexp ho)
      · exact Or.inr ⟨⟨cookie, payload, uuid4, rfl⟩, hst, hlapsed⟩

end

/-! ## A session that changes hands -/

namespace Sample

/-- Two users with a password each. -/
def app : App where
  security := { Accounts.Sample.security with
    verifyPassword := fun password encoded =>
      (password, encoded) ∈ [("correct-horse", "encoded"), ("battery-staple", "encoded too")] }
  sessionSettings := Accounts.Sample.settings
  settings := settings

/-- The event 10 with five tickets of type 20, the users 1 and 2, and an anonymous
    session with the token `t`. -/
def site : Site where
  db := ((EventService.createTicketType 10 "General" 5 20).alone
    ((EventService.createEvent "Concert" 0 1 10).alone
      { users := [⟨1, "alice@example.com", "encoded"⟩, ⟨2, "bob@example.com", "encoded too"⟩]
        visitorSessions := [⟨7, none, Accounts.Sample.tokenHash, 0, 1000⟩] }).2).2
  clock := 5

theorem site_inventory : Inventory site.db :=
  .createTicketType _ _ _ _ (.createEvent _ _ _ _ (.sessions _ _
    ⟨by decide, by decide, by decide, by decide, by decide, by decide, by decide, by decide,
      by decide⟩))

/-- Alice logs in and reserves. -/
def aliceReserves : List Request :=
  [.account (.login "alice@example.com" "correct-horse" (some "t") 8 "u"),
    .reservation (some "t") (.reserveQuantity twoTickets (uuid4 100))]

/-- Bob logs in on her browser. -/
def bobFollows : List Request :=
  aliceReserves ++ [.account (.login "bob@example.com" "battery-staple" (some "t") 9 "w")]

/-- The reservation of Alice. -/
def alices : Reservation := ⟨100, 10, 7, some 1, .reserved, .quantity, "k", 900000005⟩

end Sample

/-- **The reservation of Alice is read by Bob.** -/
theorem reservation_changes_hands : Inventory Sample.site.db ∧
    Sample.alices ∈ (Sample.site.after Sample.app Sample.bobFollows).db.reservations ∧
    Sample.alices.userId = some 1 ∧ ∃ v a,
      ((Sample.site.after Sample.app Sample.bobFollows).serve Sample.app
        (.reservation (some "t") (.get Sample.alices.id))).1 = .reservation v (.ok a) ∧
      a.reservationId? = some Sample.alices.id ∧ v.userId = some 2 :=
  ⟨Sample.site_inventory, by decide, rfl, _, _, rfl, rfl, rfl⟩

/-- Before Bob logs in, only Alice confirms it. -/
theorem reservation_stays_with_alice : Respects Sample.app Sample.site Sample.aliceReserves
    (.reservation (some "t") (.confirm 100)) Sample.alices 1 :=
  reservation_stays_with_user Sample.site_inventory Sample.aliceReserves
    (.reservation (some "t") (.confirm 100)) (by decide) rfl

end TicketReservation
