/-
  Who is authenticated as whom (sessions/dependencies.py).

  `get_optional_user` and `get_current_user` read the session of the cookie and
  then the user that it refers to, in two statements; logins and logouts change
  the session in between.

  * `LogsIn`: a login of the run with the e-mail and the password of the user,
    for the session of the token;
  * `Authentic`: every link between a session and a user comes from such a
    login, or was there at the start, and every user that is not from the start
    comes from a registration;
  * `authenticated_run`: this holds in every run, and of every user that is
    authenticated for a cookie.
-/
import TicketReservation.Accounts.Register
import TicketReservation.Txn.Yields

namespace TicketReservation.Accounts

open Txn Relation

/-! ## The dependencies -/

def getOptionalSession (security : Security) : Option String → Tx (Option VisitorSession)
  | none => return none
  | some cookie => VisitorSessionService.getActive security cookie false

/-- `get_optional_user`, when the session is known. -/
def userOf : Option VisitorSession → Tx (Option User)
  | none => return none
  | some visitorSession =>
    match visitorSession.userId with
    | none => return none
    | some userId => getById userId

def getOptionalUser (security : Security) (cookie : Option String) : Tx (Option User) := do
  let visitorSession ← getOptionalSession security cookie
  userOf visitorSession

def getCurrentUser (security : Security) (cookie : Option String) : Tx User := do
  match ← getOptionalUser security cookie with
  | none => .raise .unauthorizedError
  | some user => return user

/-- A request to an endpoint of the accounts, or one that needs its user. -/
inductive Request where
  | endpoint (call : Call)
  | optionalUser (cookie : Option String)
  | currentUser (cookie : Option String)
  deriving DecidableEq, Repr

inductive Answer where
  | endpoint (response : Response)
  | user (user : Option User)
  deriving DecidableEq, Repr

def Request.prog (security : Security) (settings : Settings) : Request → Tx Answer
  | endpoint call => (call.endpoint security settings).map .endpoint
  | optionalUser cookie => (getOptionalUser security cookie).map .user
  | currentUser cookie => (getCurrentUser security cookie).map fun user => .user (some user)

/-! ## What is authentic -/

/-- **A login as this user**, for the session with this token: the e-mail is his (the schema
    normalises it, and the service again), his hash verifies the password, and the token was
    presented or is the fresh one. -/
def Request.LogsIn (security : Security) (user : User) (hash : String) : Request → Prop
  | endpoint (.login email password rawSessionToken _ freshToken) =>
    security.normalizeEmail (security.normalizeEmail email) = user.email ∧
      security.verifyPassword password user.passwordHash = true ∧
      (hash = security.hashSessionToken freshToken ∨
        ∃ token ∈ rawSessionToken, hash = security.hashSessionToken token)
  | _ => False

/-- The row that a registration inserts. -/
def Request.newUser (security : Security) : Request → Option User
  | endpoint call => (call.validated security).newUser security
  | _ => none

section
variable (security : Security) (d₀ : Tables) (requests : List Request)

/-- One of the requests has logged the user in, or the session was linked to him at the start. -/
def LoggedIn (user : User) (hash : String) : Prop :=
  (∃ s ∈ d₀.visitorSessions, s.anonymousTokenHash = hash ∧ s.userId = some user.id) ∨
    ∃ q ∈ requests, q.LogsIn security user hash

/-- One of the requests has registered the user, or he was there at the start. -/
def Registered (user : User) : Prop :=
  user ∈ d₀.users ∨ ∃ q ∈ requests, q.newUser security = some user

/-- The session with this token may be linked so. -/
def Linkable (userId : Option UUID) (hash : String) (d : Tables) : Prop :=
  ∀ x ∈ userId, ∃ u ∈ d.users, u.id = x ∧ LoggedIn security d₀ requests u hash

/-- **The links and the users are authentic.** -/
structure Authentic (d : Tables) : Prop where
  links : ∀ s ∈ d.visitorSessions, Linkable security d₀ requests s.userId s.anonymousTokenHash d
  users : ∀ u ∈ d.users, Registered security d₀ requests u

/-- The transactions that leave authentic tables. -/
abbrev authentic : Protocol Tables Lock := protocol.restrict (Authentic security d₀ requests)

/-- The commits that leave authentic tables. -/
abbrev authentically : Guard Tables Write Lock where
  stmt _ _ _ := True
  commit d σ := Written d σ ∧ Authentic security d₀ requests (σ.view d)

/-- What the program returns. -/
abbrev Trusted {α : Type} (p : Tx α) (R : α → Tables → Session → Prop) (d : Tables) (σ : Session) :
    Prop :=
  yields (authentic security d₀ requests) (authentically security d₀ requests) p R d σ

end

section
variable {security : Security} {settings : Settings} {d₀ d : Tables} {requests : List Request}
  {Λ : List Lock}

/-- A user stays. -/
theorem keeps_user (user : User) : protocol.Keeps Λ fun d => user ∈ d.users := by
  intro Λ' d d' _ _ hs hu
  cases Step.changes hs with
  | nothing | created | updated | time => exact hu
  | user row => exact List.mem_append_left _ hu

theorem Linkable.of_users {userId : Option UUID} {hash : String} {d d' : Tables}
    (h : Linkable security d₀ requests userId hash d) (hu : d.users ⊆ d'.users) :
    Linkable security d₀ requests userId hash d' := by
  intro x hx
  obtain ⟨u, hmem, hid, hl⟩ := h x hx
  exact ⟨u, hu hmem, hid, hl⟩

theorem keeps_linkable (userId : Option UUID) (hash : String) :
    protocol.Keeps Λ (Linkable security d₀ requests userId hash) := by
  intro Λ' d d' hi hd hs hl
  exact hl.of_users fun u hu => keeps_user u hi hd hs hu

namespace Authentic

theorem start (hfk : ∀ s ∈ d₀.visitorSessions, d₀.HasUser s.userId) :
    Authentic security d₀ requests d₀ where
  links s hs x hx := by
    obtain ⟨u, hu, rfl⟩ := hfk s hs x hx
    exact ⟨u, hu, rfl, Or.inl ⟨s, hs, rfl, hx⟩⟩
  users u hu := Or.inl hu

/-- A registration. -/
theorem insertUser (h : Authentic security d₀ requests d) {row : User}
    (hrow : Registered security d₀ requests row) :
    Authentic security d₀ requests (d.apply (.insertUser row)) where
  links s hs := (h.links s hs).of_users (List.subset_append_left _ _)
  users := List.forall_mem_append.2 ⟨h.users, by simpa using hrow⟩

/-- A new session. -/
theorem insertVisitorSession (h : Authentic security d₀ requests d) {row : VisitorSession}
    (hrow : Linkable security d₀ requests row.userId row.anonymousTokenHash d) :
    Authentic security d₀ requests (d.apply (.insertVisitorSession row)) where
  links := List.forall_mem_append.2 ⟨h.links, List.forall_mem_singleton.2 hrow⟩
  users := h.users

/-- A session is linked to another user. -/
theorem update (h : Authentic security d₀ requests d) {id : UUID} {changes : SessionChanges}
    (hlink : ∀ x ∈ changes.userId, ∀ s ∈ d.visitorSessions, s.id = id →
      Linkable security d₀ requests x s.anonymousTokenHash d) :
    Authentic security d₀ requests (d.apply (.updateVisitorSession id changes)) where
  links s hs := by
    obtain ⟨s', hs', rfl⟩ := List.mem_map.1 hs
    have hold := h.links s' hs'
    show Linkable security d₀ requests _ _ d
    split_ifs with hid
    · cases hc : changes.userId with
      | none => simpa [SessionChanges.on, hc] using hold
      | some x => simpa [SessionChanges.on, hc] using hlink x hc s' hs' hid
    · exact hold
  users := h.users

end Authentic

/-! ## What the programs return -/

variable {α β : Type} {K : Tables → Prop} {σ : Session}

/-- A statement that may fail. -/
theorem trusted_executeOrRaise {plan : Tables → Plan Write Lock (Except Error β)}
    {R : β → Tables → Session → Prop} (hK : (authentic security d₀ requests).Keeps σ.locks K)
    (h : ∀ d b, (authentic security d₀ requests).inv d → K d →
      (plan (σ.view d)).result = .ok b → R b d
        ⟨σ.writes ++ (plan (σ.view d)).writes, σ.locks ++ (plan (σ.view d)).takes⟩)
    (hi : (authentic security d₀ requests).inv d) (hk : K d) :
    Trusted security d₀ requests (executeOrRaise plan) R d σ := by
  refine yields_bind (yields_ofPlan hK (fun d hi hk => ⟨trivial, ?_⟩) hi hk)
  cases hr : (plan (σ.view d)).result with
  | ok b => exact yields_ret (h d b hi hk hr)
  | error e => exact yields_raise

/-- A query for at most one row. -/
theorem trusted_row {rows : Tables → List α} {R : Option α → Tables → Session → Prop}
    (hK : (authentic security d₀ requests).Keeps [] K)
    (h : ∀ d o, (authentic security d₀ requests).inv d → K d →
      scalarOneOrNone (rows d) = .ok o → R o d ∅)
    (hi : (authentic security d₀ requests).inv d) (hk : K d) :
    Trusted security d₀ requests (executeOrRaise fun d => { result := scalarOneOrNone (rows d) }) R
      d ∅ :=
  trusted_executeOrRaise hK h hi hk

theorem trusted_utcNow {R : Instant → Tables → Session → Prop}
    (hK : (authentic security d₀ requests).Keeps [] K)
    (h : ∀ d, (authentic security d₀ requests).inv d → K d → R d.clock d ∅)
    (hi : (authentic security d₀ requests).inv d) (hk : K d) :
    Trusted security d₀ requests utcNow R d ∅ :=
  yields_ofPlan hK (fun d hi hk => ⟨trivial, h d hi hk⟩) hi hk

theorem trusted_rollback {R : Unit → Tables → Session → Prop}
    (hK : (authentic security d₀ requests).Keeps [] K)
    (h : ∀ d, (authentic security d₀ requests).inv d → K d → R () d ∅)
    (hi : (authentic security d₀ requests).inv d) (hk : K d) :
    Trusted security d₀ requests Prog.rollback R d σ :=
  yields_rollback hK (fun _ => trivial) h hi hk

theorem trusted_commit {R : Unit → Tables → Session → Prop}
    (hK : (authentic security d₀ requests).Keeps σ.locks K)
    (hc : ∀ d, (authentic security d₀ requests).inv d → K d →
      Written d σ ∧ Authentic security d₀ requests (σ.view d))
    (h : ∀ d, (authentic security d₀ requests).inv d → R () d ∅)
    (hi : (authentic security d₀ requests).inv d) (hk : K d) :
    Trusted security d₀ requests Prog.commitTx R d σ := by
  refine yields_commitTx hK (fun d hi hk => ⟨hc d hi hk, h _ ?_⟩) hi hk
  obtain ⟨hw, ha⟩ := hc d hi hk
  exact ⟨protocol.inv_step (Λ := σ.locks) hi.1 ⟨σ.writes, hw, rfl⟩, ha⟩

theorem trusted_refreshVisitorSession (id : UUID) {R : VisitorSession → Tables → Session → Prop}
    (h : ∀ d s, (authentic security d₀ requests).inv d → R s d ∅)
    (hi : (authentic security d₀ requests).inv d) :
    Trusted security d₀ requests (refreshVisitorSession id) R d ∅ := by
  refine yields_bind (trusted_row .const (fun d o hi _ _ => ?_) hi trivial)
  cases o with
  | none => exact yields_raise
  | some s => exact yields_ret (h d s hi)

/-- **A new session** for a user that has logged in, or for none. -/
theorem trusted_create {userId : Option UUID} {rawToken : String} (uuid4 : UUID)
    {R : CreatedVisitorSession → Tables → Session → Prop}
    (h : ∀ d s, (authentic security d₀ requests).inv d → R ⟨s, rawToken⟩ d ∅)
    (hi : (authentic security d₀ requests).inv d)
    (hl : Linkable security d₀ requests userId (security.hashSessionToken rawToken) d) :
    Trusted security d₀ requests
      (VisitorSessionService.create security settings userId uuid4 rawToken) R d ∅ := by
  have hlink : ∀ Λ, (authentic security d₀ requests).Keeps Λ
      (Linkable security d₀ requests userId (security.hashSessionToken rawToken)) :=
    fun Λ => (keeps_linkable _ _).restrict _
  refine yields_bind (trusted_utcNow (hlink _) (fun d hi hl => ?_) hi hl)
  refine yields_bind (trusted_executeOrRaise (hlink _) (fun d' b hi hl hb => ?_) hi hl)
  split_ifs at hb ⊢ with hfits
  let row : VisitorSession := ⟨uuid4, userId, security.hashSessionToken rawToken, d.clock,
    settings.expiresAt d.clock⟩
  have hfresh : protocol.Keeps [.visitorSession uuid4,
      .tokenHash (security.hashSessionToken rawToken)] (Fresh row) :=
    keeps_fresh (by simp [row]) (by simp [row])
  replace hfresh := hfresh.restrict (Authentic security d₀ requests)
  refine yields_bind (trusted_commit (hfresh.and (hlink _)) (fun d'' hi hk => ?_)
    (fun d'' hi => ?_) hi ⟨hfits.1, hl⟩)
  · exact ⟨.created _ rfl (by simp) (by simp) hk.1, hi.2.insertVisitorSession hk.2⟩
  · exact yields_bind (trusted_refreshVisitorSession uuid4 (fun d s hi => yields_ret (h d s hi)) hi)

/-- **The flush of a loaded row and its commit**, if it may be linked so. -/
theorem trusted_flush_commit {loaded assigned : VisitorSession} {R : Unit → Tables → Session → Prop}
    (hK : (authentic security d₀ requests).Keeps [] K)
    (hlink : ∀ d, (authentic security d₀ requests).inv d → K d →
      ∀ x ∈ (changesOf loaded assigned).userId, ∀ s ∈ d.visitorSessions, s.id = loaded.id →
        Linkable security d₀ requests x s.anonymousTokenHash d)
    (h : ∀ d, (authentic security d₀ requests).inv d → R () d ∅)
    (hi : (authentic security d₀ requests).inv d) (hk : K d) :
    Trusted security d₀ requests ((flushVisitorSession loaded assigned).bind fun _ =>
      Prog.commitTx) R d ∅ := by
  refine yields_bind ?_
  unfold flushVisitorSession
  split_ifs with heq
  · exact yields_ret (trusted_commit hK (fun d hi _ => ⟨.nothing rfl, hi.2⟩) h hi hk)
  · refine trusted_executeOrRaise hK (fun d b hi hk hb => ?_) hi hk
    split_ifs at hb ⊢ with hrow huser
    refine trusted_commit (hK.mono (List.nil_subset _)) (fun d hi hk => ?_) h hi hk
    exact ⟨.updated _ _ rfl, hi.2.update (hlink d hi hk)⟩

/-! ## Sessions that were read -/

variable (security d₀ requests) in
/-- The session was read for this token: it keeps its token, and its link is authentic. -/
def Found (hash : String) (s : VisitorSession) (d : Tables) : Prop :=
  (∃ s' ∈ d.visitorSessions, s'.id = s.id ∧ s'.anonymousTokenHash = hash) ∧
    Linkable security d₀ requests s.userId hash d

theorem keeps_found (hash : String) (s : VisitorSession) :
    protocol.Keeps Λ (Found security d₀ requests hash s) :=
  (keeps_row s.id hash).and (keeps_linkable s.userId hash)

theorem found_of_row {hash : String} {o : Option VisitorSession}
    (ha : Authentic security d₀ requests d)
    (ho : scalarOneOrNone (d.visitorSessions.filter fun s => s.anonymousTokenHash = hash) = .ok o) :
    ∀ s ∈ o, Found security d₀ requests hash s d := by
  rintro s rfl
  have hmem := List.mem_filter.1 (scalarOneOrNone_eq_some.1 ho ▸ List.mem_singleton_self s)
  obtain rfl : s.anonymousTokenHash = hash := of_decide_eq_true hmem.2
  exact ⟨⟨s, hmem.1, rfl, rfl⟩, ha.links s hmem.1⟩

/-- **`get_active` without `touch`**, beside what the others keep. -/
theorem trusted_find (rawToken : String) {R : Option VisitorSession → Tables → Session → Prop}
    (hK : (authentic security d₀ requests).Keeps [] K)
    (h : ∀ d o, (authentic security d₀ requests).inv d → K d →
      (∀ s ∈ o, Found security d₀ requests (security.hashSessionToken rawToken) s d) → R o d ∅)
    (hi : (authentic security d₀ requests).inv d) (hk : K d) :
    Trusted security d₀ requests (VisitorSessionService.getActive security rawToken false) R d
      ∅ := by
  refine yields_bind (trusted_row hK (fun d o hi hk ho => ?_) hi hk)
  have hfound : (authentic security d₀ requests).Keeps [] fun d => ∀ s ∈ o,
      Found security d₀ requests (security.hashSessionToken rawToken) s d :=
    Protocol.Keeps.all fun s _ => (keeps_found _ s).restrict _
  refine yields_bind (trusted_utcNow (hK.and hfound) (fun d hi hk => ?_) hi
    ⟨hk, found_of_row hi.2 ho⟩)
  cases o with
  | none => exact yields_ret (h d none hi hk.1 (by simp))
  | some s =>
    simp only [Bool.false_eq_true, if_false]
    split_ifs with hexp
    · exact yields_ret (h d none hi hk.1 (by simp))
    · exact yields_ret (h d (some s) hi hk.1 hk.2)

/-- **`get_active` with `touch`** links nothing. -/
theorem trusted_touch (rawToken : String) {R : Option VisitorSession → Tables → Session → Prop}
    (h : ∀ d o, (authentic security d₀ requests).inv d → R o d ∅)
    (hi : (authentic security d₀ requests).inv d) :
    Trusted security d₀ requests (VisitorSessionService.getActive security rawToken true) R d
      ∅ := by
  refine yields_bind (trusted_row .const (fun d o hi _ _ => ?_) hi trivial)
  refine yields_bind (trusted_utcNow .const (fun d hi _ => ?_) hi trivial)
  cases o with
  | none => exact yields_ret (h d none hi)
  | some s =>
    simp only [if_true]
    split_ifs with hexp
    · exact yields_ret (h d none hi)
    · rw [Prog.bind_eq, Prog.bind_eq, ← Prog.bind_assoc]
      refine yields_bind (trusted_flush_commit .const (fun d _ _ x hx => ?_) (fun d hi => ?_) hi
        trivial)
      · simp [changesOf, touched] at hx
      · exact yields_bind (trusted_refreshVisitorSession s.id
          (fun d s hi => yields_ret (h d (some s) hi)) hi)

/-- `link_user` sets the user, if it sets one. -/
theorem userId_of_linked {s : VisitorSession} {userId : UUID} {seenAt expiresAt : Instant}
    {x : Option UUID} (hx : x ∈ (changesOf s (linked s userId seenAt expiresAt)).userId) :
    x = some userId := by
  dsimp only [changesOf, linked] at hx
  split_ifs at hx with heq
  · cases hx
  · exact (Option.some.inj hx).symm

/-- `invalidate` sets none. -/
theorem userId_of_invalidated {s : VisitorSession} {invalidatedAt : Instant} {x : Option UUID}
    (hx : x ∈ (changesOf s (invalidated s invalidatedAt)).userId) : x = none := by
  dsimp only [changesOf, invalidated] at hx
  split_ifs at hx with heq
  · cases hx
  · exact (Option.some.inj hx).symm

/-- The session of the token that a login presents. -/
theorem trusted_presented (rawSessionToken : Option String)
    {R : Option (VisitorSession × String) → Tables → Session → Prop}
    (hK : (authentic security d₀ requests).Keeps [] K)
    (h : ∀ d o, (authentic security d₀ requests).inv d → K d →
      (∀ p ∈ o, p.2 ∈ rawSessionToken ∧
        Found security d₀ requests (security.hashSessionToken p.2) p.1 d) → R o d ∅)
    (hi : (authentic security d₀ requests).inv d) (hk : K d) :
    Trusted security d₀ requests (AuthService.presented security rawSessionToken) R d ∅ := by
  cases rawSessionToken with
  | none => exact yields_ret (h d none hi hk (by simp))
  | some token =>
    refine yields_bind (trusted_find token hK (fun d o hi hk ho => yields_ret (h d _ hi hk ?_)) hi
      hk)
    intro p hp
    obtain ⟨s, hs, rfl⟩ := Option.map_eq_some_iff.1 hp
    exact ⟨rfl, ho s hs⟩

/-! ## The services -/

/-- A row with the id of a user is this user. -/
theorem eq_of_row {user u : User} (hu : user ∈ d.users)
    (ho : scalarOneOrNone (d.users.filter fun u => u.id = user.id) = .ok (some u)) : u = user := by
  have hmem : user ∈ d.users.filter fun u => u.id = user.id := List.mem_filter.2 ⟨hu, by simp⟩
  rw [scalarOneOrNone_eq_some.1 ho] at hmem
  exact (List.mem_singleton.1 hmem).symm

/-- **When the password was right**, the session is linked to the user, or a new one is. -/
theorem trusted_linkOrCreate {user : User} {rawSessionToken : Option String} {freshToken : String}
    (uuid4 : UUID) {o : Option (VisitorSession × String)}
    (hlog : ∀ token, token = freshToken ∨ token ∈ rawSessionToken →
      LoggedIn security d₀ requests user (security.hashSessionToken token))
    (hi : (authentic security d₀ requests).inv d) (hu : user ∈ d.users)
    (ho : ∀ p ∈ o, p.2 ∈ rawSessionToken ∧
      Found security d₀ requests (security.hashSessionToken p.2) p.1 d) :
    Trusted security d₀ requests
      (AuthService.linkOrCreate security settings user uuid4 freshToken o)
      (fun result _ _ => result.user = user ∧ (result.rawSessionToken = freshToken ∨
        result.rawSessionToken ∈ rawSessionToken)) d ∅ := by
  cases o with
  | none =>
    refine yields_bind (trusted_create uuid4 (fun d s _ => yields_ret ⟨rfl, Or.inl rfl⟩) hi ?_)
    rintro _ ⟨⟩
    exact ⟨user, hu, rfl, hlog freshToken (Or.inl rfl)⟩
  | some presented =>
    obtain ⟨s, token⟩ := presented
    obtain ⟨htoken, hrow, -⟩ := ho _ rfl
    have hkept : (authentic security d₀ requests).Keeps [] fun d => user ∈ d.users ∧
        ∃ s' ∈ d.visitorSessions, s'.id = s.id ∧
          s'.anonymousTokenHash = security.hashSessionToken token :=
      ((keeps_user user).and (keeps_row s.id _)).restrict _
    refine yields_bind (yields_bind (trusted_utcNow hkept (fun d hi hk => ?_) hi ⟨hu, hrow⟩))
    rw [Prog.bind_eq, Prog.bind_eq, ← Prog.bind_assoc]
    refine yields_bind (trusted_flush_commit hkept (fun d hi hk x hx s' hs' hid => ?_)
      (fun d hi => ?_) hi hk)
    · -- the row with this id still has the token that was presented
      obtain ⟨hu, s₁, hs₁, hid₁, hhash⟩ := hk
      obtain rfl := Table.eq_of_key hi.1.ids hs' hs₁ (hid.trans hid₁.symm)
      obtain rfl := userId_of_linked hx
      rintro _ ⟨⟩
      exact ⟨user, hu, rfl, hhash ▸ hlog token (Or.inr htoken)⟩
    · exact trusted_refreshVisitorSession s.id
        (fun d s _ => yields_ret ⟨rfl, Or.inr htoken⟩) hi

/-- **A login** returns a registered user whose e-mail it names and whose hash verifies its
    password. -/
theorem trusted_login {email password : String} {rawSessionToken : Option String}
    {freshToken : String} (uuid4 : UUID)
    (hlog : ∀ user token, security.normalizeEmail email = user.email →
      security.verifyPassword password user.passwordHash = true →
      token = freshToken ∨ token ∈ rawSessionToken →
      LoggedIn security d₀ requests user (security.hashSessionToken token))
    (hi : (authentic security d₀ requests).inv d) :
    Trusted security d₀ requests
      (AuthService.login security settings email password rawSessionToken uuid4 freshToken)
      (fun result _ _ => Registered security d₀ requests result.user ∧
        security.normalizeEmail email = result.user.email ∧
        security.verifyPassword password result.user.passwordHash = true ∧
        (result.rawSessionToken = freshToken ∨ result.rawSessionToken ∈ rawSessionToken)) d ∅ := by
  refine yields_bind (trusted_row .const (fun d o hi _ ho => ?_) hi trivial)
  cases o with
  | none => exact yields_bind (trusted_rollback .const (fun _ _ _ => yields_raise) hi trivial)
  | some found =>
    have hmem := List.mem_filter.1 (scalarOneOrNone_eq_some.1 ho ▸ List.mem_singleton_self found)
    have hemail : security.normalizeEmail email = found.email := (of_decide_eq_true hmem.2).symm
    have hkept : (authentic security d₀ requests).Keeps [] fun d => found ∈ d.users :=
      (keeps_user found).restrict _
    refine yields_bind (trusted_rollback hkept (fun d hi hu => ?_) hi hmem.1)
    split_ifs with hverify
    · exact yields_raise
    · have hpass : security.verifyPassword password found.passwordHash = true := by
        simpa using hverify
      refine yields_bind (trusted_row hkept (fun d o hi hu ho => ?_) hi hu)
      cases o with
      | none => exact yields_bind (trusted_rollback .const (fun _ _ _ => yields_raise) hi trivial)
      | some user =>
        obtain rfl := eq_of_row hu ho
        have hreg := hi.2.users user hu
        refine yields_bind (trusted_presented rawSessionToken hkept (fun d o hi hu ho => ?_) hi hu)
        refine yields_mono (trusted_linkOrCreate uuid4 (fun token => hlog user token hemail hpass)
          hi hu ho) ?_
        rintro result d σ ⟨rfl, htoken⟩
        exact ⟨hreg, hemail, hpass, htoken⟩

/-- **A registration** inserts its row only. -/
theorem trusted_register {email password salt : String} {uuid4 : UUID}
    (hreg : Registered security d₀ requests
      ⟨uuid4, security.normalizeEmail email, security.hashPassword password salt⟩)
    (hi : (authentic security d₀ requests).inv d) :
    Trusted security d₀ requests (AuthService.register security email password salt uuid4)
      (fun _ _ _ => True) d ∅ := by
  refine yields_bind (trusted_row .const (fun d o hi _ _ => ?_) hi trivial)
  cases o with
  | some _ => exact yields_bind (trusted_rollback .const (fun _ _ _ => yields_raise) hi trivial)
  | none =>
    refine yields_bind (yields_mono (yields_tryCatch (R := fun _ d σ =>
      (authentic security d₀ requests).inv d ∧ σ = ∅) ?_ fun e d σ => ?_) ?_)
    · refine yields_bind (trusted_executeOrRaise .const (fun d b hi _ hb => ?_) hi trivial)
      split_ifs at hb ⊢ with hfits
      exact trusted_commit .const (fun d hi _ => ⟨.user _ rfl, hi.2.insertUser hreg⟩)
        (fun d hi => ⟨hi, rfl⟩) hi trivial
    · split_ifs
      · exact fun d' _ => ⟨trivial, fun _ _ => yields_raise⟩
      · exact yields_raise
    · rintro _ d σ ⟨hi, rfl⟩
      refine yields_bind (trusted_row .const (fun d o hi _ _ => ?_) hi trivial)
      cases o with
      | none => exact yields_raise
      | some u => exact yields_ret trivial

theorem trusted_logout (cookie : Option String) (hi : (authentic security d₀ requests).inv d) :
    Trusted security d₀ requests (logout security cookie) (fun _ _ _ => True) d ∅ := by
  cases cookie with
  | none => exact yields_ret trivial
  | some token =>
    refine yields_bind (trusted_row .const (fun d o hi _ _ => ?_) hi trivial)
    cases o with
    | none => exact yields_ret trivial
    | some s =>
      refine yields_bind (trusted_utcNow .const (fun d hi _ => ?_) hi trivial)
      refine trusted_flush_commit .const (fun d _ _ x hx s' _ _ => ?_) (fun _ _ => trivial) hi
        trivial
      obtain rfl := userId_of_invalidated hx
      rintro _ ⟨⟩

theorem trusted_optionalSession (cookie : Option String)
    {R : Option VisitorSession → Tables → Session → Prop}
    (h : ∀ d o, (authentic security d₀ requests).inv d → (∀ s ∈ o, ∃ token ∈ cookie,
      Found security d₀ requests (security.hashSessionToken token) s d) → R o d ∅)
    (hi : (authentic security d₀ requests).inv d) :
    Trusted security d₀ requests (getOptionalSession security cookie) R d ∅ := by
  cases cookie with
  | none => exact yields_ret (h d none hi (by simp))
  | some token =>
    exact trusted_find token .const (fun d o hi _ ho => h d o hi fun s hs =>
      ⟨token, rfl, ho s hs⟩) hi trivial

/-- **The user of a cookie** is one that is logged in for it. -/
theorem trusted_optionalUser (cookie : Option String)
    (hi : (authentic security d₀ requests).inv d) :
    Trusted security d₀ requests (getOptionalUser security cookie)
      (fun o _ _ => ∀ u ∈ o, Registered security d₀ requests u ∧ ∃ token ∈ cookie,
        LoggedIn security d₀ requests u (security.hashSessionToken token)) d ∅ := by
  refine yields_bind (trusted_optionalSession cookie (fun d o hi ho => ?_) hi)
  cases o with
  | none => exact yields_ret (by simp)
  | some s =>
    obtain ⟨token, htoken, -, hlink⟩ := ho s rfl
    cases hs : s.userId with
    | none =>
      simp only [userOf, hs]
      exact yields_ret (by simp)
    | some userId =>
      simp only [userOf, hs]
      obtain ⟨user, hu, rfl, hlog⟩ := hlink userId hs
      refine trusted_row ((keeps_user user).restrict _) (fun d o hi hu ho => ?_) hi hu
      rintro u rfl
      obtain rfl := eq_of_row hu ho
      exact ⟨hi.2.users u hu, token, htoken, hlog⟩

end

/-! ## Runs -/

/-- A configuration of the requests. -/
abbrev RequestConfig := Config Request Tables Write Lock Error Answer

/-- No request has arrived yet. -/
abbrev RequestConfig.start (d : Tables) : RequestConfig := ⟨d, []⟩

def Request.cookie : Request → Option String
  | endpoint _ => none
  | optionalUser cookie | currentUser cookie => cookie

/-- An answer that names a user does so rightly. -/
def Request.Rightly (security : Security) (d₀ : Tables) (requests : List Request) (q : Request) :
    Except Error Answer → Prop
  | .ok (.endpoint (.loggedIn result)) => Registered security d₀ requests result.user ∧
    q.LogsIn security result.user (security.hashSessionToken result.rawSessionToken)
  | .ok (.user (some user)) => Registered security d₀ requests user ∧ ∃ token ∈ q.cookie,
    LoggedIn security d₀ requests user (security.hashSessionToken token)
  | _ => True

section
variable {security : Security} {settings : Settings} {d₀ d : Tables} {requests : List Request}

/-- A request, by what its program returns. -/
theorem trusted_request {q : Request} {α : Type} {p : Tx α} {f : α → Answer}
    {R : α → Tables → Session → Prop} (h : Trusted security d₀ requests p R d ∅)
    (hR : ∀ a d σ, R a d σ → q.Rightly security d₀ requests (.ok (f a))) :
    always (authentic security d₀ requests) (authentically security d₀ requests)
      (p.map f) (fun r _ _ => q.Rightly security d₀ requests r) d ∅ := by
  refine always_bind (always_mono (fun r d σ hr => ?_) h)
  cases r with
  | error e => exact trivial
  | ok a => exact hR a d σ (hr a rfl)

/-- **Every endpoint** of the accounts. -/
theorem Call.trusted {c : Call} (hq : .endpoint c ∈ requests)
    (hi : (authentic security d₀ requests).inv d) :
    Trusted security d₀ requests (c.endpoint security settings) (fun response _ _ =>
      (Request.endpoint c).Rightly security d₀ requests (.ok (.endpoint response))) d ∅ := by
  cases c with
  | createAnonymous uuid4 rawToken =>
    refine yields_bind (trusted_create uuid4 (fun d s _ => yields_ret trivial) hi ?_)
    rintro _ ⟨⟩
  | register email password salt uuid4 =>
    exact yields_bind (yields_mono (trusted_register (Or.inr ⟨_, hq, rfl⟩) hi)
      fun _ _ _ _ => yields_ret trivial)
  | login email password rawSessionToken uuid4 freshToken =>
    -- what the service has checked makes this a login of the user
    have hlogs : ∀ (user : User) (token : String),
        security.normalizeEmail (security.normalizeEmail email) = user.email →
        security.verifyPassword password user.passwordHash = true →
        token = freshToken ∨ token ∈ rawSessionToken →
        (Request.endpoint (.login email password rawSessionToken uuid4 freshToken)).LogsIn security
          user (security.hashSessionToken token) := by
      rintro user token hemail hpass (rfl | htoken)
      · exact ⟨hemail, hpass, Or.inl rfl⟩
      · exact ⟨hemail, hpass, Or.inr ⟨token, htoken, rfl⟩⟩
    refine yields_bind (yields_mono (trusted_login uuid4 (fun user token hemail hpass htoken =>
      Or.inr ⟨_, hq, hlogs user token hemail hpass htoken⟩) hi) fun result _ _ h => ?_)
    obtain ⟨hreg, hemail, hpass, htoken⟩ := h
    exact yields_ret ⟨hreg, hlogs result.user result.rawSessionToken hemail hpass htoken⟩
  | logout cookie =>
    exact yields_bind (yields_mono (trusted_logout cookie hi) fun _ _ _ _ => yields_ret trivial)
  | getActive rawToken touch =>
    cases touch with
    | false => exact yields_bind (trusted_find rawToken .const
        (fun _ _ _ _ _ => yields_ret trivial) hi trivial)
    | true => exact yields_bind (trusted_touch rawToken (fun _ _ _ => yields_ret trivial) hi)
  | currentSession cookie =>
    cases cookie with
    | none => exact yields_raise
    | some token =>
      refine yields_bind (yields_bind (trusted_find token .const (fun d o _ _ _ => ?_) hi trivial))
      cases o with
      | none => exact yields_raise
      | some s => exact yields_ret (yields_ret trivial)
  | tick elapsed =>
    refine yields_bind (yields_ofPlan .const (fun d hi _ => ⟨trivial, ?_⟩) hi trivial)
    refine yields_bind (trusted_commit .const (fun d hi _ => ⟨.time elapsed rfl, ?_⟩)
      (fun _ _ => yields_ret trivial) hi trivial)
    exact ⟨hi.2.links, hi.2.users⟩

/-- **Every request of the run.** -/
theorem Request.trusted {q : Request} (hq : q ∈ requests)
    (hi : (authentic security d₀ requests).inv d) :
    always (authentic security d₀ requests) (authentically security d₀ requests)
      (q.prog security settings) (fun r _ _ => q.Rightly security d₀ requests r) d ∅ := by
  cases q with
  | endpoint c => exact trusted_request (Call.trusted hq hi) fun _ _ _ h => h
  | optionalUser cookie =>
    refine trusted_request (trusted_optionalUser cookie hi) fun o _ _ ho => ?_
    cases o with
    | none => exact trivial
    | some u => exact ho u rfl
  | currentUser cookie =>
    refine trusted_request (yields_bind (yields_mono (trusted_optionalUser cookie hi)
      fun o d σ ho => ?_)) fun u _ _ hu => hu
    cases o with
    | none => exact yields_raise
    | some u => exact yields_ret (ho u rfl)

/-- **Nobody is authenticated as a user without a login as this user**, whatever runs in between:
    in every run the links between sessions and users are authentic, and so is every answer that
    names a user. -/
theorem authenticated_run {cfg : RequestConfig} (h : Unique d₀)
    (hfk : ∀ s ∈ d₀.visitorSessions, d₀.HasUser s.userId)
    (r : Run (Request.prog security settings) (RequestConfig.start d₀) cfg) :
    Authentic security d₀ (cfg.threads.map Thread.call) cfg.db ∧
      ∀ t ∈ cfg.threads, ∀ r, t.status = .returned r →
        t.call.Rightly security d₀ (cfg.threads.map Thread.call) r := by
  have hg := always_run_calls (P := authentic security d₀ (cfg.threads.map Thread.call))
    (G := fun _ => authentically security d₀ _) ⟨h, .start hfk⟩
    (fun q hq d hi => Request.trusted hq hi)
    (fun _ d σ _ hc => .single ⟨⟨σ.writes, hc.1, rfl⟩, hc.2⟩) r
  refine ⟨hg.inv.2, fun t ht r hr => ?_⟩
  obtain ⟨i, hi, rfl⟩ := List.getElem_of_mem ht
  have ha := hg.thread i _ (List.getElem?_eq_getElem hi)
  rwa [hr] at ha

end

namespace Sample

/-- A login links the session of its token; a request reads the session, and has not yet read the
    user when a logout commits. -/
def watching : List (Action Request) :=
  .arrive (.endpoint (.login "alice@example.com" "correct-horse" (some "t") 8 "u")) ::
    List.replicate 9 (.step 0) ++ .arrive (.currentUser (some "t")) :: .step 1 :: .step 1 ::
    .arrive (.endpoint (.logout (some "t"))) :: List.replicate 5 (.step 2) ++ [.step 1, .step 1]

def watched : RequestConfig :=
  (RequestConfig.start tables).after (Request.prog security settings) watching

theorem watched_run :
    Run (Request.prog security settings) (RequestConfig.start tables) watched :=
  run_after (by decide)

end Sample

/-- The user that was read for the cookie had logged in, though he is logged out by now. -/
theorem authenticated_run_watched : ∃ t, Sample.watched.threads[1]? = some t ∧
    t.status = .returned (.ok (.user (some ⟨1, "alice@example.com", "encoded"⟩))) ∧
    t.call.Rightly Sample.security Sample.tables (Sample.watched.threads.map Thread.call)
      (.ok (.user (some ⟨1, "alice@example.com", "encoded"⟩))) :=
  have h := (authenticated_run Sample.unique_tables (by decide) Sample.watched_run).2
  ⟨_, rfl, rfl, h _ (List.mem_of_getElem? (show Sample.watched.threads[1]? = _ from rfl)) _ rfl⟩

end TicketReservation.Accounts
