/-
  Users and visitor sessions (users/service.py, sessions/service.py) as
  transaction programs over the tables `users` and `visitor_sessions`.

  The clock is part of the store: `datetime.now(UTC)` is a statement that reads
  it, and a call `tick` advances it, so that it never goes back.  A loaded row is
  an object of the ORM; a flush writes those of its columns whose values differ
  from the loaded ones, by primary key, and none if there are none.
  `VisitorSessionRepository` and `UserRepository` have no query with a lock.
-/
import TicketReservation.Model

namespace TicketReservation.Accounts

open Txn

/-! ## Tables -/

/-- The tables of the accounts, and the time. -/
@[ext] structure Tables where
  users : List User := []
  visitorSessions : List VisitorSession := []
  clock : Instant
  deriving DecidableEq, Repr

/-- The columns that an `UPDATE` of `visitor_sessions` sets. -/
structure SessionChanges where
  userId : Option (Option UUID)
  lastSeenAt : Option Instant
  expiresAt : Option Instant
  deriving DecidableEq, Repr

/-- The row after the `UPDATE`. -/
def SessionChanges.on (changes : SessionChanges) (row : VisitorSession) : VisitorSession :=
  { row with
    userId := changes.userId.getD row.userId
    lastSeenAt := changes.lastSeenAt.getD row.lastSeenAt
    expiresAt := changes.expiresAt.getD row.expiresAt }

/-- The columns of a loaded row that were assigned other values. -/
def changesOf (loaded assigned : VisitorSession) : SessionChanges where
  userId := if assigned.userId = loaded.userId then none else some assigned.userId
  lastSeenAt := if assigned.lastSeenAt = loaded.lastSeenAt then none else some assigned.lastSeenAt
  expiresAt := if assigned.expiresAt = loaded.expiresAt then none else some assigned.expiresAt

inductive Write where
  | insertUser (row : User)
  | insertVisitorSession (row : VisitorSession)
  | updateVisitorSession (id : UUID) (changes : SessionChanges)
  | tick (elapsed : ℕ)
  deriving DecidableEq, Repr

@[simp] def Tables.apply (d : Tables) : Write → Tables
  | .insertUser row => { d with users := d.users ++ [row] }
  | .insertVisitorSession row => { d with visitorSessions := d.visitorSessions ++ [row] }
  | .updateVisitorSession id changes =>
    { d with visitorSessions := d.visitorSessions.map fun s =>
        if s.id = id then changes.on s else s }
  | .tick elapsed => { d with clock := d.clock + elapsed }

instance : Txn.Store Tables Write := ⟨Tables.apply⟩

@[simp] theorem store_apply (d : Tables) (w : Write) : Txn.Store.apply d w = d.apply w := rfl

/-- Row locks, and the entries of the unique indexes on `users.email` and
    `visitor_sessions.anonymous_token_hash`. -/
inductive Lock where
  | user (id : UUID)
  | email (email : String)
  | visitorSession (id : UUID)
  | tokenHash (hash : String)
  deriving DecidableEq, Repr

inductive Error where
  | integrityError
  | multipleResultsFound
  | staleDataError
  | invalidRequestError
  | emailAlreadyRegisteredError
  | invalidCredentialsError
  | unauthorizedError
  deriving DecidableEq, Repr

abbrev Session := Txn.Session Write Lock

abbrev Tx (α : Type) := Txn.Prog Tables Write Lock Error α

def execute {β : Type} (plan : Tables → Plan Write Lock β) : Tx β := Prog.exec (Stmt.ofPlan plan)

def executeOrRaise {β : Type} (plan : Tables → Plan Write Lock (Except Error β)) : Tx β := do
  match ← execute plan with
  | .ok b => return b
  | .error e => .raise e

/-- `datetime.now(UTC)`. -/
def utcNow : Tx Instant := execute fun d => { result := d.clock }

/-- `scalar_one_or_none()`. -/
def scalarOneOrNone {α : Type} : List α → Except Error (Option α)
  | [] => .ok none
  | [row] => .ok (some row)
  | _ => .error .multipleResultsFound

/-! ## `UserRepository` -/

def getByEmail (email : String) : Tx (Option User) :=
  executeOrRaise fun d => { result := scalarOneOrNone (d.users.filter fun u => u.email = email) }

def getById (userId : UUID) : Tx (Option User) :=
  executeOrRaise fun d => { result := scalarOneOrNone (d.users.filter fun u => u.id = userId) }

/-- The `INSERT` of a flush. -/
def insertUser (row : User) : Tx Unit :=
  executeOrRaise fun d =>
    if ∀ u ∈ d.users, u.id ≠ row.id ∧ u.email ≠ row.email then
      { result := .ok (), takes := [.user row.id, .email row.email], writes := [.insertUser row] }
    else { result := .error .integrityError }

def refreshUser (userId : UUID) : Tx User := do
  match ← getById userId with
  | some user => return user
  | none => .raise .invalidRequestError

/-! ## `VisitorSessionRepository` -/

def getByTokenHash (tokenHash : String) : Tx (Option VisitorSession) :=
  executeOrRaise fun d =>
    { result := scalarOneOrNone (d.visitorSessions.filter fun s => s.anonymousTokenHash = tokenHash) }

def touched (visitorSession : VisitorSession) (seenAt : Instant) : VisitorSession :=
  { visitorSession with lastSeenAt := seenAt }

def linked (visitorSession : VisitorSession) (userId : UUID) (seenAt expiresAt : Instant) :
    VisitorSession :=
  { visitorSession with userId := some userId, lastSeenAt := seenAt, expiresAt := expiresAt }

def invalidated (visitorSession : VisitorSession) (invalidatedAt : Instant) : VisitorSession :=
  { visitorSession with userId := none, lastSeenAt := invalidatedAt, expiresAt := invalidatedAt }

/-- The user that a row refers to exists. -/
abbrev Tables.HasUser (d : Tables) (userId : Option UUID) : Prop :=
  ∀ x ∈ userId, ∃ u ∈ d.users, u.id = x

/-- The `INSERT` of a flush. -/
def insertVisitorSession (row : VisitorSession) : Tx Unit :=
  executeOrRaise fun d =>
    if (∀ s ∈ d.visitorSessions, s.id ≠ row.id ∧ s.anonymousTokenHash ≠ row.anonymousTokenHash) ∧
        d.HasUser row.userId then
      { result := .ok (), takes := [.visitorSession row.id, .tokenHash row.anonymousTokenHash],
        writes := [.insertVisitorSession row] }
    else { result := .error .integrityError }

/-- The `UPDATE` of a flush, if a column has changed. -/
def flushVisitorSession (loaded assigned : VisitorSession) : Tx Unit :=
  if assigned = loaded then return ()
  else executeOrRaise fun d =>
    if ¬ ∃ s ∈ d.visitorSessions, s.id = loaded.id then { result := .error .staleDataError }
    else if ¬ ∀ x ∈ (changesOf loaded assigned).userId, d.HasUser x then
      { result := .error .integrityError }
    else
      { result := .ok (), takes := [.visitorSession loaded.id],
        writes := [.updateVisitorSession loaded.id (changesOf loaded assigned)] }

def refreshVisitorSession (id : UUID) : Tx VisitorSession := do
  let row ← executeOrRaise fun d =>
    { result := scalarOneOrNone (d.visitorSessions.filter fun s => s.id = id) }
  match row with
  | some visitorSession => return visitorSession
  | none => .raise .invalidRequestError

/-! ## The services -/

/-- The functions of core/security.py and the normal form of an email. -/
structure Security where
  hashSessionToken : String → String
  /-- the second argument is the salt -/
  hashPassword : String → String → String
  verifyPassword : String → String → Bool
  /-- `email.strip().lower()` -/
  normalizeEmail : String → String

structure Settings where
  visitorSessionTtlSeconds : ℤ
  deriving DecidableEq, Repr

/-- `now + timedelta(seconds=visitor_session_ttl_seconds)`. -/
def Settings.expiresAt (settings : Settings) (now : Instant) : Instant :=
  now + settings.visitorSessionTtlSeconds * 1000000

structure CreatedVisitorSession where
  visitorSession : VisitorSession
  rawToken : String
  deriving DecidableEq, Repr

structure LoginResult where
  user : User
  visitorSession : VisitorSession
  rawSessionToken : String
  deriving DecidableEq, Repr

namespace VisitorSessionService

/-- `uuid4` and `rawToken` are drawn by the call. -/
def create (security : Security) (settings : Settings) (userId : Option UUID) (uuid4 : UUID)
    (rawToken : String) : Tx CreatedVisitorSession := do
  let now ← utcNow
  insertVisitorSession ⟨uuid4, userId, security.hashSessionToken rawToken, now, settings.expiresAt now⟩
  Prog.commitTx
  let visitorSession ← refreshVisitorSession uuid4
  return ⟨visitorSession, rawToken⟩

/-- `get_active` when it has read the row. -/
def activeOf (touch : Bool) (visitorSession : Option VisitorSession) : Tx (Option VisitorSession) := do
  let now ← utcNow
  match visitorSession with
  | none => return none
  | some visitorSession =>
    if visitorSession.expiresAt ≤ now then return none
    else if touch then do
      flushVisitorSession visitorSession (touched visitorSession now)
      Prog.commitTx
      let visitorSession ← refreshVisitorSession visitorSession.id
      return some visitorSession
    else return some visitorSession

def getActive (security : Security) (rawToken : String) (touch : Bool) :
    Tx (Option VisitorSession) := do
  let visitorSession ← getByTokenHash (security.hashSessionToken rawToken)
  activeOf touch visitorSession

def linkUser (settings : Settings) (visitorSession : VisitorSession) (userId : UUID) :
    Tx VisitorSession := do
  let now ← utcNow
  flushVisitorSession visitorSession (linked visitorSession userId now (settings.expiresAt now))
  Prog.commitTx
  refreshVisitorSession visitorSession.id

def invalidate (security : Security) (rawToken : String) : Tx Unit := do
  match ← getByTokenHash (security.hashSessionToken rawToken) with
  | none => return ()
  | some visitorSession =>
    let now ← utcNow
    flushVisitorSession visitorSession (invalidated visitorSession now)
    Prog.commitTx

end VisitorSessionService

namespace AuthService

open VisitorSessionService

def register (security : Security) (email password salt : String) (uuid4 : UUID) : Tx User := do
  let normalizedEmail := security.normalizeEmail email
  match ← getByEmail normalizedEmail with
  | some _ =>
    Prog.rollback
    .raise .emailAlreadyRegisteredError
  | none =>
    Prog.tryCatch (do
        insertUser ⟨uuid4, normalizedEmail, security.hashPassword password salt⟩
        Prog.commitTx)
      fun e =>
        if e = .integrityError then do
          Prog.rollback
          .raise .emailAlreadyRegisteredError
        else .raise e
    refreshUser uuid4

/-- `login` when the session of the presented token is known. -/
def linkOrCreate (security : Security) (settings : Settings) (user : User) (uuid4 : UUID)
    (freshToken : String) : Option (VisitorSession × String) → Tx LoginResult
  | none => do
    let created ← create security settings (some user.id) uuid4 freshToken
    return ⟨user, created.visitorSession, created.rawToken⟩
  | some (visitorSession, rawSessionToken) => do
    let visitorSession ← linkUser settings visitorSession user.id
    return ⟨user, visitorSession, rawSessionToken⟩

/-- The session of the token that the request presents, if it is active. -/
def presented (security : Security) : Option String → Tx (Option (VisitorSession × String))
  | none => return none
  | some rawSessionToken => do
    let visitorSession ← getActive security rawSessionToken false
    return visitorSession.map fun s => (s, rawSessionToken)

def login (security : Security) (settings : Settings) (email password : String)
    (rawSessionToken : Option String) (uuid4 : UUID) (freshToken : String) : Tx LoginResult := do
  match ← getByEmail (security.normalizeEmail email) with
  | none =>
    Prog.rollback
    .raise .invalidCredentialsError
  | some found =>
    Prog.rollback
    if !security.verifyPassword password found.passwordHash then .raise .invalidCredentialsError
    else do
      match ← getById found.id with
      | none =>
        Prog.rollback
        .raise .invalidCredentialsError
      | some user =>
        let visitorSession ← presented security rawSessionToken
        linkOrCreate security settings user uuid4 freshToken visitorSession

end AuthService

/-! ## Calls -/

/-- `get_current_session` (sessions/dependencies.py). -/
def getCurrentSession (security : Security) : Option String → Tx VisitorSession
  | none => .raise .unauthorizedError
  | some cookie => do
    match ← VisitorSessionService.getActive security cookie false with
    | none => .raise .unauthorizedError
    | some visitorSession => return visitorSession

/-- The endpoint `/v1/auth/logout`. -/
def logout (security : Security) : Option String → Tx Unit
  | none => return ()
  | some cookie => VisitorSessionService.invalidate security cookie

/-- A request; `tick` is the passing of time. -/
inductive Call where
  | createAnonymous (uuid4 : UUID) (rawToken : String)
  | register (email password salt : String) (uuid4 : UUID)
  | login (email password : String) (rawSessionToken : Option String) (uuid4 : UUID)
      (freshToken : String)
  | logout (cookie : Option String)
  | getActive (rawToken : String) (touch : Bool)
  | currentSession (cookie : Option String)
  | tick (elapsed : ℕ)
  deriving DecidableEq, Repr

inductive Response where
  | created (session : CreatedVisitorSession)
  | registered (user : User)
  | loggedIn (result : LoginResult)
  | active (session : Option VisitorSession)
  | current (session : VisitorSession)
  | done
  deriving DecidableEq, Repr

def Call.prog (security : Security) (settings : Settings) : Call → Tx Response
  | createAnonymous uuid4 rawToken =>
    (VisitorSessionService.create security settings none uuid4 rawToken).map .created
  | register email password salt uuid4 =>
    (AuthService.register security email password salt uuid4).map .registered
  | login email password rawSessionToken uuid4 freshToken =>
    (AuthService.login security settings email password rawSessionToken uuid4 freshToken).map .loggedIn
  | logout cookie => (Accounts.logout security cookie).map fun _ => .done
  | getActive rawToken touch =>
    (VisitorSessionService.getActive security rawToken touch).map .active
  | currentSession cookie => (getCurrentSession security cookie).map .current
  | tick elapsed => do
    execute fun _ => { result := (), writes := [.tick elapsed] }
    Prog.commitTx
    return .done

end TicketReservation.Accounts
