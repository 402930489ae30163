/-
  The account services with nothing else running.

  `Does`: what one call of the accounts, executed alone, does to the tables.
  Only a login changes the user of a session to another one, and only that of
  the active session whose token it presents (`Does.session`); a session whose
  `expires_at` has been reached stays as it is.

  `Call.does`: this is what the programs do.
-/
import TicketReservation.Accounts.Logout

namespace TicketReservation.Accounts

open Txn

/-- The constraints of the two tables. -/
structure Tables.Valid (t : Tables) : Prop where
  userIds : (t.users.map User.id).Nodup
  userEmails : (t.users.map User.email).Nodup
  ids : (t.visitorSessions.map VisitorSession.id).Nodup
  hashes : (t.visitorSessions.map VisitorSession.anonymousTokenHash).Nodup
  hasUser : ∀ s ∈ t.visitorSessions, t.HasUser s.userId

/-- The active session with this token. -/
def Tables.activeSession (security : Security) (rawToken : String) (t : Tables) :
    Option VisitorSession :=
  (t.visitorSessions.find? fun s => s.anonymousTokenHash = security.hashSessionToken rawToken).filter
    fun s => t.clock < s.expiresAt

/-- The row with the id of `row` becomes `row`. -/
def Tables.setSession (t : Tables) (row : VisitorSession) : Tables :=
  { t with visitorSessions := t.visitorSessions.map fun s => if s.id = row.id then row else s }

/-- **What a call does alone.** -/
inductive Does (security : Security) (settings : Settings) (t : Tables) :
    Call → Except Error Response → Tables → Prop
  | nothing {c r} : Does security settings t c r t
  | registers {c r} (row : User) : (∀ u ∈ t.users, u.id ≠ row.id ∧ u.email ≠ row.email) →
      Does security settings t c r { t with users := t.users ++ [row] }
  | creates {c r} (row : VisitorSession) : Fresh row t → t.HasUser row.userId →
      Does security settings t c r { t with visitorSessions := t.visitorSessions ++ [row] }
  | touches {c r} (s : VisitorSession) : s ∈ t.visitorSessions →
      Does security settings t c r (t.setSession (touched s t.clock))
  | links {email password token : String} {uuid4 : UUID} {freshToken : String} (s : VisitorSession)
      (user : User) : t.activeSession security token = some s → user ∈ t.users →
      Does security settings t (.login email password (some token) uuid4 freshToken)
        (.ok (.loggedIn ⟨user, linked s user.id t.clock (settings.expiresAt t.clock), token⟩))
        (t.setSession (linked s user.id t.clock (settings.expiresAt t.clock)))
  | invalidates {c r} (s : VisitorSession) : s ∈ t.visitorSessions →
      Does security settings t c r (t.setSession (invalidated s t.clock))
  | ticks {c r} (elapsed : ℕ) : Does security settings t c r { t with clock := t.clock + elapsed }

section
variable {security : Security} {settings : Settings} {t t' : Tables} {s : VisitorSession}

theorem Tables.activeSession_eq_some (hv : t.Valid) {token : String} :
    t.activeSession security token = some s ↔ s ∈ t.visitorSessions ∧
      s.anonymousTokenHash = security.hashSessionToken token ∧ t.clock < s.expiresAt := by
  rw [activeSession, Option.filter_eq_some_iff, Table.find?_eq_some_iff hv.hashes
    (k := security.hashSessionToken token) (by simp)]
  simp [and_assoc]

theorem scalarOneOrNone_key {α κ : Type} [DecidableEq κ] {key : α → κ} {l : List α}
    (hn : (l.map key).Nodup) (k : κ) :
    scalarOneOrNone (l.filter fun a => key a = k) = .ok (l.find? fun a => key a = k) := by
  cases hf : l.find? fun a => key a = k with
  | none =>
    rw [List.filter_eq_nil_iff.2 (List.find?_eq_none.1 hf)]
    rfl
  | some a =>
    obtain ⟨ha, hk⟩ := (Table.find?_eq_some_iff hn (k := k) (by simp)).1 hf
    rw [Table.filter_unique hn (k := k) (by simp) ha hk]
    rfl

theorem Tables.mem_setSession (row : VisitorSession) (hs : s ∈ t.visitorSessions) (hid : row.id = s.id)
    {x : VisitorSession} : x ∈ (t.setSession row).visitorSessions ↔
      x = row ∨ x ∈ t.visitorSessions ∧ x.id ≠ s.id := by
  rw [setSession, List.mem_map]
  constructor
  · rintro ⟨r, hr, rfl⟩
    split_ifs with h
    · exact Or.inl rfl
    · exact Or.inr ⟨hr, hid ▸ h⟩
  · rintro (rfl | ⟨hx, hne⟩)
    · exact ⟨s, hs, if_pos hid.symm⟩
    · exact ⟨x, hx, if_neg (hid ▸ hne)⟩

theorem Tables.mem_setSession_self (row : VisitorSession) (hs : s ∈ t.visitorSessions)
    (hid : row.id = s.id) : row ∈ (t.setSession row).visitorSessions :=
  (Tables.mem_setSession row hs hid).2 (Or.inl rfl)

theorem Tables.Valid.setSession (hv : t.Valid) (row : VisitorSession) (hs : s ∈ t.visitorSessions)
    (hid : row.id = s.id) (hhash : row.anonymousTokenHash = s.anonymousTokenHash)
    (hu : t.HasUser row.userId) :
    (t.setSession row).Valid where
  userIds := hv.userIds
  userEmails := hv.userEmails
  ids := Table.nodup_map_key (fun r => by split_ifs with h <;> simp [h]) hv.ids
  hashes := by
    have : (t.setSession row).visitorSessions.map VisitorSession.anonymousTokenHash =
        t.visitorSessions.map VisitorSession.anonymousTokenHash := by
      rw [Tables.setSession, List.map_map]
      refine List.map_congr_left fun r hr => ?_
      simp only [Function.comp_apply]
      split_ifs with h
      · rw [Table.eq_of_key hv.ids hr hs (h.trans hid), hhash]
      · rfl
    rw [this]
    exact hv.hashes
  hasUser x hx := by
    rcases (Tables.mem_setSession row hs hid).1 hx with rfl | ⟨hx, -⟩
    · exact hu
    · exact hv.hasUser x hx

theorem Tables.Valid.insert (hv : t.Valid) {row : VisitorSession} (hf : Fresh row t)
    (hu : t.HasUser row.userId) :
    ({ t with visitorSessions := t.visitorSessions ++ [row] } : Tables).Valid where
  userIds := hv.userIds
  userEmails := hv.userEmails
  ids := (Unique.insert ⟨hv.ids, hv.hashes⟩ hf).ids
  hashes := (Unique.insert ⟨hv.ids, hv.hashes⟩ hf).hashes
  hasUser x hx := by
    rcases List.mem_append.1 hx with hx | hx
    · exact hv.hasUser x hx
    · exact List.mem_singleton.1 hx ▸ hu

theorem Tables.Valid.insertUser (hv : t.Valid) {user : User}
    (hf : ∀ u ∈ t.users, u.id ≠ user.id ∧ u.email ≠ user.email) :
    ({ t with users := t.users ++ [user] } : Tables).Valid where
  userIds := Table.nodup_append_key hv.userIds (List.nodup_singleton _) fun u hu v hv' => by
    rw [List.mem_singleton.1 hv']; exact (hf u hu).1
  userEmails := Table.nodup_append_key hv.userEmails (List.nodup_singleton _) fun u hu v hv' => by
    rw [List.mem_singleton.1 hv']; exact (hf u hu).2
  ids := hv.ids
  hashes := hv.hashes
  hasUser x hx u hu := by
    obtain ⟨y, hy, rfl⟩ := hv.hasUser x hx u hu
    exact ⟨y, List.mem_append_left _ hy, rfl⟩

/-! ## The statements -/

theorem run_executeOrRaise {β : Type} (plan : Tables → Plan Write Lock (Except Error β)) (t : Tables)
    (σ : Session) : (executeOrRaise plan).run t σ = ((plan (σ.view t)).result, t,
      ⟨σ.writes ++ (plan (σ.view t)).writes, σ.locks ++ (plan (σ.view t)).takes⟩) := by
  rw [executeOrRaise, Prog.bind_eq, execute, Prog.run_bind_ok (Prog.run_exec _ _ _)]
  simp only [Stmt.ofPlan]
  cases (plan (σ.view t)).result <;> rfl

theorem run_query {β : Type} (f : Tables → Except Error β) (t : Tables) :
    (executeOrRaise fun d => { result := f d }).run t ∅ = (f t, t, ∅) :=
  run_executeOrRaise _ t ∅

theorem run_utcNow (t : Tables) : utcNow.run t ∅ = (.ok t.clock, t, ∅) := rfl

theorem run_getByEmail (hv : t.Valid) (email : String) : (getByEmail email).run t ∅ =
    (.ok (t.users.find? fun u => u.email = email), t, ∅) := by
  rw [getByEmail, run_query, scalarOneOrNone_key hv.userEmails]

theorem run_getById (hv : t.Valid) (id : UUID) : (getById id).run t ∅ =
    (.ok (t.users.find? fun u => u.id = id), t, ∅) := by
  rw [getById, run_query, scalarOneOrNone_key hv.userIds]

theorem run_getByTokenHash (hv : t.Valid) (hash : String) : (getByTokenHash hash).run t ∅ =
    (.ok (t.visitorSessions.find? fun s => s.anonymousTokenHash = hash), t, ∅) := by
  rw [getByTokenHash, run_query, scalarOneOrNone_key hv.hashes]

theorem run_refreshVisitorSession (hv : t.Valid) (hs : s ∈ t.visitorSessions) {id : UUID}
    (hid : s.id = id) : (refreshVisitorSession id).run t ∅ = (.ok s, t, ∅) := by
  subst hid
  have hf : (t.visitorSessions.find? fun r => r.id = s.id) = some s :=
    (Table.find?_eq_some_iff hv.ids (k := s.id) (by simp)).2 ⟨hs, by simp⟩
  rw [refreshVisitorSession, Prog.bind_eq, Prog.run_bind, run_query, scalarOneOrNone_key hv.ids, hf]
  rfl

/-- The flush of a row that was loaded just now, and its commit. -/
theorem run_flush_commit (row : VisitorSession) (hs : s ∈ t.visitorSessions) (hn : t.Valid)
    (hid : row.id = s.id) (hhash : row.anonymousTokenHash = s.anonymousTokenHash)
    (hu : t.HasUser row.userId) :
    ((flushVisitorSession s row).bind fun _ => Prog.commitTx).run t ∅ =
      (.ok (), t.setSession row, ∅) := by
  have hon : ∀ r ∈ t.visitorSessions,
      (if r.id = s.id then (changesOf s row).on r else r) = if r.id = row.id then row else r := by
    intro r hr
    rw [hid]
    split_ifs with h
    · obtain rfl := Table.eq_of_key hn.ids hr hs h
      obtain ⟨id, userId, hash, seen, expires⟩ := row
      simp only at hid hhash
      subst hid hhash
      simp only [SessionChanges.on, changesOf, VisitorSession.mk.injEq, true_and]
      refine ⟨?_, ?_, ?_⟩ <;> split_ifs with heq <;> simp [heq]
    · rfl
  unfold flushVisitorSession
  split_ifs with heq
  · subst heq
    show (Except.ok (), t, _) = _
    have : t.setSession row = t := by
      refine Tables.ext rfl ?_ rfl
      refine (List.map_congr_left fun r hr => ?_).trans (List.map_id _)
      split_ifs with h
      · exact (Table.eq_of_key hn.ids hr hs h).symm
      · rfl
    rw [this]
  · rw [Prog.run_bind, run_executeOrRaise]
    have hrow : ∃ r ∈ t.visitorSessions, r.id = s.id := ⟨s, hs, rfl⟩
    have huser : ∀ x ∈ (changesOf s row).userId, t.HasUser x := by
      intro x hx
      simp only [changesOf, Option.mem_def, Option.ite_none_left_eq_some, Option.some.injEq] at hx
      exact hx.2 ▸ hu
    simp only [Session.view_empty, hrow, not_true_eq_false, if_false,
      eq_false (not_not.2 huser)]
    refine congrArg₂ Prod.mk rfl (congrArg₂ Prod.mk (Tables.ext rfl ?_ rfl) rfl)
    exact List.map_congr_left hon

/-! ## The services -/

theorem run_getActive (hv : t.Valid) (token : String) :
    (VisitorSessionService.getActive security token false).run t ∅ =
      (.ok (t.activeSession security token), t, ∅) := by
  rw [VisitorSessionService.getActive, Prog.bind_eq, Prog.run_bind, run_getByTokenHash hv,
    Tables.activeSession]
  dsimp only
  rw [VisitorSessionService.activeOf, Prog.bind_eq, Prog.run_bind, run_utcNow]
  cases t.visitorSessions.find? fun s =>
      s.anonymousTokenHash = security.hashSessionToken token with
  | none => rfl
  | some s =>
    simp only [Bool.false_eq_true, if_false]
    split_ifs with hexp
    · rw [Option.filter_some, if_neg (by simpa using hexp)]
      rfl
    · rw [Option.filter_some, if_pos (by simpa using hexp)]
      rfl

theorem run_getActive_touch (security : Security) (hv : t.Valid) (token : String) :
    ∃ r, (VisitorSessionService.getActive security token true).run t ∅ = (r, t, ∅) ∨
      ∃ s ∈ t.visitorSessions, (VisitorSessionService.getActive security token true).run t ∅ =
        (r, t.setSession (touched s t.clock), ∅) := by
  rw [VisitorSessionService.getActive, Prog.bind_eq, Prog.run_bind, run_getByTokenHash hv]
  dsimp only
  rw [VisitorSessionService.activeOf, Prog.bind_eq, Prog.run_bind, run_utcNow]
  cases hf : t.visitorSessions.find? fun s =>
      s.anonymousTokenHash = security.hashSessionToken token with
  | none => exact ⟨_, Or.inl rfl⟩
  | some s =>
    have hs := List.mem_of_find?_eq_some hf
    have hset := hv.setSession (touched s t.clock) hs rfl rfl (hv.hasUser s hs)
    simp only [if_true]
    split_ifs with hexp
    · exact ⟨_, Or.inl rfl⟩
    · refine ⟨.ok (some (touched s t.clock)), Or.inr ⟨s, hs, ?_⟩⟩
      have hrefresh := run_refreshVisitorSession hset
        (Tables.mem_setSession_self (touched s t.clock) hs rfl) (show _ = s.id from rfl)
      rw [Prog.bind_eq, Prog.bind_eq, ← Prog.bind_assoc, Prog.run_bind_ok
        (run_flush_commit (touched s t.clock) hs hv rfl rfl (hv.hasUser s hs)), Prog.bind_eq,
        Prog.run_bind_ok hrefresh]
      rfl

theorem run_create (security : Security) (settings : Settings) (hv : t.Valid) (userId : Option UUID)
    (uuid4 : UUID) (rawToken : String) :
    ∃ row : VisitorSession, row.userId = userId ∧ row.id = uuid4 ∧
      ((Fresh row t ∧ t.HasUser userId ∧
        (VisitorSessionService.create security settings userId uuid4 rawToken).run t ∅ =
          (.ok ⟨row, rawToken⟩, { t with visitorSessions := t.visitorSessions ++ [row] }, ∅)) ∨
      ∃ σ, (VisitorSessionService.create security settings userId uuid4 rawToken).run t ∅ =
        (.error .integrityError, t, σ)) := by
  refine ⟨⟨uuid4, userId, security.hashSessionToken rawToken, t.clock, settings.expiresAt t.clock⟩,
    rfl, rfl, ?_⟩
  rw [VisitorSessionService.create, Prog.bind_eq, Prog.run_bind, run_utcNow]
  dsimp only
  rw [insertVisitorSession, Prog.bind_eq, Prog.run_bind, run_executeOrRaise]
  by_cases hfits : (∀ s ∈ t.visitorSessions, s.id ≠ uuid4 ∧
      s.anonymousTokenHash ≠ security.hashSessionToken rawToken) ∧ t.HasUser userId
  · refine Or.inl ⟨hfits.1, hfits.2, ?_⟩
    have hset := hv.insert (show Fresh ⟨uuid4, userId, security.hashSessionToken rawToken, t.clock,
      settings.expiresAt t.clock⟩ t from hfits.1) hfits.2
    have hrefresh := run_refreshVisitorSession hset
      (List.mem_append_right _ (List.mem_singleton_self _)) (show _ = uuid4 from rfl)
    simp only [Session.view_empty, eq_true hfits, if_true]
    exact Prog.run_bind_ok hrefresh
  · simp only [Session.view_empty, eq_false hfits, if_false]
    exact Or.inr ⟨_, rfl⟩

theorem run_linkUser (hv : t.Valid) (hs : s ∈ t.visitorSessions) {userId : UUID}
    (hu : t.HasUser (some userId)) :
    (VisitorSessionService.linkUser settings s userId).run t ∅ =
      (.ok (linked s userId t.clock (settings.expiresAt t.clock)),
        t.setSession (linked s userId t.clock (settings.expiresAt t.clock)), ∅) := by
  have hset := hv.setSession (linked s userId t.clock (settings.expiresAt t.clock)) hs rfl
    rfl hu
  rw [VisitorSessionService.linkUser, Prog.bind_eq, Prog.run_bind, run_utcNow]
  dsimp only
  rw [Prog.bind_eq, Prog.bind_eq, ← Prog.bind_assoc, Prog.run_bind,
    run_flush_commit (linked s userId t.clock (settings.expiresAt t.clock)) hs hv rfl rfl hu]
  exact run_refreshVisitorSession hset
    (Tables.mem_setSession_self (linked s userId t.clock (settings.expiresAt t.clock)) hs rfl) rfl

/-- `get_current_session` returns the active session of the cookie. -/
theorem run_getCurrentSession (hv : t.Valid) (cookie : Option String) :
    (getCurrentSession security cookie).run t ∅ =
      (match cookie.bind fun token => t.activeSession security token with
        | none => .error .unauthorizedError
        | some s => .ok s, t, ∅) := by
  cases cookie with
  | none => rfl
  | some token =>
    rw [getCurrentSession, Prog.bind_eq, Prog.run_bind_ok (run_getActive hv token), Option.bind_some]
    cases t.activeSession security token <;> rfl

/-! ## The calls -/

/-- What the code of a call does, with its answer in another form. -/
theorem does_of_run {α : Type} {p : Tx α} {f : α → Response} {c : Call} {r : Except Error α}
    {σ : Session} (h : p.run t ∅ = (r, t', σ)) (hd : Does security settings t c (r.map f) t') :
    Does security settings t c ((p.map f).alone t).1 ((p.map f).alone t).2 := by
  have ha : p.alone t = (r, t') := by rw [Prog.alone, h]
  rw [Prog.alone_map ha]
  exact hd

theorem run_insertUser (row : User) :
    (∀ u ∈ t.users, u.id ≠ row.id ∧ u.email ≠ row.email) ∧ (insertUser row).run t ∅ =
      (.ok (), t, ⟨[.insertUser row], [.user row.id, .email row.email]⟩) ∨
    (insertUser row).run t ∅ = (.error .integrityError, t, ∅) := by
  rw [insertUser, run_executeOrRaise]
  by_cases hfit : ∀ u ∈ t.users, u.id ≠ row.id ∧ u.email ≠ row.email
  · refine Or.inl ⟨hfit, ?_⟩
    simp only [Session.view_empty, eq_true hfit, if_true]
    rfl
  · refine Or.inr ?_
    simp only [Session.view_empty, eq_false hfit, if_false]
    rfl

theorem run_refreshUser (hv : t.Valid) (userId : UUID) :
    ∃ r, (refreshUser userId).run t ∅ = (r, t, ∅) := by
  rw [refreshUser, Prog.bind_eq, Prog.run_bind_ok (run_getById hv userId)]
  cases t.users.find? fun u => u.id = userId <;> exact ⟨_, rfl⟩

theorem run_register (security : Security) (hv : t.Valid) (email password salt : String)
    (uuid4 : UUID) :
    ∃ r, (AuthService.register security email password salt uuid4).run t ∅ = (r, t, ∅) ∨
      ∃ row : User, (∀ u ∈ t.users, u.id ≠ row.id ∧ u.email ≠ row.email) ∧
        (AuthService.register security email password salt uuid4).run t ∅ =
          (r, { t with users := t.users ++ [row] }, ∅) := by
  rw [AuthService.register, Prog.bind_eq, Prog.run_bind_ok (run_getByEmail hv _)]
  cases t.users.find? fun u => u.email = security.normalizeEmail email with
  | some u => exact ⟨_, Or.inl rfl⟩
  | none =>
    dsimp only
    rw [Prog.bind_eq, Prog.run_bind, Prog.run_tryCatch, Prog.bind_eq, Prog.run_bind]
    rcases run_insertUser (t := t)
      ⟨uuid4, security.normalizeEmail email, security.hashPassword password salt⟩ with
      ⟨hfit, hins⟩ | hins
    · obtain ⟨r, hr⟩ := run_refreshUser (hv.insertUser hfit) uuid4
      rw [hins]
      exact ⟨r, Or.inr ⟨_, hfit, hr⟩⟩
    · rw [hins]
      exact ⟨_, Or.inl rfl⟩

/-- The session of the token that a login presents, if it is active. -/
def Tables.presented (security : Security) (rawSessionToken : Option String) (t : Tables) :
    Option (VisitorSession × String) :=
  rawSessionToken.bind fun token => (t.activeSession security token).map fun s => (s, token)

theorem run_presented (hv : t.Valid) (rawSessionToken : Option String) :
    (AuthService.presented security rawSessionToken).run t ∅ =
      (.ok (t.presented security rawSessionToken), t, ∅) := by
  cases rawSessionToken with
  | none => rfl
  | some token =>
    rw [AuthService.presented, Prog.bind_eq, Prog.run_bind_ok (run_getActive hv token)]
    rfl

/-- A login is refused, or it links or creates a session for a user. -/
theorem run_login (security : Security) (settings : Settings) (hv : t.Valid)
    (email password : String) (rawSessionToken : Option String) (uuid4 : UUID) (freshToken : String) :
    (AuthService.login security settings email password rawSessionToken uuid4 freshToken).run t ∅ =
        (.error .invalidCredentialsError, t, ∅) ∨
      ∃ user ∈ t.users,
        (AuthService.login security settings email password rawSessionToken uuid4 freshToken).run t ∅ =
          (AuthService.linkOrCreate security settings user uuid4 freshToken
            (t.presented security rawSessionToken)).run t ∅ := by
  rw [AuthService.login, Prog.bind_eq, Prog.run_bind_ok (run_getByEmail hv _)]
  cases hfound : t.users.find? fun u => u.email = security.normalizeEmail email with
  | none => exact Or.inl rfl
  | some found =>
    have hmem := List.mem_of_find?_eq_some hfound
    dsimp only
    rw [Prog.bind_eq, Prog.run_bind_ok (Prog.run_rollback _ _)]
    split_ifs with hpass
    · exact Or.inl rfl
    · have hget : (t.users.find? fun u => u.id = found.id) = some found :=
        (Table.find?_eq_some_iff hv.userIds (k := found.id) (by simp)).2 ⟨hmem, by simp⟩
      refine Or.inr ⟨found, hmem, ?_⟩
      rw [Prog.bind_eq, Prog.run_bind_ok (run_getById hv found.id), hget]
      dsimp only
      rw [Prog.bind_eq, Prog.run_bind_ok (run_presented hv rawSessionToken)]

theorem does_login (hv : t.Valid) (email password : String) (rawSessionToken : Option String)
    (uuid4 : UUID) (freshToken : String) {c : Call} {p : Tx Response}
    (hc : c = .login email password rawSessionToken uuid4 freshToken)
    (hp : p = c.prog security settings) :
    Does security settings t c (p.alone t).1 (p.alone t).2 := by
  subst hc hp
  rcases run_login security settings hv email password rawSessionToken uuid4 freshToken with
    h | ⟨user, hu, h⟩
  · exact does_of_run h .nothing
  · have huser : t.HasUser (some user.id) := fun x hx => ⟨user, hu, (Option.some.inj hx)⟩
    cases hpres : t.presented security rawSessionToken with
    | none =>
      rw [hpres, AuthService.linkOrCreate, Prog.bind_eq, Prog.run_bind] at h
      obtain ⟨row, hrow, -, ⟨hf, -, hr⟩ | ⟨σ, hr⟩⟩ :=
        run_create security settings hv (some user.id) uuid4 freshToken
      · rw [hr] at h
        exact does_of_run h (.creates row hf (hrow ▸ huser))
      · rw [hr] at h
        exact does_of_run h .nothing
    | some presented =>
      obtain ⟨token, htoken, hmap⟩ := Option.bind_eq_some_iff.1 hpres
      obtain ⟨s, hs, hpair⟩ := Option.map_eq_some_iff.1 hmap
      subst htoken hpair
      have hmem := ((Tables.activeSession_eq_some hv).1 hs).1
      rw [hpres, AuthService.linkOrCreate, Prog.bind_eq,
        Prog.run_bind_ok (run_linkUser hv hmem huser)] at h
      exact does_of_run h (.links s user hs hu)

/-- **What the programs do**, with nothing else running. -/
theorem Call.does (hv : t.Valid) (c : Call) : Does security settings t c
    ((c.prog security settings).alone t).1 ((c.prog security settings).alone t).2 := by
  cases c with
  | createAnonymous uuid4 rawToken =>
    obtain ⟨row, hrow, -, ⟨hf, hu, hr⟩ | ⟨σ, hr⟩⟩ :=
      run_create security settings hv none uuid4 rawToken
    · exact does_of_run hr (.creates row hf (hrow ▸ hu))
    · exact does_of_run hr .nothing
  | register email password salt uuid4 =>
    obtain ⟨r, hr | ⟨row, hf, hr⟩⟩ := run_register security hv email password salt uuid4
    · exact does_of_run hr .nothing
    · exact does_of_run hr (.registers row hf)
  | login email password rawSessionToken uuid4 freshToken =>
    exact does_login hv email password rawSessionToken uuid4 freshToken rfl rfl
  | logout cookie =>
    cases cookie with
    | none => exact .nothing
    | some cookie =>
      have h : (Accounts.logout security (some cookie)).run t ∅ =
          (VisitorSessionService.invalidate security cookie).run t ∅ := rfl
      rw [VisitorSessionService.invalidate, Prog.bind_eq,
        Prog.run_bind_ok (run_getByTokenHash hv _)] at h
      cases hf : t.visitorSessions.find? fun s =>
          s.anonymousTokenHash = security.hashSessionToken cookie with
      | none =>
        rw [hf] at h
        exact does_of_run h .nothing
      | some s =>
        have hmem := List.mem_of_find?_eq_some hf
        have hset : ((flushVisitorSession s (invalidated s t.clock)).bind fun _ => Prog.commitTx).run
            t ∅ = (.ok (), t.setSession (invalidated s t.clock), ∅) :=
          run_flush_commit _ hmem hv rfl rfl fun x hx => nomatch hx
        rw [hf] at h
        dsimp only at h
        rw [Prog.bind_eq, Prog.run_bind_ok (run_utcNow t), Prog.bind_eq, hset] at h
        exact does_of_run h (.invalidates s hmem)
  | getActive rawToken touch =>
    cases touch with
    | false => exact does_of_run (run_getActive hv rawToken) .nothing
    | true =>
      obtain ⟨r, hr | ⟨s, hs, hr⟩⟩ := run_getActive_touch security hv rawToken
      · exact does_of_run hr .nothing
      · exact does_of_run hr (.touches s hs)
  | currentSession cookie =>
    exact does_of_run (run_getCurrentSession hv cookie) .nothing
  | tick elapsed => exact .ticks elapsed

/-! ## What a call keeps -/

namespace Does
variable {c : Call} {r : Except Error Response}

theorem valid (h : Does security settings t c r t') (hv : t.Valid) : t'.Valid := by
  cases h with
  | nothing => exact hv
  | registers row hf => exact hv.insertUser hf
  | creates row hf hu => exact hv.insert hf hu
  | touches s hs => exact hv.setSession _ hs rfl rfl (hv.hasUser s hs)
  | links s user hs hu =>
    exact hv.setSession _ ((Tables.activeSession_eq_some hv).1 hs).1 rfl rfl
      fun x hx => ⟨user, hu, Option.some.inj hx⟩
  | invalidates s hs => exact hv.setSession _ hs rfl rfl fun x hx => nomatch hx
  | ticks elapsed => exact ⟨hv.userIds, hv.userEmails, hv.ids, hv.hashes, hv.hasUser⟩

theorem clock (h : Does security settings t c r t') : t.clock ≤ t'.clock := by
  cases h with
  | ticks elapsed => exact Int.le_add_of_nonneg_right (Int.natCast_nonneg elapsed)
  | _ => exact le_refl _

theorem user (h : Does security settings t c r t') {u : User} (hu : u ∈ t.users) : u ∈ t'.users := by
  cases h with
  | registers row hf => exact List.mem_append_left _ hu
  | _ => exact hu

/-- **What becomes of a session**: it keeps its user and its expiry, or it has
    expired, or the call is a login that presents its token while it is active,
    and it is linked to the user that has logged in. -/
theorem session (h : Does security settings t c r t') (hv : t.Valid) (hs : s ∈ t.visitorSessions) :
    ∃ s' ∈ t'.visitorSessions, s'.id = s.id ∧
      (s'.userId = s.userId ∧ s'.expiresAt = s.expiresAt ∨ s'.expiresAt ≤ t'.clock ∨
        ∃ email password token uuid4 freshToken user,
          c = .login email password (some token) uuid4 freshToken ∧
          t.activeSession security token = some s ∧ r = .ok (.loggedIn ⟨user, s', token⟩) ∧
          s'.userId = some user.id) := by
  -- the row that is set is `s` or another row
  have hset : ∀ {x : VisitorSession} (row : VisitorSession), x ∈ t.visitorSessions → row.id = x.id →
      s ≠ x → ∃ s' ∈ (t.setSession row).visitorSessions, s'.id = s.id ∧ s'.userId = s.userId ∧
        s'.expiresAt = s.expiresAt := fun row hx hid hne =>
    ⟨s, (Tables.mem_setSession row hx hid).2 (Or.inr ⟨hs, fun h => hne (Table.eq_of_key hv.ids hs hx h)⟩),
      rfl, rfl, rfl⟩
  cases h with
  | nothing => exact ⟨s, hs, rfl, Or.inl ⟨rfl, rfl⟩⟩
  | registers row hf => exact ⟨s, hs, rfl, Or.inl ⟨rfl, rfl⟩⟩
  | creates row hf hu => exact ⟨s, List.mem_append_left _ hs, rfl, Or.inl ⟨rfl, rfl⟩⟩
  | ticks elapsed => exact ⟨s, hs, rfl, Or.inl ⟨rfl, rfl⟩⟩
  | touches x hx =>
    by_cases heq : s = x
    · subst heq
      exact ⟨touched s t.clock, Tables.mem_setSession_self (touched s t.clock) hs rfl, rfl,
        Or.inl ⟨rfl, rfl⟩⟩
    · obtain ⟨s', hs', hid, hsame⟩ := hset (touched x t.clock) hx rfl heq
      exact ⟨s', hs', hid, Or.inl hsame⟩
  | invalidates x hx =>
    by_cases heq : s = x
    · subst heq
      exact ⟨invalidated s t.clock, Tables.mem_setSession_self (invalidated s t.clock) hs rfl, rfl,
        Or.inr (Or.inl (le_refl _))⟩
    · obtain ⟨s', hs', hid, hsame⟩ := hset (invalidated x t.clock) hx rfl heq
      exact ⟨s', hs', hid, Or.inl hsame⟩
  | @links email password token uuid4 freshToken x user hact hu =>
    have hx := ((Tables.activeSession_eq_some hv).1 hact).1
    by_cases heq : s = x
    · subst heq
      exact ⟨linked s user.id t.clock (settings.expiresAt t.clock),
        Tables.mem_setSession_self (linked s user.id t.clock (settings.expiresAt t.clock)) hs rfl, rfl,
        Or.inr (Or.inr ⟨email, password, token, uuid4, freshToken, user, rfl, hact, rfl, rfl⟩)⟩
    · obtain ⟨s', hs', hid, hsame⟩ := hset (linked x user.id t.clock (settings.expiresAt t.clock)) hx
        rfl heq
      exact ⟨s', hs', hid, Or.inl hsame⟩

end Does

end

end TicketReservation.Accounts
