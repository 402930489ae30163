/-
  Racing registrations have one winner.

  `register` looks the e-mail up, and inserts the user in a later statement.
  Two calls can both find nothing; then the unique index decides: the second
  `INSERT` waits for the first transaction, fails when it has committed, and
  the `IntegrityError` becomes the same exception as that of the look-up.  The
  e-mail is normalised by the schema and again by the service; this is the same
  key for every spelling (`Normalizes.idem`).

  * `Registering`: how far a registration has come, and what it knows;
  * `Consulting`: the same for a login that looks up a registered e-mail;
  * `registry_run`: what holds in every run whose calls draw new ids;
  * `one_registration`: the winners, the refusals and the logins.
-/
import TicketReservation.Accounts.Transactions
import TicketReservation.Accounts.Alone
import TicketReservation.Txn.Finish
import TicketReservation.Lower
import TicketReservation.Payloads

namespace TicketReservation.Accounts

open Txn Relation

/-! ## Requests -/

/-- `email.strip().lower()`. -/
def Security.Normalizes (security : Security) (table : Text.CaseTable isSpace) : Prop :=
  ∀ email, security.normalizeEmail email = table.lower (strip email)

/-- **Normalising twice is normalising once.** -/
theorem Security.Normalizes.idem {security : Security} {table : Text.CaseTable isSpace}
    (h : security.Normalizes table) (email : String) :
    security.normalizeEmail (security.normalizeEmail email) = security.normalizeEmail email := by
  have htrim : strip (table.lower (strip email)) = table.lower (strip email) :=
    table.trim_lower (Text.trim_trim email)
  rw [h, h, htrim, table.lower_lower]

/-- `normalize_email` of `RegisterRequest` and `LoginRequest`; the e-mail of a request is the text
    that `EmailStr` hands over. -/
def Call.validated (security : Security) : Call → Call
  | register email password salt uuid4 =>
    register (security.normalizeEmail email) password salt uuid4
  | login email password rawSessionToken uuid4 freshToken =>
    login (security.normalizeEmail email) password rawSessionToken uuid4 freshToken
  | c => c

/-- The endpoint: the schema validates the request, then the service is called. -/
def Call.endpoint (security : Security) (settings : Settings) (c : Call) : Tx Response :=
  (c.validated security).prog security settings

/-- The row that a registration inserts. -/
def Call.newUser (security : Security) : Call → Option User
  | register email password salt uuid4 =>
    some ⟨uuid4, security.normalizeEmail email, security.hashPassword password salt⟩
  | _ => none

/-- The id that a registration draws. -/
def Call.newUserId : Call → Option UUID
  | register _ _ _ uuid4 => some uuid4
  | _ => none

/-- **The calls draw new ids**, different from each other and from those of the users. -/
def FreshUserIds (d₀ : Tables) (cfg : AccountsConfig) : Prop :=
  (d₀.users.map User.id ++ (cfg.threads.map Thread.call).filterMap Call.newUserId).Nodup

instance (d₀ : Tables) (cfg : AccountsConfig) : Decidable (FreshUserIds d₀ cfg) :=
  inferInstanceAs (Decidable (List.Nodup _))

/-! ## A registration -/

abbrev AccountStatus := Status Tables Write Lock Error Response

namespace AuthService

/-- `register` when the e-mail was not found. -/
def insertAndRefresh (user : User) : Tx User := do
  Prog.tryCatch (do
      insertUser user
      Prog.commitTx)
    fun e =>
      if e = .integrityError then do
        Prog.rollback
        .raise .emailAlreadyRegisteredError
      else .raise e
  refreshUser user.id

/-- `register`, for the row that it would insert. -/
def registerUser (user : User) : Tx User := do
  match ← getByEmail user.email with
  | some _ =>
    Prog.rollback
    .raise .emailAlreadyRegisteredError
  | none => insertAndRefresh user

end AuthService

open AuthService

/-- The call has written nothing yet. -/
inductive Unwritten (user : User) : AccountStatus → Prop
  | looking : Unwritten user (.running ((registerUser user).map .registered) ∅)
  | absent : Unwritten user (.running ((insertAndRefresh user).map .registered) ∅)

/-- The call has committed its row. -/
inductive Entered (user : User) : AccountStatus → Prop
  | committed : Entered user (.running ((refreshUser user.id).map .registered) ∅)
  | refreshed : Entered user (.running (.ret (.registered user)) ∅)
  | returned : Entered user (.returned (.ok (.registered user)))

/-- The call raises `EmailAlreadyRegisteredError`. -/
inductive Refusing : AccountStatus → Prop
  | found : Refusing (.running (.stmt Stmt.rollback fun _ => .raise .emailAlreadyRegisteredError) ∅)
  | rolledBack : Refusing (.running (.raise .emailAlreadyRegisteredError) ∅)
  | returned : Refusing (.returned (.error .emailAlreadyRegisteredError))

/-- The id of the user is not in use. -/
def NewId (user : User) (users : List User) : Prop := ∀ u ∈ users, u.id ≠ user.id

/-- The e-mail of the user is not in use. -/
def NewEmail (user : User) (users : List User) : Prop := ∀ u ∈ users, u.email ≠ user.email

/-- **How far a registration has come**, and what it knows about the users. -/
inductive Registering (user : User) (users : List User) : AccountStatus → Prop
  | unwritten {s : AccountStatus} : NewId user users → Unwritten user s → Registering user users s
  | inserted : NewId user users → NewEmail user users → Registering user users
      (.running (.commit ((refreshUser user.id).map .registered))
        ⟨[.insertUser user], [.user user.id, .email user.email]⟩)
  | entered {s : AccountStatus} : user ∈ users → Entered user s → Registering user users s
  | refused {s : AccountStatus} : NewId user users → ¬ NewEmail user users → Refusing s →
      Registering user users s
  | aborted : Registering user users .aborted

theorem NewId.snoc {user other : User} {users : List User} (h : NewId user users)
    (hid : other.id ≠ user.id) : NewId user (users ++ [other]) := by
  intro u hu
  rcases List.mem_append.1 hu with hu | hu
  · exact h u hu
  · rwa [List.mem_singleton.1 hu]

theorem NewEmail.snoc {user other : User} {users : List User} (h : NewEmail user users)
    (hemail : other.email ≠ user.email) : NewEmail user (users ++ [other]) := by
  intro u hu
  rcases List.mem_append.1 hu with hu | hu
  · exact h u hu
  · rwa [List.mem_singleton.1 hu]

theorem not_newEmail {user : User} {users : List User} :
    ¬ NewEmail user users ↔ ∃ u ∈ users, u.email = user.email := by
  unfold NewEmail
  push Not
  rfl

/-- The unique constraints of `users`. -/
structure UniqueUsers (users : List User) : Prop where
  ids : (users.map User.id).Nodup
  emails : (users.map User.email).Nodup

theorem UniqueUsers.snoc {user : User} {users : List User} (h : UniqueUsers users)
    (hid : NewId user users) (hemail : NewEmail user users) : UniqueUsers (users ++ [user]) where
  ids := Table.nodup_append_key h.ids (List.nodup_singleton _) fun u hu v hv => by
    rw [List.mem_singleton.1 hv]; exact hid u hu
  emails := Table.nodup_append_key h.emails (List.nodup_singleton _) fun u hu v hv => by
    rw [List.mem_singleton.1 hv]; exact hemail u hu

namespace Registering
variable {user : User} {users : List User} {s s' : AccountStatus} {cfg : AccountsConfig} {i : ℕ}
  {d' : Tables}

/-- Another call commits its row. -/
theorem others (h : Registering user users s) {other : User} (hid : other.id ≠ user.id)
    (hemail : .email user.email ∈ s.locks → other.email ≠ user.email) :
    Registering user (users ++ [other]) s := by
  cases h with
  | unwritten hnew hs => exact .unwritten (hnew.snoc hid) hs
  | inserted hnew hfree => exact .inserted (hnew.snoc hid) (hfree.snoc (hemail (by simp [Status.locks])))
  | entered hmem hs => exact .entered (List.mem_append_left _ hmem) hs
  | refused hnew htaken hs =>
    exact .refused (hnew.snoc hid) (fun h => htaken fun u hu => h u (List.mem_append_left _ hu)) hs
  | aborted => exact .aborted

/-- A step before the row is written. -/
theorem of_unwritten (hu : UniqueUsers cfg.db.users) (hnew : NewId user cfg.db.users)
    (h : Unwritten user s) (hp : Progress cfg i s s' d') :
    d' = cfg.db ∧ Registering user cfg.db.users s' := by
  cases h with
  | looking =>
    obtain ⟨-, rfl, rfl⟩ := Progress.of_stmt hp
    refine ⟨rfl, ?_⟩
    simp only [Stmt.ofPlan, Session.view_empty, scalarOneOrNone_key hu.emails, List.append_nil]
    cases hf : cfg.db.users.find? fun u => u.email = user.email with
    | none => exact .unwritten hnew .absent
    | some u =>
      have hmem := (Table.find?_eq_some_iff hu.emails (k := user.email) (by simp)).1 hf
      exact .refused hnew (not_newEmail.2 ⟨u, hmem.1, by simpa using hmem.2⟩) .found
  | absent =>
    obtain ⟨-, rfl, rfl⟩ := Progress.of_stmt hp
    refine ⟨rfl, ?_⟩
    dsimp only [Stmt.ofPlan]
    split_ifs with hfits
    · exact .inserted hnew fun u hu => (hfits u hu).2
    · exact .refused hnew (fun h => hfits fun u hu => ⟨hnew u hu, h u hu⟩) .found

/-- A step after the row is committed. -/
theorem of_entered (hu : UniqueUsers cfg.db.users) (hmem : user ∈ cfg.db.users)
    (h : Entered user s) (hp : Progress cfg i s s' d') : d' = cfg.db ∧ Entered user s' := by
  cases h with
  | committed =>
    obtain ⟨-, rfl, rfl⟩ := Progress.of_stmt hp
    have hrow : cfg.db.users.find? (fun u => u.id = user.id) = some user :=
      (Table.find?_eq_some_iff hu.ids (k := user.id) (by simp)).2 ⟨hmem, by simp⟩
    refine ⟨rfl, ?_⟩
    simp only [Stmt.ofPlan, Session.view_empty, scalarOneOrNone_key hu.ids, hrow, List.append_nil]
    exact .refreshed
  | refreshed =>
    obtain ⟨rfl, rfl⟩ := Progress.of_ret hp
    exact ⟨rfl, .returned⟩
  | returned => cases hp.isRunning

/-- A step on the way to the exception. -/
theorem of_refusing (h : Refusing s) (hp : Progress cfg i s s' d') : d' = cfg.db ∧ Refusing s' := by
  cases h with
  | found =>
    obtain ⟨-, rfl, rfl⟩ := Progress.of_stmt hp
    exact ⟨rfl, .rolledBack⟩
  | rolledBack =>
    obtain ⟨rfl, rfl⟩ := Progress.of_raise hp
    exact ⟨rfl, .returned⟩
  | returned => cases hp.isRunning

/-- **One step of a registration**: the users stay, or it commits its row. -/
theorem progress (hu : UniqueUsers cfg.db.users) (h : Registering user cfg.db.users s)
    (hp : Progress cfg i s s' d') : Registering user d'.users s' ∧
      (d' = cfg.db ∨ d' = cfg.db.apply (.insertUser user) ∧ NewId user cfg.db.users ∧
        NewEmail user cfg.db.users ∧ .email user.email ∈ s.locks) := by
  cases h with
  | unwritten hnew hs =>
    obtain ⟨rfl, hs'⟩ := of_unwritten hu hnew hs hp
    exact ⟨hs', Or.inl rfl⟩
  | inserted hnew hfree =>
    obtain ⟨rfl, rfl⟩ := Progress.of_commit hp
    refine ⟨.entered (List.mem_append_right _ (List.mem_singleton_self _)) .committed,
      Or.inr ⟨rfl, hnew, hfree, by simp [Status.locks]⟩⟩
  | entered hmem hs =>
    obtain ⟨rfl, hs'⟩ := of_entered hu hmem hs hp
    exact ⟨.entered hmem hs', Or.inl rfl⟩
  | refused hnew htaken hs =>
    obtain ⟨rfl, hs'⟩ := of_refusing hs hp
    exact ⟨.refused hnew htaken hs', Or.inl rfl⟩
  | aborted => cases hp.isRunning

/-- A registration that has returned has committed its row or raised the exception. -/
theorem returned {r : Except Error Response} (h : Registering user users (.returned r)) :
    user ∈ users ∧ r = .ok (.registered user) ∨
      NewId user users ∧ ¬ NewEmail user users ∧ r = .error .emailAlreadyRegisteredError := by
  generalize hs : (Status.returned r : AccountStatus) = s at h
  cases h with
  | unwritten _ hs' => rw [← hs] at hs'; cases hs'
  | inserted => cases hs
  | entered hmem hs' => rw [← hs] at hs'; cases hs'; exact Or.inl ⟨hmem, rfl⟩
  | refused hnew htaken hs' => rw [← hs] at hs'; cases hs'; exact Or.inr ⟨hnew, htaken, rfl⟩
  | aborted => cases hs

/-- A registration holds locks at its commit only. -/
theorem locks_eq_nil (h : Registering user users s) (hstmt : s.AtStmt) : s.locks = [] := by
  cases h with
  | unwritten _ hs => cases hs <;> rfl
  | inserted => exact hstmt.elim
  | entered _ hs => cases hs <;> rfl
  | refused _ _ hs => cases hs <;> rfl
  | aborted => rfl

end Registering

/-! ## The calls of a run -/

abbrev AccountThread := Thread Call Tables Write Lock Error Response

theorem Call.newUserId_of_newUser {security : Security} {c : Call} {user : User}
    (h : (c.validated security).newUser security = some user) : c.newUserId = some user.id := by
  cases c with
  | register => cases h; rfl
  | createAnonymous | login | logout | getActive | currentSession | tick => cases h

namespace FreshUserIds
variable {d₀ : Tables} {cfg cfg' : AccountsConfig}

theorem of_prefix (h : FreshUserIds d₀ cfg')
    (hpre : cfg.threads.map Thread.call <+: cfg'.threads.map Thread.call) : FreshUserIds d₀ cfg := by
  refine List.Nodup.sublist ?_ h
  exact List.Sublist.append_left (List.Sublist.filterMap _ hpre.sublist) _

/-- A new id is not that of a user. -/
theorem not_old (h : FreshUserIds d₀ cfg) {c : Call} (hc : c ∈ cfg.threads.map Thread.call) {id : UUID}
    (hid : c.newUserId = some id) : ∀ u ∈ d₀.users, u.id ≠ id := by
  intro u hu heq
  exact (List.nodup_append'.1 h).2.2 (List.mem_map_of_mem hu) (List.mem_filterMap.2 ⟨c, hc, heq ▸ hid⟩)

/-- Different calls draw different ids. -/
theorem ne (h : FreshUserIds d₀ cfg) {i j : ℕ} {t u : AccountThread} (hij : i ≠ j)
    (hi : cfg.threads[i]? = some t) (hj : cfg.threads[j]? = some u) {x y : UUID}
    (hx : t.call.newUserId = some x) (hy : u.call.newUserId = some y) : x ≠ y := by
  have hpair := List.pairwise_iff_getElem.1 (List.pairwise_filterMap.1 (List.nodup_append'.1 h).2.1)
  obtain ⟨hilt, rfl⟩ := List.getElem?_eq_some_iff.1 hi
  obtain ⟨hjlt, rfl⟩ := List.getElem?_eq_some_iff.1 hj
  rcases Nat.lt_or_gt_of_ne hij with hlt | hlt
  · exact hpair i j (by simpa using hilt) (by simpa using hjlt) hlt x (by simpa using hx) y
      (by simpa using hy)
  · exact (hpair j i (by simpa using hjlt) (by simpa using hilt) hlt y (by simpa using hy) x
      (by simpa using hx)).symm

end FreshUserIds

/-- **How far a call has come.** -/
def Behaves (security : Security) (d : Tables) (t : AccountThread) : Prop :=
  match (t.call.validated security).newUser security with
  | some user => Registering user d.users t.status
  | none => t.status.Always anyone freshTransactions (fun _ => True) d

theorem users_view {σ : Session} (h : ∀ w ∈ σ.writes, ¬ w.InsertsUser) (d : Tables) :
    (σ.view d).users = d.users := by
  unfold Session.view
  generalize σ.writes = ws at h
  induction ws generalizing d with
  | nil => rfl
  | cons w ws ih =>
    rw [List.foldl_cons, ih _ fun w' hw' => h w' (List.mem_cons_of_mem w hw')]
    have hw := h w List.mem_cons_self
    cases w with
    | insertUser => exact absurd trivial hw
    | insertVisitorSession | updateVisitorSession | tick => rfl

/-- A call in fresh transactions holds no locks at its statements. -/
theorem always_locks_eq_nil {Q : Except Error Response → Prop} {d : Tables} {s : AccountStatus}
    (h : s.Always anyone freshTransactions Q d) (hstmt : s.AtStmt) : s.locks = [] := by
  cases s with
  | returned | aborted => exact hstmt.elim
  | running p σ =>
    cases p with
    | ret | raise | commit => exact hstmt.elim
    | stmt st k =>
      obtain rfl : σ = ∅ := h.stmt
      rfl

namespace Behaves
variable {security : Security} {settings : Settings} {d d' : Tables} {cfg : AccountsConfig} {i : ℕ}
  {t : AccountThread} {s' : AccountStatus} {user : User}

theorem registering (h : Behaves security d t)
    (hn : (t.call.validated security).newUser security = some user) :
    Registering user d.users t.status := by
  rwa [Behaves, hn] at h

theorem arrive {c : Call} {born : Tables}
    (hnew : ∀ user, (c.validated security).newUser security = some user → NewId user d.users) :
    Behaves security d ⟨c, born, .running (c.endpoint security settings) ∅⟩ := by
  cases c with
  | register email password salt uuid4 => exact .unwritten (hnew _ rfl) .looking
  | createAnonymous | login | logout | getActive | currentSession | tick =>
    exact always_mono (fun _ _ _ _ => trivial)
      (Call.transacts (Call.validated security _) (by simp [Call.validated]) d)

theorem abort (born : Tables) : Behaves security d ⟨t.call, born, .aborted⟩ := by
  unfold Behaves
  cases (t.call.validated security).newUser security with
  | some user => exact .aborted
  | none => trivial

/-- **One step of a call**: the users stay, or it commits its row. -/
theorem progress (hu : UniqueUsers cfg.db.users) (h : Behaves security cfg.db t)
    (hp : Progress cfg i t.status s' d') : Behaves security d' { t with status := s' } ∧
      (d'.users = cfg.db.users ∨ ∃ user, (t.call.validated security).newUser security = some user ∧
        d'.users = cfg.db.users ++ [user] ∧ NewId user cfg.db.users ∧ NewEmail user cfg.db.users ∧
        .email user.email ∈ t.status.locks) := by
  unfold Behaves at h ⊢
  dsimp only
  cases hn : (t.call.validated security).newUser security with
  | some user =>
    rw [hn] at h
    obtain ⟨hs', rfl | ⟨rfl, hid, hemail, hlock⟩⟩ := h.progress hu hp
    · exact ⟨hs', Or.inl rfl⟩
    · exact ⟨hs', Or.inr ⟨user, rfl, rfl, hid, hemail, hlock⟩⟩
  | none =>
    rw [hn] at h
    refine ⟨h.progress hp, Or.inl ?_⟩
    generalize t.status = s at h hp
    cases hp with
    | ret | raise | stmt => rfl
    | commit k σ => exact users_view h.commit cfg.db

/-- A step of another call. -/
theorem others (h : Behaves security d t)
    (hd : d'.users = d.users ∨ ∃ other, d'.users = d.users ++ [other] ∧
      ∀ user, (t.call.validated security).newUser security = some user → other.id ≠ user.id ∧
        (.email user.email ∈ t.status.locks → other.email ≠ user.email)) :
    Behaves security d' t := by
  unfold Behaves at h ⊢
  cases hn : (t.call.validated security).newUser security with
  | some user =>
    rw [hn] at h
    rcases hd with hd | ⟨other, hd, hother⟩
    · exact hd ▸ h
    · obtain ⟨hid, hemail⟩ := hother user hn
      exact hd ▸ h.others hid hemail
  | none =>
    rw [hn] at h
    exact h.others (.single trivial) (List.disjoint_nil_left _)

end Behaves

/-- **The users of a run** from `d₀`: their unique constraints hold, none is deleted, and each is
    from `d₀` or the row of a registration. -/
structure Registry (security : Security) (d₀ : Tables) (cfg : AccountsConfig) : Prop where
  users : UniqueUsers cfg.db.users
  locks : cfg.Disjointed
  kept : d₀.users ⊆ cfg.db.users
  origin : ∀ u ∈ cfg.db.users, u ∈ d₀.users ∨
    ∃ c ∈ cfg.threads.map Thread.call, (c.validated security).newUser security = some u
  calls : ∀ (i : ℕ) (t : AccountThread), cfg.threads[i]? = some t → Behaves security cfg.db t

namespace Registry
variable {security : Security} {settings : Settings} {d₀ : Tables} {cfg cfg' : AccountsConfig} {i : ℕ}

theorem arrive {c : Call} (h : Registry security d₀ cfg)
    (hact : cfg.act (Call.endpoint security settings) (.arrive c) = some cfg')
    (hf : FreshUserIds d₀ cfg') : Registry security d₀ cfg' := by
  have hlocks := h.locks.act hact
  cases hact
  refine ⟨h.users, hlocks, h.kept, fun u hu => ?_, fun i t ht => ?_⟩
  · refine (h.origin u hu).imp_right fun ⟨c', hc', hn⟩ => ⟨c', ?_, hn⟩
    rw [List.map_append]
    exact List.mem_append_left _ hc'
  rcases arrive_cases ht with ht' | ⟨rfl, rfl⟩
  · exact h.calls i t ht'
  · refine Behaves.arrive fun user hn u hu => ?_
    have hid := Call.newUserId_of_newUser hn
    rcases h.origin u hu with hold | ⟨c', hc', hn'⟩
    · exact hf.not_old (List.mem_map_of_mem (List.mem_of_getElem? ht)) hid u hold
    · obtain ⟨t', ht', rfl⟩ := List.mem_map.1 hc'
      obtain ⟨j, hj, rfl⟩ := List.getElem_of_mem ht'
      refine hf.ne (Nat.ne_of_lt hj) ?_ ht (Call.newUserId_of_newUser hn') hid
      rw [List.getElem?_append_left hj, List.getElem?_eq_getElem hj]

theorem abort (h : Registry security d₀ cfg)
    (hact : cfg.act (Call.endpoint security settings) (.abort i) = some cfg') :
    Registry security d₀ cfg' := by
  have hlocks := h.locks.act hact
  obtain ⟨t, p, σ, -, -, -, hm⟩ := abort_cases hact
  refine ⟨hm.db ▸ h.users, hlocks, hm.db ▸ h.kept, hm.calls ▸ hm.db ▸ h.origin, fun j tj hj => ?_⟩
  rw [hm.db]
  by_cases hij : i = j
  · subst hij
    rw [hm.get_self] at hj
    cases hj
    exact Behaves.abort t.born
  · exact h.calls j tj (hm.get_other hij ▸ hj)

/-- **A step of call `i`**: the users stay, or a registration commits its row. -/
theorem step (h : Registry security d₀ cfg)
    (hact : cfg.act (Call.endpoint security settings) (.step i) = some cfg')
    (hf : FreshUserIds d₀ cfg') : Registry security d₀ cfg' := by
  have hlocks := h.locks.act hact
  obtain ⟨t, s', d', hp, hm⟩ := step_cases hact
  have hfresh : FreshUserIds d₀ cfg := hf.of_prefix (hm.calls ▸ List.prefix_rfl)
  obtain ⟨hself, hd⟩ := (h.calls i t hm.at_i).progress h.users hp
  have hcalls : ∀ (j : ℕ) (tj : AccountThread), cfg'.threads[j]? = some tj →
      Behaves security cfg'.db tj := by
    intro j tj hj
    rw [hm.db]
    by_cases hij : i = j
    · subst hij
      rw [hm.get_self] at hj
      cases hj
      exact hself
    · rw [hm.get_other hij] at hj
      refine (h.calls j tj hj).others (hd.imp_right ?_)
      rintro ⟨other, hother, hdb, -, -, hlock⟩
      refine ⟨other, hdb, fun user hn => ⟨?_, fun hmem heq => ?_⟩⟩
      · exact hfresh.ne hij hm.at_i hj (Call.newUserId_of_newUser hother)
          (Call.newUserId_of_newUser hn)
      · exact h.locks i j t tj hij hm.at_i hj hlock (heq ▸ hmem)
  rcases hd with hd | ⟨user, hn, hd, hid, hemail, -⟩
  · refine ⟨?_, hlocks, ?_, ?_, hcalls⟩
    · rw [hm.db, hd]; exact h.users
    · rw [hm.db, hd]; exact h.kept
    · rw [hm.db, hd, hm.calls]; exact h.origin
  · refine ⟨?_, hlocks, ?_, ?_, hcalls⟩
    · rw [hm.db, hd]; exact h.users.snoc hid hemail
    · rw [hm.db, hd]; exact fun u hu => List.mem_append_left _ (h.kept hu)
    · rw [hm.db, hd, hm.calls]
      intro u hu
      rcases List.mem_append.1 hu with hu | hu
      · exact h.origin u hu
      · rw [List.mem_singleton.1 hu]
        exact Or.inr ⟨t.call, List.mem_map_of_mem (List.mem_of_getElem? hm.at_i), hn⟩

end Registry

/-- **In every run whose registrations draw new ids.** -/
theorem registry_run {security : Security} {settings : Settings} {d₀ : Tables} {cfg : AccountsConfig}
    (hu : UniqueUsers d₀.users) (r : Run (Call.endpoint security settings) (start d₀) cfg)
    (hf : FreshUserIds d₀ cfg) : Registry security d₀ cfg := by
  refine r.induct (I := fun c => FreshUserIds d₀ c → Registry security d₀ c) (fun _ => ?_) ?_ hf
  · exact ⟨hu, by simp [Config.Disjointed], fun _ h => h, fun u h => Or.inl h, by simp⟩
  · intro c c' a hI _ hact hf'
    have h := hI (hf'.of_prefix (act_calls hact))
    cases a with
    | arrive => exact h.arrive hact hf'
    | step => exact h.step hact hf'
    | abort => exact h.abort hact

/-- The calls of a run can be brought to their ends. -/
theorem Registry.exists_finished {security : Security} {settings : Settings} {d₀ : Tables}
    {cfg : AccountsConfig} (h : Registry security d₀ cfg) :
    ∃ cfg', Run (Call.endpoint security settings) cfg cfg' ∧ cfg'.Finished ∧
      cfg'.threads.map Thread.call = cfg.threads.map Thread.call := by
  have hone : cfg.OneHolder Status.AtStmt := fun i j t _ _ ht _ hstmt _ => Or.inl <| by
    have hb := h.calls i t ht
    unfold Behaves at hb
    cases hn : (t.call.validated security).newUser security with
    | some user =>
      rw [hn] at hb
      exact hb.locks_eq_nil hstmt
    | none =>
      rw [hn] at hb
      exact always_locks_eq_nil hb hstmt
  obtain ⟨cfg', r, hf, hcalls⟩ := Txn.exists_finished (Call.endpoint security settings) hone
  exact ⟨cfg', r.mono fun _ _ _ => trivial, hf, hcalls⟩

end TicketReservation.Accounts
