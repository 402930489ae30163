/-
  Logout and expiry are final, if no login overtakes them.

  A login reads the session of the presented token, checks that it is active,
  and later sets its `expires_at` by primary key, without a lock and without
  checking again.  A logout that commits in between is undone
  (`logout_undone`).

  * `Written`: what a transaction has written when it commits (`guarded_run`);
  * `Timely`: the commits that do not undo a logout;
  * `logout_final`: in a run of timely actions no session is found again once
    it was logged out or has expired.
-/
import TicketReservation.Accounts.Service
import TicketReservation.Txn.Always
import TicketReservation.Table

namespace TicketReservation.Accounts

open Txn Relation

/-! ## What the transactions do to the tables -/

/-- The unique constraints of `visitor_sessions`. -/
structure Unique (d : Tables) : Prop where
  ids : (d.visitorSessions.map VisitorSession.id).Nodup
  hashes : (d.visitorSessions.map VisitorSession.anonymousTokenHash).Nodup

/-- No row has the keys of the new one. -/
def Fresh (row : VisitorSession) (d : Tables) : Prop :=
  ∀ s ∈ d.visitorSessions, s.id ≠ row.id ∧ s.anonymousTokenHash ≠ row.anonymousTokenHash

/-- **What a transaction has written** when it commits. -/
inductive Written (d : Tables) (σ : Session) : Prop
  | nothing : σ.writes = [] → Written d σ
  | user (row : User) : σ.writes = [.insertUser row] → Written d σ
  | created (row : VisitorSession) : σ.writes = [.insertVisitorSession row] →
      .visitorSession row.id ∈ σ.locks → .tokenHash row.anonymousTokenHash ∈ σ.locks →
      Fresh row d → Written d σ
  | updated (id : UUID) (changes : SessionChanges) :
      σ.writes = [.updateVisitorSession id changes] → Written d σ
  | time (elapsed : ℕ) : σ.writes = [.tick elapsed] → Written d σ

theorem Unique.update {d : Tables} (h : Unique d) (id : UUID) (changes : SessionChanges) :
    Unique (d.apply (.updateVisitorSession id changes)) where
  ids := Table.nodup_map_key (fun s => by split_ifs <;> rfl) h.ids
  hashes := Table.nodup_map_key (fun s => by split_ifs <;> rfl) h.hashes

theorem Unique.insert {d : Tables} {row : VisitorSession} (h : Unique d) (hf : Fresh row d) :
    Unique (d.apply (.insertVisitorSession row)) where
  ids := Table.nodup_append_key h.ids (List.nodup_singleton _) fun s hs t ht => by
    rw [List.mem_singleton.1 ht]; exact (hf s hs).1
  hashes := Table.nodup_append_key h.hashes (List.nodup_singleton _) fun s hs t ht => by
    rw [List.mem_singleton.1 ht]; exact (hf s hs).2

/-- What one transaction may do to the committed tables while it holds the locks `Λ`. -/
def Step (Λ : List Lock) (d d' : Tables) : Prop :=
  ∃ ws : List Write, Written d ⟨ws, Λ⟩ ∧ d' = (⟨ws, Λ⟩ : Session).view d

/-- The cases of `Step`: the one write that was committed, if there was one. -/
inductive Changes (Λ : List Lock) (d : Tables) : Tables → Prop
  | nothing : Changes Λ d d
  | user (row : User) : Changes Λ d (d.apply (.insertUser row))
  | created (row : VisitorSession) : .visitorSession row.id ∈ Λ →
      .tokenHash row.anonymousTokenHash ∈ Λ → Fresh row d →
      Changes Λ d (d.apply (.insertVisitorSession row))
  | updated (id : UUID) (changes : SessionChanges) :
      Changes Λ d (d.apply (.updateVisitorSession id changes))
  | time (elapsed : ℕ) : Changes Λ d (d.apply (.tick elapsed))

theorem Step.changes {Λ : List Lock} {d d' : Tables} (hs : Step Λ d d') : Changes Λ d d' := by
  obtain ⟨ws, hw, rfl⟩ := hs
  cases hw with
  | nothing h => obtain rfl : ws = [] := h; exact .nothing
  | user row h => obtain rfl : ws = _ := h; exact .user row
  | created row h hid hhash hf => obtain rfl : ws = _ := h; exact .created row hid hhash hf
  | updated id changes h => obtain rfl : ws = _ := h; exact .updated id changes
  | time elapsed h => obtain rfl : ws = _ := h; exact .time elapsed

/-- The tables keep their unique constraints. -/
def protocol : Protocol Tables Lock where
  inv := Unique
  step := Step
  inv_step := by
    intro Λ d d' hi hs
    cases hs.changes with
    | nothing => exact hi
    | user row | time elapsed => exact ⟨hi.ids, hi.hashes⟩
    | created row _ _ hf => exact hi.insert hf
    | updated id changes => exact hi.update id changes

section
variable {security : Security} {settings : Settings} {d d' : Tables} {Λ : List Lock}

/-- The clock does not go back. -/
theorem keeps_clock (now : Instant) : protocol.Keeps Λ fun d => now ≤ d.clock := by
  intro Λ' d d' _ _ hs hk
  cases Step.changes hs with
  | nothing | user row | created row | updated id changes => exact hk
  | time elapsed => exact hk.trans (le_add_of_nonneg_right (Int.natCast_nonneg elapsed))

/-- A session keeps its id and its token. -/
theorem keeps_row (id : UUID) (hash : String) : protocol.Keeps Λ fun d =>
    ∃ s ∈ d.visitorSessions, s.id = id ∧ s.anonymousTokenHash = hash := by
  rintro Λ' d d' - - hstep ⟨s, hs, hid, hhash⟩
  cases Step.changes hstep with
  | nothing | user row | time elapsed => exact ⟨s, hs, hid, hhash⟩
  | created row => exact ⟨s, List.mem_append_left _ hs, hid, hhash⟩
  | updated id' changes =>
    refine ⟨_, List.mem_map_of_mem hs, ?_, ?_⟩ <;> split_ifs <;> assumption

/-- The locks of an `INSERT` keep others from using its keys. -/
theorem keeps_fresh {row : VisitorSession} (hid : .visitorSession row.id ∈ Λ)
    (hhash : .tokenHash row.anonymousTokenHash ∈ Λ) : protocol.Keeps Λ (Fresh row) := by
  intro Λ' d d' _ hdisj hstep hk
  cases Step.changes hstep with
  | nothing | user row | time elapsed => exact hk
  | created row' hid' hhash' =>
    intro s hs
    rcases List.mem_append.1 hs with hs | hs
    · exact hk s hs
    · obtain rfl := List.mem_singleton.1 hs
      constructor
      · intro heq
        exact hdisj hid' (by rwa [heq])
      · intro heq
        exact hdisj hhash' (by rwa [heq])
  | updated id changes =>
    intro s hs
    obtain ⟨s', hs', rfl⟩ := List.mem_map.1 hs
    have := hk s' hs'
    split_ifs <;> exact this

end

theorem scalarOneOrNone_eq_some {α : Type} {l : List α} {a : α} :
    scalarOneOrNone l = .ok (some a) ↔ l = [a] := by
  rcases l with _ | ⟨b, _ | ⟨c, l⟩⟩ <;> simp [scalarOneOrNone]

/-! ## What the calls write -/

/-- What a call may have written when it commits: only a login and a logout write an
    `expires_at`, and a logout has found the session of its token. -/
def Call.Commits (security : Security) (c : Call) (d : Tables) (σ : Session) : Prop :=
  Written d σ ∧ match c with
    | .login .. => True
    | .logout cookie => ∃ token ∈ cookie, ∃ s ∈ d.visitorSessions,
        s.anonymousTokenHash = security.hashSessionToken token ∧
          ∀ w ∈ σ.writes, ∃ changes : SessionChanges, w = .updateVisitorSession s.id changes ∧
            ∀ e ∈ changes.expiresAt, e ≤ d.clock
    | _ => ∀ id changes, .updateVisitorSession id changes ∈ σ.writes → changes.expiresAt = none

/-- The commits of a call are those that it may make. -/
def Call.guard (security : Security) (c : Call) : Guard Tables Write Lock where
  stmt _ _ _ := True
  commit := c.Commits security

section
variable {security : Security} {settings : Settings} {d : Tables} {α β : Type} {c : Call}
  {K : Tables → Prop}

/-- The program returns, if it does, with `R`. -/
abbrev Returns (security : Security) (c : Call) (p : Tx α) (R : α → Tables → Session → Prop)
    (d : Tables) (σ : Session) : Prop :=
  always protocol (c.guard security) p (fun r d σ => ∀ a, r = .ok a → R a d σ) d σ

theorem returns_ret {σ : Session} {a : α} {R : α → Tables → Session → Prop} (h : R a d σ) :
    Returns security c (.ret a) R d σ := by
  rintro _ ⟨⟩
  exact h

theorem returns_raise {σ : Session} (e : Error) (R : α → Tables → Session → Prop) :
    Returns security c (.raise e) R d σ := by
  rintro _ ⟨⟩

theorem Returns.bind {σ : Session} {p : Tx α} {f : α → Tx β} {R : β → Tables → Session → Prop}
    (h : Returns security c p (fun a d σ => Returns security c (f a) R d σ) d σ) :
    Returns security c (p.bind f) R d σ := by
  refine always_bind (always_mono (fun r d σ hr => ?_) h)
  cases r with
  | error e => rintro _ ⟨⟩
  | ok a => exact hr a rfl

theorem Returns.mono {σ : Session} {p : Tx α} {R R' : α → Tables → Session → Prop}
    (h : Returns security c p R d σ) (hR : ∀ a d σ, R a d σ → R' a d σ) :
    Returns security c p R' d σ :=
  always_mono (fun _ _ _ hr a ha => hR _ _ _ (hr a ha)) h

/-- A statement that may fail, when the locks of the session protect `K`. -/
theorem returns_executeOrRaise {σ : Session} {plan : Tables → Plan Write Lock (Except Error β)}
    {R : β → Tables → Session → Prop} (hK : protocol.Keeps σ.locks K)
    (h : ∀ d b, Unique d → K d → (plan (σ.view d)).result = .ok b →
      R b d ⟨σ.writes ++ (plan (σ.view d)).writes, σ.locks ++ (plan (σ.view d)).takes⟩)
    (hi : Unique d) (hk : K d) : Returns security c (executeOrRaise plan) R d σ := by
  refine always_bind (always_ofPlan hK (fun d hi hk => ⟨trivial, ?_⟩) hi hk)
  have := fun b => h d b hi hk
  revert this
  rcases (plan (σ.view d)).result with e | b <;> intro this
  · rintro _ ⟨⟩
  · rintro _ ⟨⟩
    exact this b rfl

/-- A query. -/
theorem returns_query {f : Tables → Except Error β} {R : β → Tables → Session → Prop}
    (hK : protocol.Keeps [] K) (h : ∀ d b, Unique d → K d → f d = .ok b → R b d ∅) (hi : Unique d)
    (hk : K d) : Returns security c (executeOrRaise fun d => { result := f d }) R d ∅ :=
  returns_executeOrRaise hK h hi hk

theorem returns_utcNow {R : Instant → Tables → Session → Prop} (hK : protocol.Keeps [] K)
    (h : ∀ d, Unique d → K d → R d.clock d ∅) (hi : Unique d) (hk : K d) :
    Returns security c utcNow R d ∅ := by
  refine always_ofPlan hK (fun d hi hk => ⟨trivial, ?_⟩) hi hk
  rintro _ ⟨⟩
  exact h d hi hk

theorem returns_rollback {R : Unit → Tables → Session → Prop} {σ : Session}
    (h : ∀ d, Unique d → R () d ∅) (hi : Unique d) : Returns security c Prog.rollback R d σ := by
  refine always_rollback .const (fun _ _ _ => trivial) (fun d hi _ => ?_) hi trivial
  rintro _ ⟨⟩
  exact h d hi

theorem returns_commit {R : Unit → Tables → Session → Prop} {σ : Session}
    (hK : protocol.Keeps σ.locks K) (hc : ∀ d, Unique d → K d → c.Commits security d σ)
    (h : ∀ d, Unique d → R () d ∅) (hi : Unique d) (hk : K d) :
    Returns security c Prog.commitTx R d σ := by
  refine always_commitTx hK (fun d hi hk => ⟨hc d hi hk, ?_⟩) hi hk
  rintro _ ⟨⟩
  exact h _ (protocol.inv_step (Λ := σ.locks) hi ⟨σ.writes, (hc d hi hk).1, rfl⟩)

/-- A query that nothing is asked of. -/
theorem returns_any {f : Tables → Except Error β} {R : β → Tables → Session → Prop}
    (h : ∀ d b, Unique d → R b d ∅) (hi : Unique d) :
    Returns security c (executeOrRaise fun d => { result := f d }) R d ∅ :=
  returns_query .const (fun d b hi _ _ => h d b hi) hi trivial

theorem returns_refreshVisitorSession (id : UUID) {R : VisitorSession → Tables → Session → Prop}
    (h : ∀ d s, Unique d → R s d ∅) (hi : Unique d) :
    Returns security c (refreshVisitorSession id) R d ∅ := by
  refine Returns.bind (returns_any (fun d o hi => ?_) hi)
  cases o with
  | none => exact returns_raise _ _
  | some s => exact returns_ret (h d s hi)

theorem returns_refreshUser (id : UUID) {R : User → Tables → Session → Prop}
    (h : ∀ d u, Unique d → R u d ∅) (hi : Unique d) :
    Returns security c (refreshUser id) R d ∅ := by
  refine Returns.bind (returns_any (fun d o hi => ?_) hi)
  cases o with
  | none => exact returns_raise _ _
  | some u => exact returns_ret (h d u hi)

/-- **The flush of a loaded row and its commit.** -/
theorem returns_flush_commit {loaded assigned : VisitorSession} {R : Unit → Tables → Session → Prop}
    (hK : protocol.Keeps [] K)
    (hnone : assigned = loaded → ∀ d, Unique d → K d → c.Commits security d ∅)
    (hsome : ∀ d Λ, Unique d → K d → c.Commits security d
      ⟨[.updateVisitorSession loaded.id (changesOf loaded assigned)], Λ⟩)
    (h : ∀ d, Unique d → R () d ∅) (hi : Unique d) (hk : K d) :
    Returns security c ((flushVisitorSession loaded assigned).bind fun _ => Prog.commitTx) R d ∅ := by
  refine Returns.bind ?_
  unfold flushVisitorSession
  split_ifs with heq
  · exact returns_ret (returns_commit hK (hnone heq) h hi hk)
  · refine returns_executeOrRaise hK (fun d b hi hk hb => ?_) hi hk
    split_ifs at hb ⊢ with hrow huser
    exact returns_commit (hK.mono (List.nil_subset _)) (fun d hi hk => hsome d _ hi hk) h hi hk

/-- **A new session and its commit.** -/
theorem returns_create (userId : Option UUID) (uuid4 : UUID) (rawToken : String)
    {R : CreatedVisitorSession → Tables → Session → Prop}
    (hc : ∀ d σ row, σ.writes = [.insertVisitorSession row] → Written d σ → c.Commits security d σ)
    (h : ∀ d s, Unique d → R s d ∅) (hi : Unique d) :
    Returns security c (VisitorSessionService.create security settings userId uuid4 rawToken) R d ∅ := by
  refine Returns.bind (returns_utcNow .const (fun d hi _ => ?_) hi trivial)
  refine Returns.bind (returns_executeOrRaise .const (fun d b hi _ hb => ?_) hi trivial)
  split_ifs at hb ⊢ with hfits
  have hK : protocol.Keeps [.visitorSession uuid4, .tokenHash (security.hashSessionToken rawToken)]
      (Fresh ⟨uuid4, userId, security.hashSessionToken rawToken, d.clock, settings.expiresAt d.clock⟩) :=
    keeps_fresh (by simp) (by simp)
  refine Returns.bind (returns_commit hK
    (fun d hi hf => hc d _ _ rfl (.created _ rfl (by simp) (by simp) hf)) ?_ hi hfits.1)
  exact fun d hi => Returns.bind (returns_refreshVisitorSession uuid4
    (fun d s hi => returns_ret (h d ⟨s, rawToken⟩ hi)) hi)

theorem returns_getActive (rawToken : String) (touch : Bool)
    {R : Option VisitorSession → Tables → Session → Prop}
    (hc : touch = true → ∀ d σ, Written d σ →
      (∀ id changes, .updateVisitorSession id changes ∈ σ.writes → changes.expiresAt = none) →
      c.Commits security d σ)
    (h : ∀ d o, Unique d → R o d ∅) (hi : Unique d) :
    Returns security c (VisitorSessionService.getActive security rawToken touch) R d ∅ := by
  refine Returns.bind (returns_any (fun d o hi => ?_) hi)
  refine Returns.bind (returns_utcNow .const (fun d hi _ => ?_) hi trivial)
  cases o with
  | none => exact returns_ret (h d none hi)
  | some s =>
    dsimp only
    split_ifs with hexp htouch
    · exact returns_ret (h d none hi)
    · have hnone : ∀ assigned : VisitorSession, assigned.expiresAt = s.expiresAt →
          (changesOf s assigned).expiresAt = none := fun assigned heq => if_pos heq
      rw [Prog.bind_eq, Prog.bind_eq, ← Prog.bind_assoc]
      refine Returns.bind (returns_flush_commit .const
        (fun _ d hi _ => hc htouch d ∅ (.nothing rfl) (by simp)) (fun d Λ hi _ => ?_) ?_ hi trivial)
      · refine hc htouch d _ (.updated _ _ rfl) ?_
        intro id changes hmem
        cases List.mem_singleton.1 hmem
        exact hnone _ rfl
      · exact fun d hi => Returns.bind (returns_refreshVisitorSession s.id
          (fun d s hi => returns_ret (h d (some s) hi)) hi)
    · exact returns_ret (h d (some s) hi)

theorem returns_login (email password : String) (rawSessionToken : Option String) (uuid4 : UUID)
    (freshToken : String) (hc : ∀ d σ, Written d σ → c.Commits security d σ) (hi : Unique d) :
    Returns security c (AuthService.login security settings email password rawSessionToken uuid4
      freshToken) (fun _ _ _ => True) d ∅ := by
  have hpresented : ∀ {d}, Unique d → Returns security c (AuthService.presented security
      rawSessionToken) (fun _ d σ => Unique d ∧ σ = ∅) d ∅ := by
    intro d hi
    cases rawSessionToken with
    | none => exact returns_ret ⟨hi, rfl⟩
    | some token => exact Returns.bind (returns_getActive token false (by simp)
        (fun d o hi => returns_ret ⟨hi, rfl⟩) hi)
  refine Returns.bind (returns_any (fun d o hi => ?_) hi)
  cases o with
  | none => exact Returns.bind (returns_rollback (fun d _ => returns_raise _ _) hi)
  | some found =>
    refine Returns.bind (returns_rollback (fun d hi => ?_) hi)
    split_ifs with hverify
    · exact returns_raise _ _
    · refine Returns.bind (returns_any (fun d o hi => ?_) hi)
      cases o with
      | none => exact Returns.bind (returns_rollback (fun d _ => returns_raise _ _) hi)
      | some user =>
        refine Returns.bind ((hpresented hi).mono ?_)
        rintro o d _ ⟨hi, rfl⟩
        cases o with
        | none =>
          exact Returns.bind (returns_create (some user.id) uuid4 freshToken
            (fun d σ _ _ hw => hc d σ hw) (fun d s _ => returns_ret trivial) hi)
        | some presented =>
          refine Returns.bind (Returns.bind (returns_utcNow .const (fun d hi _ => ?_) hi trivial))
          rw [Prog.bind_eq, Prog.bind_eq, ← Prog.bind_assoc]
          refine Returns.bind (returns_flush_commit .const (fun _ d _ _ => hc d _ (.nothing rfl))
            (fun d Λ _ _ => hc d _ (.updated _ _ rfl)) (fun d hi => ?_) hi trivial)
          exact returns_refreshVisitorSession _ (fun d s _ => returns_ret trivial) hi

theorem returns_register (email password salt : String) (uuid4 : UUID)
    (hc : ∀ d σ row, σ.writes = [.insertUser row] → Written d σ → c.Commits security d σ)
    (hi : Unique d) : Returns security c (AuthService.register security email password salt uuid4)
      (fun _ _ _ => True) d ∅ := by
  refine Returns.bind (returns_any (fun d o hi => ?_) hi)
  cases o with
  | some _ => exact Returns.bind (returns_rollback (fun d _ => returns_raise _ _) hi)
  | none =>
    have hbody : always protocol (c.guard security)
        ((insertUser ⟨uuid4, security.normalizeEmail email, security.hashPassword password salt⟩).bind
          fun _ => Prog.commitTx) (fun r d σ => Unique d ∧ ∀ a, r = .ok a → σ = ∅) d ∅ := by
      refine always_bind (always_bind (always_ofPlan .const (fun d hi _ => ⟨trivial, ?_⟩) hi
        trivial))
      dsimp only
      split_ifs with hfits
      · exact always_commitTx .const
          (fun d hi _ => ⟨hc d _ _ rfl (.user _ rfl), ⟨hi.ids, hi.hashes⟩, fun _ _ => rfl⟩) hi trivial
      · exact ⟨hi, by rintro _ ⟨⟩⟩
    refine Returns.bind (always_tryCatch (always_mono (fun r d σ hr => ?_) hbody))
    cases r with
    | ok a =>
      obtain ⟨hi, rfl⟩ := hr.imp_right fun h => h a rfl
      rintro _ -
      exact returns_refreshUser uuid4 (fun d u _ => trivial) hi
    | error e =>
      dsimp only
      split_ifs with he
      · exact Returns.bind (returns_rollback (fun d _ => returns_raise _ _) hr.1)
      · exact returns_raise _ _

theorem returns_logout (token : String) (hi : Unique d) :
    Returns security (.logout (some token)) (VisitorSessionService.invalidate security token)
      (fun _ _ _ => True) d ∅ := by
  refine Returns.bind (returns_query .const (fun d o hi _ ho => ?_) hi trivial)
  cases o with
  | none => exact returns_ret trivial
  | some s =>
    have hs : s ∈ d.visitorSessions ∧ s.anonymousTokenHash = security.hashSessionToken token := by
      have hmem := List.mem_filter.1 (scalarOneOrNone_eq_some.1 ho ▸ List.mem_singleton_self s)
      exact ⟨hmem.1, of_decide_eq_true hmem.2⟩
    refine Returns.bind (returns_utcNow (keeps_row s.id (security.hashSessionToken token))
      (fun d hi hrow => ?_) hi ⟨s, hs.1, rfl, hs.2⟩)
    refine returns_flush_commit (K := fun d' => d.clock ≤ d'.clock ∧ ∃ s' ∈ d'.visitorSessions,
      s'.id = s.id ∧ s'.anonymousTokenHash = security.hashSessionToken token)
      ((keeps_clock _).and (keeps_row _ _)) ?_ ?_ (fun _ _ => trivial) hi ⟨le_rfl, hrow⟩
    · rintro - d' - ⟨-, s', hs', hid, hhash⟩
      exact ⟨.nothing rfl, token, rfl, s', hs', hhash, by simp⟩
    · rintro d' Λ - ⟨hclock, s', hs', hid, hhash⟩
      refine ⟨.updated _ _ rfl, token, rfl, s', hs', hhash, ?_⟩
      intro w hw
      refine ⟨_, hid ▸ List.mem_singleton.1 hw, fun e he => ?_⟩
      simp only [changesOf, Option.mem_def, Option.ite_none_left_eq_some, Option.some.injEq] at he
      exact he.2 ▸ hclock

/-- **Every call commits what it may commit.** -/
theorem Call.guarded (c : Call) (hi : Unique d) :
    Returns security c (c.prog security settings) (fun _ _ _ => True) d ∅ := by
  cases c with
  | createAnonymous uuid4 rawToken =>
    refine Returns.bind (returns_create none uuid4 rawToken (fun d σ row hw h => ⟨h, ?_⟩)
      (fun d s _ => returns_ret trivial) hi)
    simp [hw]
  | register email password salt uuid4 =>
    refine Returns.bind ((returns_register email password salt uuid4 (fun d σ row hw h => ⟨h, ?_⟩)
      hi).mono fun _ _ _ _ => returns_ret trivial)
    simp [hw]
  | login email password rawSessionToken uuid4 freshToken =>
    exact Returns.bind ((returns_login email password rawSessionToken uuid4 freshToken
      (fun d σ h => ⟨h, trivial⟩) hi).mono fun _ _ _ _ => returns_ret trivial)
  | logout cookie =>
    cases cookie with
    | none => exact returns_ret trivial
    | some token => exact Returns.bind ((returns_logout token hi).mono fun _ _ _ _ =>
        returns_ret trivial)
  | getActive rawToken touch =>
    exact Returns.bind (returns_getActive rawToken touch (fun _ d σ h h' => ⟨h, h'⟩)
      (fun d o _ => returns_ret trivial) hi)
  | currentSession cookie =>
    cases cookie with
    | none => exact returns_raise _ _
    | some token =>
      refine Returns.bind (Returns.bind (returns_getActive token false (by simp) (fun d o hi => ?_) hi))
      cases o with
      | none => exact returns_raise _ _
      | some s => exact returns_ret (returns_ret trivial)
  | tick elapsed =>
    refine Returns.bind (always_ofPlan .const (fun d hi _ => ⟨trivial, ?_⟩) hi trivial)
    rintro _ ⟨⟩
    exact Returns.bind (returns_commit .const
      (fun d _ _ => ⟨.time elapsed rfl, by simp⟩) (fun d _ => returns_ret trivial) hi trivial)

end

/-! ## The end of a session -/

/-- A configuration of the accounts. -/
abbrev AccountsConfig := Config Call Tables Write Lock Error Response

/-- No request has arrived yet. -/
abbrev start (d : Tables) : AccountsConfig := ⟨d, []⟩

/-- There is a session with this token, and its `expires_at` has been reached. -/
def Expired (d : Tables) (tokenHash : String) : Prop :=
  ∃ s ∈ d.visitorSessions, s.anonymousTokenHash = tokenHash ∧ s.expiresAt ≤ d.clock

/-- The `expires_at` that a write sets, with the id of the session. -/
def Write.expiry : Write → Option (UUID × Instant)
  | .updateVisitorSession id changes => changes.expiresAt.map fun e => (id, e)
  | _ => none

/-- The commit of `σ` undoes no logout: a login that commits a later `expires_at` for a session
    finds this session unexpired, and a logout that writes no `expires_at` (it has loaded the
    value that it would write) finds its session expired. -/
def Call.Timely (security : Security) (d : Tables) (σ : Session) : Call → Prop
  | .login .. => ∀ x ∈ σ.writes.filterMap Write.expiry, d.clock < x.2 →
      ∃ s ∈ d.visitorSessions, s.id = x.1 ∧ d.clock < s.expiresAt
  | .logout (some token) => σ.writes.filterMap Write.expiry = [] →
      ∀ s ∈ d.visitorSessions, s.anonymousTokenHash = security.hashSessionToken token →
        s.expiresAt ≤ d.clock
  | _ => True

instance (security : Security) (d : Tables) (σ : Session) (c : Call) :
    Decidable (c.Timely security d σ) :=
  match c with
  | .login .. => inferInstanceAs (Decidable (∀ x ∈ σ.writes.filterMap Write.expiry, d.clock < x.2 →
      ∃ s ∈ d.visitorSessions, s.id = x.1 ∧ d.clock < s.expiresAt))
  | .logout (some token) => inferInstanceAs (Decidable (σ.writes.filterMap Write.expiry = [] →
      ∀ s ∈ d.visitorSessions, s.anonymousTokenHash = security.hashSessionToken token →
        s.expiresAt ≤ d.clock))
  | .createAnonymous .. | .register .. | .logout none | .getActive .. | .currentSession _
  | .tick _ => inferInstanceAs (Decidable True)

/-- **The action undoes no logout.** -/
def Timely (security : Security) (cfg : AccountsConfig) : Action Call → Prop
  | .step i => ∀ t ∈ cfg.threads[i]?, ∀ σ ∈ t.status.committing, t.call.Timely security cfg.db σ
  | _ => True

instance (security : Security) (cfg : AccountsConfig) (a : Action Call) :
    Decidable (Timely security cfg a) :=
  match a with
  | .step i => inferInstanceAs (Decidable (∀ t ∈ cfg.threads[i]?, ∀ σ ∈ t.status.committing,
      t.call.Timely security cfg.db σ))
  | .arrive _ | .abort _ => inferInstanceAs (Decidable True)

section
variable {security : Security} {settings : Settings} {d₀ d : Tables} {cfg cfg' : AccountsConfig}
  {token hash : String} {touch : Bool}

/-- In every run the calls commit what they may commit. -/
theorem guarded_run {ok} (h : Unique d₀)
    (r : Run.Where (Call.prog security settings) ok (start d₀) cfg) :
    Guarded protocol (Call.guard security) (fun _ _ => True) cfg :=
  always_run h (fun c _ hi => always_mono (fun _ _ _ _ => trivial) (c.guarded hi))
    (fun _ _ σ _ hc => .single ⟨σ.writes, hc.1, rfl⟩) r

theorem mem_expiries {ws : List Write} {id : UUID} {e : Instant} :
    (id, e) ∈ ws.filterMap Write.expiry ↔
      ∃ changes, .updateVisitorSession id changes ∈ ws ∧ e ∈ changes.expiresAt := by
  rw [List.mem_filterMap]
  constructor
  · rintro ⟨w, hw, hx⟩
    cases w with
    | updateVisitorSession id' changes =>
      obtain ⟨e', he, heq⟩ := Option.map_eq_some_iff.1 hx
      cases heq
      exact ⟨changes, hw, he⟩
    | insertUser | insertVisitorSession | tick => cases hx
  · rintro ⟨changes, hw, he⟩
    exact ⟨_, hw, Option.map_eq_some_iff.2 ⟨e, he, rfl⟩⟩

/-- A commit that sets no later `expires_at` on an expired session. -/
theorem Expired.commit {σ : Session} (he : Expired d hash) (hi : Unique d) (hw : Written d σ)
    (hext : ∀ x ∈ σ.writes.filterMap Write.expiry, d.clock < x.2 →
      ∃ s ∈ d.visitorSessions, s.id = x.1 ∧ d.clock < s.expiresAt) :
    Expired (σ.view d) hash := by
  obtain ⟨s, hs, hhash, hexp⟩ := he
  unfold Session.view
  cases hw with
  | nothing h | user row h => rw [h]; exact ⟨s, hs, hhash, hexp⟩
  | created row h => rw [h]; exact ⟨s, List.mem_append_left _ hs, hhash, hexp⟩
  | time elapsed h =>
    rw [h]
    exact ⟨s, hs, hhash, hexp.trans (le_add_of_nonneg_right (Int.natCast_nonneg elapsed))⟩
  | updated id changes h =>
    rw [h] at hext ⊢
    refine ⟨_, List.mem_map_of_mem hs, by split_ifs <;> exact hhash, ?_⟩
    show (if s.id = id then changes.on s else s).expiresAt ≤ d.clock
    split_ifs with hid
    · show changes.expiresAt.getD s.expiresAt ≤ d.clock
      rcases hce : changes.expiresAt with _ | e
      · exact hexp
      · refine not_lt.1 fun hlt => ?_
        obtain ⟨s', hs', hid', hact⟩ :=
          hext (id, e) (mem_expiries.2 ⟨changes, List.mem_singleton_self _, hce⟩) hlt
        obtain rfl := Table.eq_of_key hi.ids hs' hs (hid'.trans hid.symm)
        exact absurd hexp (not_le.2 hact)
    · exact hexp

/-- **Timely actions keep a session expired.** -/
theorem expired_act {a : Action Call} (hg : Guarded protocol (Call.guard security) (fun _ _ => True) cfg)
    (hok : Timely security cfg a) (hact : cfg.act (Call.prog security settings) a = some cfg')
    (he : Expired cfg.db hash) : Expired cfg'.db hash := by
  cases a with
  | arrive c => cases hact; exact he
  | abort i =>
    obtain ⟨t, p, σ, -, -, -, hm⟩ := abort_cases hact
    rwa [hm.db]
  | step i =>
    obtain ⟨t, s', d', hp, hm⟩ := step_cases hact
    rw [hm.db]
    rcases hg.step hm.at_i hp with rfl | ⟨k, σ, hs, rfl, hw, hrole⟩
    · exact he
    · refine he.commit hg.inv hw fun ⟨id, e⟩ hx hlt => ?_
      have htimely := hok t hm.at_i σ (by rw [hs]; rfl)
      obtain ⟨changes, hmem, hce⟩ := mem_expiries.1 hx
      cases hc : t.call with
      | login =>
        rw [hc] at htimely
        exact htimely (id, e) hx hlt
      | logout cookie =>
        rw [hc] at hrole
        obtain ⟨token, -, s, -, -, hwrites⟩ := hrole
        obtain ⟨changes', heq, hle⟩ := hwrites _ hmem
        cases heq
        exact absurd hlt (not_lt.2 (hle e hce))
      | createAnonymous | register | getActive | currentSession | tick =>
        rw [hc] at hrole
        rw [hrole id changes hmem] at hce
        cases hce

/-- **A logout expires the session it has found.** -/
theorem logout_expires {i : ℕ} {t} {k : Tx Response} {σ : Session}
    (hg : Guarded protocol (Call.guard security) (fun _ _ => True) cfg)
    (hok : Timely security cfg (.step i))
    (hact : cfg.act (Call.prog security settings) (.step i) = some cfg')
    (ht : cfg.threads[i]? = some t) (hc : t.call = .logout (some token))
    (hs : t.status = .running (.commit k) σ) :
    Expired cfg'.db (security.hashSessionToken token) := by
  have hcommit : t.call.Commits security cfg.db σ := by
    have := hg.thread i t ht
    rw [hs] at this
    exact this.commit
  have htimely := hok t ht σ (by rw [hs]; rfl)
  rw [hc] at hcommit htimely
  obtain ⟨hw, token', htoken, s, hmem, hhash, hwrites⟩ := hcommit
  obtain rfl : token = token' := Option.some.inj htoken
  obtain ⟨t', s', d', hp, hm⟩ := step_cases hact
  obtain rfl : t = t' := Option.some.inj (ht.symm.trans hm.at_i)
  rw [hs] at hp
  obtain ⟨-, rfl⟩ := Progress.of_commit hp
  rw [hm.db]
  by_cases hset : σ.writes.filterMap Write.expiry = []
  · exact Expired.commit ⟨s, hmem, hhash, htimely hset s hmem hhash⟩ hg.inv hw (by simp [hset])
  · obtain ⟨⟨id, e⟩, hx⟩ := List.exists_mem_of_ne_nil _ hset
    obtain ⟨changes, hu, hce⟩ := mem_expiries.1 hx
    obtain ⟨changes', heq, hle⟩ := hwrites _ hu
    cases heq
    unfold Session.view
    cases hw with
    | nothing h | user row h | created row h | time elapsed h => rw [h] at hu; simp at hu
    | updated id' changes' h =>
      rw [h] at hu ⊢
      cases List.mem_singleton.1 hu
      refine ⟨_, List.mem_map_of_mem hmem, by split_ifs <;> exact hhash, ?_⟩
      show (if s.id = s.id then changes.on s else s).expiresAt ≤ cfg.db.clock
      rw [if_pos rfl]
      show changes.expiresAt.getD s.expiresAt ≤ cfg.db.clock
      rw [hce]
      exact hle e hce

/-! ## No session is found again -/

/-- The call is in a `get_active` that will find no session, or was aborted there. -/
inductive Unlucky (security : Security) (token : String) (touch : Bool)
    (k : Option VisitorSession → Tx Response) (now : Instant) :
    Status Tables Write Lock Error Response → Prop
  | query {σ : Session} : σ.writes = [] → Unlucky security token touch k now
      (.running ((VisitorSessionService.getActive security token touch).bind k) σ)
  | check {σ : Session} {o : Option VisitorSession} : σ.writes = [] →
      (∀ s ∈ o, s.expiresAt ≤ now) → Unlucky security token touch k now
        (.running ((VisitorSessionService.activeOf touch o).bind k) σ)
  | aborted : Unlucky security token touch k now .aborted

/-- **The `get_active` of call `i` has returned no session** between `cfg` and `cfg'`: the call
    is still in it, was aborted, or has gone on with `None`. -/
def FindsNone (security : Security) (settings : Settings) (token : String) (touch : Bool)
    (k : Option VisitorSession → Tx Response) (i : ℕ) (cfg cfg' : AccountsConfig) : Prop :=
  (∃ t, cfg'.threads[i]? = some t ∧ Unlucky security token touch k cfg'.db.clock t.status) ∨
    ∃ between, Run (Call.prog security settings) cfg between ∧
      Run (Call.prog security settings) between cfg' ∧
      ∃ t σ, between.threads[i]? = some t ∧ t.status = .running (k none) σ

/-- **The session of the token has ended**: a logout that found it has committed, or its
    `expires_at` has been reached, in a run of timely actions. -/
inductive Ended (security : Security) (settings : Settings) (d₀ : Tables) (token : String)
    (cfg : AccountsConfig) : Prop
  | logout {cfg₀ : AccountsConfig} {i : ℕ} {t : Thread Call Tables Write Lock Error Response}
      {k : Tx Response} {σ : Session} :
      Run.Where (Call.prog security settings) (Timely security) (start d₀) cfg₀ →
      Timely security cfg₀ (.step i) →
      cfg₀.act (Call.prog security settings) (.step i) = some cfg →
      cfg₀.threads[i]? = some t → t.call = .logout (some token) →
      t.status = .running (.commit k) σ → Ended security settings d₀ token cfg
  | expired : Run.Where (Call.prog security settings) (Timely security) (start d₀) cfg →
      Expired cfg.db (security.hashSessionToken token) → Ended security settings d₀ token cfg

/-- The clock does not go back. -/
theorem clock_act {a : Action Call}
    (hg : Guarded protocol (Call.guard security) (fun _ _ => True) cfg)
    (hact : cfg.act (Call.prog security settings) a = some cfg') : cfg.db.clock ≤ cfg'.db.clock := by
  cases a with
  | arrive c => cases hact; exact le_rfl
  | abort i =>
    obtain ⟨t, p, σ, -, -, -, hm⟩ := abort_cases hact
    rw [hm.db]
  | step i =>
    obtain ⟨t, s', d', hp, hm⟩ := step_cases hact
    rw [hm.db]
    rcases hg.step hm.at_i hp with rfl | ⟨k, σ, hs, rfl, hw, -⟩
    · exact le_rfl
    · have hkeeps : protocol.Keeps [] _ := keeps_clock cfg.db.clock
      exact hkeeps hg.inv (List.disjoint_nil_right σ.locks) ⟨σ.writes, hw, rfl⟩ le_rfl

theorem Unlucky.mono {k : Option VisitorSession → Tx Response} {now now' : Instant}
    {s : Status Tables Write Lock Error Response} (h : Unlucky security token touch k now s)
    (hle : now ≤ now') : Unlucky security token touch k now' s := by
  cases h with
  | query hσ => exact .query hσ
  | check hσ ho => exact .check hσ fun s hs => (ho s hs).trans hle
  | aborted => exact .aborted

/-- **One step of a `get_active` for an expired session.** -/
theorem Unlucky.progress {k : Option VisitorSession → Tx Response} {i : ℕ} {d' : Tables}
    {s s' : Status Tables Write Lock Error Response} (hi : Unique cfg.db)
    (he : Expired cfg.db (security.hashSessionToken token))
    (h : Unlucky security token touch k cfg.db.clock s) (hp : Progress cfg i s s' d') :
    Unlucky security token touch k cfg.db.clock s' ∨ ∃ σ, s' = .running (k none) σ := by
  cases h with
  | query hσ =>
    obtain ⟨-, rfl, -⟩ := Progress.of_stmt hp
    obtain ⟨s, hs, hhash, hexp⟩ := he
    have hrow : cfg.db.visitorSessions.filter (fun s =>
        s.anonymousTokenHash = security.hashSessionToken token) = [s] :=
      Table.filter_unique hi.hashes (k := security.hashSessionToken token) (by simp) hs
        (by simpa using hhash)
    simp only [Stmt.ofPlan, Session.view_of_no_writes _ hσ, hrow, scalarOneOrNone, List.append_nil]
    exact Or.inl (.check (o := some s) hσ fun s' hs' => Option.some.inj hs' ▸ hexp)
  | check hσ ho =>
    obtain ⟨-, rfl, -⟩ := Progress.of_stmt hp
    rename_i σ o
    cases o with
    | none => exact Or.inr ⟨_, rfl⟩
    | some s =>
      have hexp : s.expiresAt ≤ (σ.view cfg.db).clock := by
        rw [Session.view_of_no_writes _ hσ]
        exact ho s rfl
      refine Or.inr ⟨_, congrArg₂ Status.running ?_ rfl⟩
      show Prog.bind (if s.expiresAt ≤ (σ.view cfg.db).clock then return none else _) k = k none
      rw [if_pos hexp]
      rfl
  | aborted => cases hp.isRunning

/-- **One action** while a call looks for an expired session. -/
theorem unlucky_act {k : Option VisitorSession → Tx Response} {i : ℕ} {a : Action Call} {t}
    (hg : Guarded protocol (Call.guard security) (fun _ _ => True) cfg)
    (hact : cfg.act (Call.prog security settings) a = some cfg')
    (he : Expired cfg.db (security.hashSessionToken token)) (ht : cfg.threads[i]? = some t)
    (h : Unlucky security token touch k cfg.db.clock t.status) :
    ∃ t', cfg'.threads[i]? = some t' ∧ (Unlucky security token touch k cfg'.db.clock t'.status ∨
      ∃ σ, t'.status = .running (k none) σ) := by
  have hclock := clock_act hg hact
  cases a with
  | arrive c =>
    cases hact
    refine ⟨t, ?_, Or.inl h⟩
    rw [List.getElem?_append_left (List.getElem?_eq_some_iff.1 ht).1, ht]
  | abort j =>
    obtain ⟨tj, p, σ, -, -, -, hm⟩ := abort_cases hact
    by_cases hij : j = i
    · subst hij
      exact ⟨_, hm.get_self, Or.inl .aborted⟩
    · exact ⟨t, hm.get_other hij ▸ ht, Or.inl (h.mono hclock)⟩
  | step j =>
    obtain ⟨tj, s', d', hp, hm⟩ := step_cases hact
    by_cases hij : j = i
    · subst hij
      obtain rfl : t = tj := Option.some.inj (ht.symm.trans hm.at_i)
      refine ⟨_, hm.get_self, (h.progress hg.inv he hp).imp_left fun h => h.mono hclock⟩
    · exact ⟨t, hm.get_other hij ▸ ht, Or.inl (h.mono hclock)⟩

/-- A session that has ended is expired. -/
theorem Ended.expired_and_run (h : Unique d₀) (he : Ended security settings d₀ token cfg) :
    Expired cfg.db (security.hashSessionToken token) ∧
      Run.Where (Call.prog security settings) (Timely security) (start d₀) cfg := by
  cases he with
  | logout r hok hact ht hc hs =>
    exact ⟨logout_expires (guarded_run h r) hok hact ht hc hs, r.tail _ hok hact⟩
  | expired r hexp => exact ⟨hexp, r⟩

/-- A session stays expired in a run of timely actions. -/
theorem expired_run (h : Unique d₀) {cfg₁ : AccountsConfig}
    (r : Run.Where (Call.prog security settings) (Timely security) (start d₀) cfg)
    (r₁ : Run.Where (Call.prog security settings) (Timely security) cfg cfg₁)
    (he : Expired cfg.db hash) : Expired cfg₁.db hash := by
  induction r₁ with
  | refl => exact he
  | tail a r' hok hact ih => exact expired_act (guarded_run h (r.trans r')) hok hact ih

/-- **Logout is final.**  Once the session of a token has ended, no `get_active` of the token
    that starts later returns a session. -/
theorem logout_final {cfg₁ cfg₂ : AccountsConfig} {i : ℕ} {t} {σ : Session}
    {k : Option VisitorSession → Tx Response} (h : Unique d₀)
    (he : Ended security settings d₀ token cfg)
    (r₁ : Run.Where (Call.prog security settings) (Timely security) cfg cfg₁)
    (ht : cfg₁.threads[i]? = some t) (hσ : σ.writes = [])
    (hs : t.status = .running ((VisitorSessionService.getActive security token touch).bind k) σ)
    (r₂ : Run.Where (Call.prog security settings) (Timely security) cfg₁ cfg₂) :
    FindsNone security settings token touch k i cfg₁ cfg₂ := by
  obtain ⟨hexp, r⟩ := he.expired_and_run h
  have hexp₁ := expired_run h r r₁ hexp
  induction r₂ with
  | refl => exact Or.inl ⟨t, ht, hs ▸ .query hσ⟩
  | tail a r' hok hact ih =>
    have rtail : Run (Call.prog security settings) _ _ := .tail a (.refl _) trivial hact
    rcases ih with ⟨t', ht', hu⟩ | ⟨between, ra, rb, hk⟩
    · have hg := guarded_run h ((r.trans r₁).trans r')
      obtain ⟨t'', ht'', hu | ⟨σ', hk⟩⟩ :=
        unlucky_act hg hact (expired_run h (r.trans r₁) r' hexp₁) ht' hu
      · exact Or.inl ⟨t'', ht'', hu⟩
      · exact Or.inr ⟨_, (r'.mono fun _ _ _ => trivial).trans rtail, .refl _, t'', σ', ht'', hk⟩
    · exact Or.inr ⟨between, ra, rb.trans rtail, hk⟩

end

/-! ## A logout that is undone -/

namespace Sample

def tokenHash : String := "e3b98a4da31a127d4bde6e43033f66ba274cab0eb7eb1c70ec41402bf6273dd8"

/-- The functions of core/security.py on the token and the password of the sample. -/
def security : Security where
  hashSessionToken token := if token = "t" then tokenHash else token
  hashPassword password _ := password
  verifyPassword password encoded := password = "correct-horse" && encoded = "encoded"
  normalizeEmail email := email

def settings : Settings := ⟨60⟩

/-- A user, and an anonymous session with the token `t`. -/
def tables : Tables where
  users := [⟨1, "alice@example.com", "encoded"⟩]
  visitorSessions := [⟨7, none, tokenHash, 0, 1000⟩]
  clock := 5

theorem unique_tables : Unique tables := ⟨by decide, by decide⟩

/-- A login has found the session active; a logout is about to commit. -/
def overtaken : List (Action Call) :=
  .arrive (.login "alice@example.com" "correct-horse" (some "t") 8 "u") ::
    List.replicate 5 (.step 0) ++ .arrive (.logout (some "t")) :: List.replicate 3 (.step 1)

/-- The login commits, and the token is presented again. -/
def revived : List (Action Call) :=
  List.replicate 3 (.step 0) ++ .arrive (.getActive "t" false) :: List.replicate 3 (.step 2)

/-- The logout commits. -/
def loggedOut : AccountsConfig :=
  (start tables).after (Call.prog security settings) (overtaken ++ [.step 1])

end Sample

/-- **A login undoes a logout.** -/
theorem logout_undone : ∃ cfg₀ cfg₂ t k σ t' s,
    Run (Call.prog Sample.security Sample.settings) (start Sample.tables) cfg₀ ∧
    cfg₀.threads[1]? = some t ∧ t.call = .logout (some "t") ∧ t.status = .running (.commit k) σ ∧
    cfg₀.act (Call.prog Sample.security Sample.settings) (.step 1) = some Sample.loggedOut ∧
    Run (Call.prog Sample.security Sample.settings) Sample.loggedOut cfg₂ ∧
    Sample.loggedOut.threads.length = 2 ∧ cfg₂.threads[2]? = some t' ∧
    t'.call = .getActive "t" false ∧ t'.status = .returned (.ok (.active (some s))) :=
  ⟨(start Sample.tables).after (Call.prog Sample.security Sample.settings) Sample.overtaken,
    Sample.loggedOut.after (Call.prog Sample.security Sample.settings) Sample.revived,
    _, _, _, _, _, run_after (by decide), rfl, rfl, rfl, rfl, run_after (by decide), rfl, rfl, rfl, rfl⟩

namespace Sample

/-- A logout has committed. -/
def ended : AccountsConfig :=
  (start tables).after (Call.prog security settings)
    (.arrive (.logout (some "t")) :: List.replicate 4 (.step 0))

/-- The token is presented after the logout. -/
def presentedLater : AccountsConfig :=
  ended.after (Call.prog security settings) [.arrive (.getActive "t" false)]

theorem ended_ended : Ended security settings tables "t" ended := by
  have r : Run.Where (Call.prog security settings) (Timely security) (start tables)
      ((start tables).after (Call.prog security settings)
        (.arrive (.logout (some "t")) :: List.replicate 3 (.step 0))) :=
    Config.Meets.run (by decide) (by decide)
  exact .logout (i := 0) r (by decide) rfl rfl rfl rfl

end Sample

theorem logout_final_presented : ∃ k : Option VisitorSession → Tx Response,
    FindsNone Sample.security Sample.settings "t" false k 1 Sample.presentedLater
      (Sample.presentedLater.after (Call.prog Sample.security Sample.settings)
        [.step 1, .step 1]) :=
  ⟨_, logout_final Sample.unique_tables Sample.ended_ended
    (Config.Meets.run (by decide) (by decide)) rfl rfl rfl (Config.Meets.run (by decide) (by decide))⟩

end TicketReservation.Accounts
