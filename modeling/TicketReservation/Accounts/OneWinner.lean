/-
  Of all registrations with one form of e-mail, one wins.

  The winner is decided by the unique index.  All others raise
  `EmailAlreadyRegisteredError` and write nothing, and from then on a login with
  any spelling of the e-mail is decided by the password hash of the winner.

  * `Consulting`: how far a login has come that looks up a registered e-mail;
  * `Wins`, `OneWinner`: what is said about one form of e-mail;
  * `one_registration`: this holds in every run.
-/
import TicketReservation.Accounts.Register

namespace TicketReservation.Accounts

open Txn AuthService

/-! ## Logins -/

namespace AuthService

/-- `login` when the user was found. -/
def loginAs (security : Security) (settings : Settings) (password : String)
    (rawSessionToken : Option String) (uuid4 : UUID) (freshToken : String) (found : User) :
    Tx LoginResult :=
  if !security.verifyPassword password found.passwordHash then .raise .invalidCredentialsError
  else do
    match ← getById found.id with
    | none =>
      Prog.rollback
      .raise .invalidCredentialsError
    | some user =>
      let visitorSession ← presented security rawSessionToken
      linkOrCreate security settings user uuid4 freshToken visitorSession

end AuthService

/-- The user is logged in, or the call fails for another reason than the password. -/
def LogsIn (user : User) (r : Except Error Response) : Prop :=
  r ≠ .error .invalidCredentialsError ∧
    ∀ a, r = .ok a → ∃ result : LoginResult, a = .loggedIn result ∧ result.user = user

/-- **How far a login has come** whose e-mail is that of `user`. -/
inductive Consulting (security : Security) (settings : Settings) (email password : String)
    (rawSessionToken : Option String) (uuid4 : UUID) (freshToken : String) (user : User) :
    AccountStatus → Prop
  | looking : Consulting security settings email password rawSessionToken uuid4 freshToken user
      (.running ((login security settings email password rawSessionToken uuid4 freshToken).map
        .loggedIn) ∅)
  | found : Consulting security settings email password rawSessionToken uuid4 freshToken user
      (.running ((Prog.rollback.bind fun _ =>
        loginAs security settings password rawSessionToken uuid4 freshToken user).map .loggedIn) ∅)
  | checking : Consulting security settings email password rawSessionToken uuid4 freshToken user
      (.running ((loginAs security settings password rawSessionToken uuid4 freshToken user).map
        .loggedIn) ∅)
  | rejected : security.verifyPassword password user.passwordHash = false →
      Consulting security settings email password rawSessionToken uuid4 freshToken user
        (.returned (.error .invalidCredentialsError))
  | accepted {s : AccountStatus} (d : Tables) :
      security.verifyPassword password user.passwordHash = true →
      s.Always anyone freshTransactions (LogsIn user) d →
      Consulting security settings email password rawSessionToken uuid4 freshToken user s
  | aborted : Consulting security settings email password rawSessionToken uuid4 freshToken user .aborted

section
variable {security : Security} {settings : Settings} {email password : String}
  {rawSessionToken : Option String} {uuid4 : UUID} {freshToken : String} {user : User}

/-- When the password was right. -/
theorem transacts_accepted : Transacts (· ≠ .invalidCredentialsError)
    (fun a => ∃ result : LoginResult, a = .loggedIn result ∧ result.user = user)
    (((presented security rawSessionToken).bind fun visitorSession =>
      linkOrCreate security settings user uuid4 freshToken visitorSession).map Response.loggedIn) := by
  have hE : ∀ e : Error, e ≠ .invalidCredentialsError → e ≠ .invalidCredentialsError := fun _ h => h
  refine Transacts.bind (Transacts.seq (transacts_presented hE rawSessionToken) fun visitorSession => ?_)
  exact (transacts_linkOrCreate hE user uuid4 freshToken visitorSession).mono fun result h =>
    .ret ⟨result, rfl, h⟩

namespace Consulting
variable {cfg : AccountsConfig} {i : ℕ} {s s' : AccountStatus} {d' : Tables}

/-- **One step of a login**: it finds the user, checks the password with the hash of the user, and
    goes on with this user. -/
theorem progress (hu : UniqueUsers cfg.db.users) (hmem : user ∈ cfg.db.users)
    (hemail : security.normalizeEmail email = user.email)
    (h : Consulting security settings email password rawSessionToken uuid4 freshToken user s)
    (hp : Progress cfg i s s' d') :
    Consulting security settings email password rawSessionToken uuid4 freshToken user s' := by
  cases h with
  | looking =>
    obtain ⟨-, rfl, rfl⟩ := Progress.of_stmt hp
    have hrow : cfg.db.users.find? (fun u => u.email = security.normalizeEmail email) = some user :=
      (Table.find?_eq_some_iff hu.emails (k := security.normalizeEmail email) (by simp)).2
        ⟨hmem, by simp [hemail]⟩
    simp only [Stmt.ofPlan, Session.view_empty, scalarOneOrNone_key hu.emails, hrow, List.append_nil]
    exact .found
  | found =>
    obtain ⟨-, rfl, rfl⟩ := Progress.of_stmt hp
    exact .checking
  | checking =>
    cases hv : security.verifyPassword password user.passwordHash with
    | false =>
      have hprog : loginAs security settings password rawSessionToken uuid4 freshToken user =
          .raise .invalidCredentialsError := if_pos (by rw [hv]; rfl)
      rw [hprog] at hp
      obtain ⟨rfl, -⟩ := Progress.of_raise hp
      exact .rejected hv
    | true =>
      unfold loginAs at hp
      rw [if_neg (by rw [hv]; exact Bool.false_ne_true)] at hp
      obtain ⟨-, rfl, rfl⟩ := Progress.of_stmt hp
      have hrow : cfg.db.users.find? (fun u => u.id = user.id) = some user :=
        (Table.find?_eq_some_iff hu.ids (k := user.id) (by simp)).2 ⟨hmem, by simp⟩
      simp only [Stmt.ofPlan, Session.view_empty, scalarOneOrNone_key hu.ids, hrow, List.append_nil]
      refine .accepted cfg.db hv (always_mono (fun r d σ hr => ?_) (transacts_accepted cfg.db))
      obtain ⟨-, hr⟩ := hr
      cases r with
      | ok a => exact ⟨by rintro ⟨⟩, by rintro _ ⟨⟩; exact hr⟩
      | error e => exact ⟨fun h => hr (Except.error.inj h), by rintro _ ⟨⟩⟩
  | rejected => cases hp.isRunning
  | accepted d hv ha =>
    exact .accepted d' hv ((ha.others (.single trivial) (List.disjoint_nil_left _)).progress hp)
  | aborted => cases hp.isRunning

/-- What a login has answered. -/
theorem returned {r : Except Error Response}
    (h : Consulting security settings email password rawSessionToken uuid4 freshToken user
      (.returned r)) :
    (security.verifyPassword password user.passwordHash = false ∧
        r = .error .invalidCredentialsError) ∨
      security.verifyPassword password user.passwordHash = true ∧ LogsIn user r := by
  generalize hs : (Status.returned r : AccountStatus) = s at h
  cases h with
  | looking | found | checking | aborted => cases hs
  | rejected hv => cases hs; exact Or.inl ⟨hv, rfl⟩
  | accepted d hv ha => rw [← hs] at ha; exact Or.inr ⟨hv, ha⟩

end Consulting

end

/-! ## One form of e-mail -/

/-- The call registers an e-mail with this form. -/
def Call.Registers (security : Security) (form : String) : Call → Prop
  | .register email _ _ _ => security.normalizeEmail email = form
  | _ => False

/-- The registration `i` of an e-mail with this form has succeeded. -/
def Wins (security : Security) (form : String) (cfg : AccountsConfig) (i : ℕ) : Prop :=
  ∃ t user, cfg.threads[i]? = some t ∧ t.call.Registers security form ∧
    t.status = .returned (.ok (.registered user))

/-- Call `i` has changed nothing on the way from `d₀` to `cfg`. -/
def WroteNothing (security : Security) (settings : Settings) (d₀ : Tables) (cfg : AccountsConfig)
    (i : ℕ) : Prop :=
  ∀ c c', Run (Call.endpoint security settings) (start d₀) c →
    c.act (Call.endpoint security settings) (.step i) = some c' →
    Run (Call.endpoint security settings) c' cfg → c'.db = c.db

/-- **The registrations and logins with this form of e-mail**, in a run from `d₀` to `cfg`. -/
structure OneWinner (security : Security) (settings : Settings) (d₀ : Tables) (cfg : AccountsConfig)
    (form : String) : Prop where
  /-- a registration commits its user or raises the exception and writes nothing -/
  answers : ∀ (i : ℕ) (t : AccountThread) r, cfg.threads[i]? = some t → t.call.Registers security form →
    t.status = .returned r →
    (∃ user ∈ cfg.db.users, user.email = form ∧
        (t.call.validated security).newUser security = some user ∧ r = .ok (.registered user)) ∨
      r = .error .emailAlreadyRegisteredError ∧ WroteNothing security settings d₀ cfg i
  /-- none succeeds if the e-mail was registered before -/
  taken : (∃ u ∈ d₀.users, u.email = form) → ∀ i, ¬ Wins security form cfg i
  atMostOne : ∀ i j, Wins security form cfg i → Wins security form cfg j → i = j
  /-- one succeeds otherwise -/
  one : (∀ u ∈ d₀.users, u.email ≠ form) →
    (∃ t ∈ cfg.threads, t.call.Registers security form) →
    (∀ t ∈ cfg.threads, t.call.Registers security form → ∃ r, t.status = .returned r) →
    ∃! i, Wins security form cfg i
  /-- a login that looks up the e-mail of a user is decided by the password hash of this user -/
  login : ∀ cfg₁ user, Run (Call.endpoint security settings) (start d₀) cfg₁ →
    Run (Call.endpoint security settings) cfg₁ cfg → user ∈ cfg₁.db.users → user.email = form →
    ∀ (j : ℕ) (t : AccountThread) email password rawSessionToken uuid4 freshToken r,
      (∀ t₁ : AccountThread, cfg₁.threads[j]? = some t₁ →
        t₁.status = .running (t₁.call.endpoint security settings) ∅) →
      cfg.threads[j]? = some t → t.call = .login email password rawSessionToken uuid4 freshToken →
      security.normalizeEmail email = form → t.status = .returned r →
      (security.verifyPassword password user.passwordHash = false ∧
          r = .error .invalidCredentialsError) ∨
        security.verifyPassword password user.passwordHash = true ∧ LogsIn user r

section
variable {security : Security} {settings : Settings} {d₀ : Tables} {cfg cfg₁ : AccountsConfig}
  {i j : ℕ} {t : AccountThread} {form : String}

/-- No action deletes a user. -/
theorem Registry.users_act {a : Action Call} (h : Registry security d₀ cfg₁)
    (hact : cfg₁.act (Call.endpoint security settings) a = some cfg) :
    cfg₁.db.users ⊆ cfg.db.users := by
  cases a with
  | arrive c => cases hact; exact fun _ hu => hu
  | abort i =>
    obtain ⟨t, p, σ, -, -, -, hm⟩ := abort_cases hact
    rw [hm.db]
    exact fun _ hu => hu
  | step i =>
    obtain ⟨t, s', d', hp, hm⟩ := step_cases hact
    rw [hm.db]
    rcases ((h.calls i t hm.at_i).progress h.users hp).2 with hd | ⟨user, -, hd, -⟩
    · exact hd ▸ fun _ hu => hu
    · exact hd ▸ fun _ hu => List.mem_append_left _ hu

theorem users_run (hu : UniqueUsers d₀.users)
    (r₁ : Run (Call.endpoint security settings) (start d₀) cfg₁)
    (r : Run (Call.endpoint security settings) cfg₁ cfg) (hf : FreshUserIds d₀ cfg) :
    cfg₁.db.users ⊆ cfg.db.users := by
  induction r with
  | refl => exact fun _ h => h
  | tail a r' _ hact ih =>
    have hf' := hf.of_prefix (act_calls hact)
    exact List.Subset.trans (ih hf') ((registry_run hu (r₁.trans r') hf').users_act hact)

theorem Call.Registers.newUser {c : Call} (h : c.Registers security form)
    (hidem : ∀ e, security.normalizeEmail (security.normalizeEmail e) = security.normalizeEmail e) :
    ∃ user, (c.validated security).newUser security = some user ∧ user.email = form := by
  cases c with
  | register email password salt uuid4 => exact ⟨_, rfl, (hidem email).trans h⟩
  | createAnonymous | login | logout | getActive | currentSession | tick => cases h

/-- The registration of a row registers its e-mail. -/
theorem Call.registers_of_newUser {c : Call} {user : User}
    (h : (c.validated security).newUser security = some user)
    (hidem : ∀ e, security.normalizeEmail (security.normalizeEmail e) = security.normalizeEmail e) :
    c.Registers security user.email := by
  cases c with
  | register email password salt uuid4 => cases h; exact (hidem email).symm
  | createAnonymous | login | logout | getActive | currentSession | tick => cases h

/-- **A refused registration has written nothing.** -/
theorem wroteNothing (hu : UniqueUsers d₀.users) (hf : FreshUserIds d₀ cfg)
    (ht : cfg.threads[i]? = some t) {user : User}
    (hn : (t.call.validated security).newUser security = some user)
    (hnew : NewId user cfg.db.users) : WroteNothing security settings d₀ cfg i := by
  intro c c' r hact r'
  have hf' : FreshUserIds d₀ c' := hf.of_prefix r'.calls
  have h := registry_run hu r (hf'.of_prefix (act_calls hact))
  obtain ⟨t', s', d', hp, hm⟩ := step_cases hact
  obtain ⟨t₂, ht₂, hcall, -⟩ := r'.thread hm.get_self
  obtain rfl : t₂ = t := Option.some.inj (ht₂.symm.trans ht)
  rw [show t₂.call = t'.call from hcall] at hn
  rw [hm.db]
  rcases (((h.calls i t' hm.at_i).registering hn).progress h.users hp).2 with hd | ⟨hd, -⟩
  · exact hd
  · -- the row would still be there
    have hmem : user ∈ c'.db.users := by
      rw [hm.db, hd]
      exact List.mem_append_right _ (List.mem_singleton_self user)
    have hlast := users_run hu (r.tail (.step i) trivial hact) r' hf hmem
    exact absurd rfl (hnew user hlast)

/-- A login that has not looked up the e-mail of a registered user yet. -/
theorem consulting_run (hu : UniqueUsers d₀.users) {user : User} {email password : String}
    {rawSessionToken : Option String} {uuid4 : UUID} {freshToken : String}
    (r₁ : Run (Call.endpoint security settings) (start d₀) cfg₁)
    (r : Run (Call.endpoint security settings) cfg₁ cfg) (hf : FreshUserIds d₀ cfg)
    (hmem : user ∈ cfg₁.db.users)
    (hemail : security.normalizeEmail (security.normalizeEmail email) = user.email)
    (hstart : ∀ t₁, cfg₁.threads[j]? = some t₁ →
      t₁.status = .running (t₁.call.endpoint security settings) ∅)
    (ht : cfg.threads[j]? = some t)
    (hc : t.call = .login email password rawSessionToken uuid4 freshToken) :
    Consulting security settings (security.normalizeEmail email) password rawSessionToken uuid4
      freshToken user t.status := by
  induction r generalizing t with
  | refl =>
    rw [hstart t ht, hc]
    exact .looking
  | @tail c c' a r' _ hact ih =>
    have hf' := hf.of_prefix (act_calls hact)
    have h := registry_run hu (r₁.trans r') hf'
    cases a with
    | arrive c =>
      cases hact
      rcases arrive_cases ht with ht' | ⟨rfl, rfl⟩
      · exact ih hf' ht' hc
      · obtain rfl : c = _ := hc
        exact .looking
    | abort i =>
      obtain ⟨t', p, σ, -, -, -, hm⟩ := abort_cases hact
      by_cases hij : i = j
      · subst hij
        rw [hm.get_self] at ht
        cases ht
        exact .aborted
      · exact ih hf' (hm.get_other hij ▸ ht) hc
    | step i =>
      obtain ⟨t', s', d', hp, hm⟩ := step_cases hact
      by_cases hij : i = j
      · subst hij
        rw [hm.get_self] at ht
        cases ht
        exact (ih hf' hm.at_i hc).progress h.users (users_run hu r₁ r' hf' hmem) hemail hp
      · exact ih hf' (hm.get_other hij ▸ ht) hc

/-- **What a registration that has returned has done.** -/
theorem Registry.returned (h : Registry security d₀ cfg) {user : User} {r : Except Error Response}
    (ht : cfg.threads[i]? = some t) (hn : (t.call.validated security).newUser security = some user)
    (hs : t.status = .returned r) :
    user ∈ cfg.db.users ∧ r = .ok (.registered user) ∨ NewId user cfg.db.users ∧
      ¬ NewEmail user cfg.db.users ∧ r = .error .emailAlreadyRegisteredError := by
  have hb := (h.calls i t ht).registering hn
  rw [hs] at hb
  exact hb.returned

/-- A winner is the user with this e-mail. -/
theorem Registry.of_wins (h : Registry security d₀ cfg)
    (hidem : ∀ e, security.normalizeEmail (security.normalizeEmail e) = security.normalizeEmail e)
    (hw : Wins security form cfg i) : ∃ t, cfg.threads[i]? = some t ∧ ∃ user ∈ cfg.db.users,
      user.email = form ∧ t.call.newUserId = some user.id := by
  obtain ⟨t, _, ht, hreg, hs⟩ := hw
  obtain ⟨user, hn, hemail⟩ := hreg.newUser hidem
  rcases h.returned ht hn hs with ⟨hmem, -⟩ | ⟨-, -, hr⟩
  · exact ⟨t, ht, user, hmem, hemail, Call.newUserId_of_newUser hn⟩
  · cases hr

/-- **The registrations with one form of e-mail have one winner.** -/
theorem oneWinner (hu : UniqueUsers d₀.users) (hf : FreshUserIds d₀ cfg)
    (hidem : ∀ e, security.normalizeEmail (security.normalizeEmail e) = security.normalizeEmail e)
    (r : Run (Call.endpoint security settings) (start d₀) cfg) (form : String) :
    OneWinner security settings d₀ cfg form := by
  have h := registry_run hu r hf
  have hone : ∀ i j, Wins security form cfg i → Wins security form cfg j → i = j := by
    intro i j hi hj
    obtain ⟨t, ht, user, hmem, hemail, hid⟩ := h.of_wins hidem hi
    obtain ⟨t', ht', user', hmem', hemail', hid'⟩ := h.of_wins hidem hj
    obtain rfl := Table.eq_of_key h.users.emails hmem hmem' (hemail.trans hemail'.symm)
    by_contra hij
    exact hf.ne hij ht ht' hid hid' rfl
  refine ⟨?_, ?_, hone, ?_, ?_⟩
  · intro i t r ht hreg hs
    obtain ⟨user, hn, hemail⟩ := hreg.newUser hidem
    rcases h.returned ht hn hs with ⟨hmem, rfl⟩ | ⟨hnew, -, rfl⟩
    · exact Or.inl ⟨user, hmem, hemail, hn, rfl⟩
    · exact Or.inr ⟨rfl, wroteNothing hu hf ht hn hnew⟩
  · rintro ⟨u, hold, hu'⟩ i hw
    obtain ⟨t, ht, user, hmem, hemail, hid⟩ := h.of_wins hidem hw
    obtain rfl := Table.eq_of_key h.users.emails (h.kept hold) hmem (hu'.trans hemail.symm)
    exact hf.not_old (List.mem_map_of_mem (List.mem_of_getElem? ht)) hid u hold rfl
  · rintro hfree ⟨t, hmem, hreg⟩ hall
    -- the e-mail is registered, by a call that has not been refused
    have htaken : ∃ u ∈ cfg.db.users, u.email = form := by
      obtain ⟨i, hi, rfl⟩ := List.getElem_of_mem hmem
      obtain ⟨r, hs⟩ := hall _ hmem hreg
      obtain ⟨user, hn, hemail⟩ := hreg.newUser hidem
      rcases h.returned (List.getElem?_eq_getElem hi) hn hs with ⟨huser, -⟩ | ⟨-, htaken, -⟩
      · exact ⟨user, huser, hemail⟩
      · exact hemail ▸ not_newEmail.1 htaken
    obtain ⟨u, huser, hemail⟩ := htaken
    rcases h.origin u huser with hold | ⟨c, hc, hn⟩
    · exact absurd hemail (hfree u hold)
    · obtain ⟨t', ht', rfl⟩ := List.mem_map.1 hc
      obtain ⟨i, hi, rfl⟩ := List.getElem_of_mem ht'
      have hreg' : cfg.threads[i].call.Registers security form :=
        hemail ▸ Call.registers_of_newUser hn hidem
      obtain ⟨r, hs⟩ := hall _ ht' hreg'
      have hwin : Wins security form cfg i := by
        rcases h.returned (List.getElem?_eq_getElem hi) hn hs with ⟨-, rfl⟩ | ⟨hnew, -, -⟩
        · exact ⟨_, u, List.getElem?_eq_getElem hi, hreg', hs⟩
        · exact absurd rfl (hnew u huser)
      exact ⟨i, hwin, fun j hj => hone j i hj hwin⟩
  · intro cfg₁ user r₁ r₂ hmem hemail j t email password rawSessionToken uuid4 freshToken r hstart ht
      hc hform hs
    have hcons := consulting_run hu r₁ r₂ hf hmem ((hidem email).trans (hform.trans hemail.symm)) hstart
      ht hc
    rw [hs] at hcons
    exact hcons.returned

/-- **Racing registrations have one winner**, whatever runs in between; and every run can be brought
    to its end. -/
theorem one_registration {table : Text.CaseTable isSpace} (hn : security.Normalizes table)
    (hu : UniqueUsers d₀.users) (r : Run (Call.endpoint security settings) (start d₀) cfg)
    (hf : FreshUserIds d₀ cfg) :
    (cfg.db.users.map User.email).Nodup ∧ (∀ form, OneWinner security settings d₀ cfg form) ∧
      ∃ cfg', Run (Call.endpoint security settings) cfg cfg' ∧ cfg'.Finished ∧
        cfg'.threads.map Thread.call = cfg.threads.map Thread.call :=
  have h := registry_run hu r hf
  ⟨h.users.emails, oneWinner hu hf hn.idem r, h.exists_finished⟩

end

namespace Sample

def capitals : List (Char × Char) :=
  "ABCDEFGHIJKLMNOPQRSTUVWXYZ".toList.zip "abcdefghijklmnopqrstuvwxyz".toList

/-- The lower case of ASCII. -/
def asciiLower (c : Char) : List Char :=
  if c = 'Σ' then ['σ'] else [(capitals.lookup c).getD c]

theorem asciiLower_spec {c x : Char} (hx : x ∈ asciiLower c) :
    (x ≠ 'Σ' ∧ asciiLower x = [x]) ∧ isSpace x = isSpace c := by
  have hcapitals : ∀ p ∈ capitals, (p.2 ≠ 'Σ' ∧ asciiLower p.2 = [p.2]) ∧ isSpace p.2 = isSpace p.1 := by
    decide +kernel
  by_cases hc : c = 'Σ'
  · subst hc
    obtain rfl : x = 'σ' := List.mem_singleton.1 hx
    decide +kernel
  · rw [asciiLower, if_neg hc, List.mem_singleton] at hx
    cases hl : capitals.lookup c with
    | none =>
      rw [hl] at hx
      obtain rfl : x = c := hx
      exact ⟨⟨hc, by rw [asciiLower, if_neg hc, hl]; rfl⟩, rfl⟩
    | some y =>
      rw [hl] at hx
      obtain rfl : x = y := hx
      obtain ⟨l₁, l₂, heq, -⟩ := List.lookup_eq_some_iff.1 hl
      exact hcapitals (c, x) (heq ▸ by simp)

def asciiCases : Text.CaseTable isSpace where
  toLowerFull := asciiLower
  isCased c := c.isAlpha
  isCaseIgnorable c := c = '.' || c = ':' || c = '\''
  ne_nil c := by unfold asciiLower; split <;> exact List.cons_ne_nil _ _
  stable c x hx := (asciiLower_spec hx).1
  space c x hx := (asciiLower_spec hx).2
  sigma x hx := by
    rcases List.mem_pair.1 hx with rfl | rfl
    · decide
    · decide

/-- The functions of core/security.py on the texts of the sample. -/
def normalizing : Security where
  hashSessionToken token := "#" ++ token
  hashPassword password salt := salt ++ password
  verifyPassword password encoded := encoded = "s" ++ password || encoded = "t" ++ password
  normalizeEmail email := asciiCases.lower (strip email)

/-- One user is registered. -/
def registered : Tables where
  users := [⟨1, "bo@x.io", "sbobs-password"⟩]
  clock := 5

/-- Two calls register an e-mail in different spellings; both look it up before one inserts it.
    A third call registers the e-mail of the user.  When the first call has committed, a login
    spells the e-mail in its own way. -/
def racing : List (Action Call) :=
  [.arrive (.register "Al@x.io" "correct-horse" "s" 2),
    .arrive (.register " al@X.io" "battery-staple" "t" 3),
    .arrive (.register "BO@x.io" "guessed-it" "s" 4), .step 0, .step 1, .step 0] ++
    List.replicate 3 (.step 2) ++ List.replicate 3 (.step 0) ++ List.replicate 3 (.step 1) ++
    .arrive (.login "AL@x.io " "correct-horse" none 5 "u") :: List.replicate 8 (.step 3)

def raced : AccountsConfig := (start registered).after (Call.endpoint normalizing settings) racing

end Sample

/-- The first of two registrations wins, a registered e-mail is refused, the login succeeds. -/
theorem one_registration_raced : (Sample.raced.db.users.map User.email).Nodup ∧
    (∀ form, OneWinner Sample.normalizing Sample.settings Sample.registered Sample.raced form) ∧
    ∃ cfg', Run (Call.endpoint Sample.normalizing Sample.settings) Sample.raced cfg' ∧ cfg'.Finished ∧
      cfg'.threads.map Thread.call = Sample.raced.threads.map Thread.call :=
  one_registration (show Sample.normalizing.Normalizes Sample.asciiCases from fun _ => rfl)
    ⟨by decide, by decide⟩
    (run_after (by decide +kernel)) (by decide +kernel)

end TicketReservation.Accounts
