/-
  The transactions of the accounts.

  Every statement of the account services runs in a fresh transaction: what a
  flush has written is committed at once, and a query takes no lock.  So a call
  never waits while it holds locks.  Only a registration inserts users.

  * `Transacts`: a program of such transactions that inserts no user, with what
    it returns and raises;
  * `Call.transacts`: every call but a registration is one;
  * `transacts_linkOrCreate`: what a login does when the password was right.
-/
import TicketReservation.Accounts.Logout

namespace TicketReservation.Accounts

open Txn

/-- Nothing is known about the others. -/
def anyone : Protocol Tables Lock where
  inv _ := True
  step _ _ _ := True
  inv_step _ _ := trivial

def Write.InsertsUser : Write → Prop
  | .insertUser _ => True
  | _ => False

/-- The statements run in fresh transactions, and no commit inserts a user. -/
def freshTransactions : Guard Tables Write Lock where
  stmt _ σ _ := σ = ∅
  commit _ σ := ∀ w ∈ σ.writes, ¬ w.InsertsUser

/-- **The program runs in fresh transactions**, inserts no user, returns with `R` and raises
    exceptions `E` only. -/
def Transacts {α : Type} (E : Error → Prop) (R : α → Prop) (p : Tx α) : Prop :=
  ∀ d, always anyone freshTransactions p (fun r _ σ => σ = ∅ ∧ match r with
    | .ok a => R a
    | .error e => E e) d ∅

namespace Transacts
variable {α β : Type} {E : Error → Prop} {R : α → Prop} {S : β → Prop}

theorem ret {a : α} (h : R a) : Transacts E R (.ret a) := fun _ => ⟨rfl, h⟩

theorem raise {e : Error} (h : E e) : Transacts E R (.raise e) := fun _ => ⟨rfl, h⟩

theorem bind {p : Tx α} {f : α → Tx β} (h : Transacts E (fun a => Transacts E S (f a)) p) :
    Transacts E S (p.bind f) := by
  intro d
  refine always_bind (always_mono (fun r d' σ hr => ?_) (h d))
  obtain ⟨rfl, hr⟩ := hr
  cases r with
  | ok a => exact hr d'
  | error e => exact ⟨rfl, hr⟩

theorem mono {R' : α → Prop} {p : Tx α} (h : Transacts E R p) (hR : ∀ a, R a → R' a) :
    Transacts E R' p := by
  intro d
  refine always_mono (fun r d' σ hr => ⟨hr.1, ?_⟩) (h d)
  cases r with
  | ok a => exact hR a hr.2
  | error e => exact hr.2

/-- Whatever the first part returns. -/
theorem seq {p : Tx α} {f : α → Tx β} (h : Transacts E (fun _ => True) p)
    (hf : ∀ a, Transacts E S (f a)) : Transacts E S (p.bind f) :=
  bind (h.mono fun a _ => hf a)

theorem rollback : Transacts E (fun _ => True) Prog.rollback :=
  fun d => always_rollback (d := d) .const (fun _ _ _ => rfl) (fun _ _ _ => ⟨rfl, trivial⟩) trivial
    trivial

theorem utcNow : Transacts E (fun _ => True) utcNow :=
  fun d => always_ofPlan (d := d) .const (fun _ _ _ => ⟨rfl, rfl, trivial⟩) trivial trivial

/-- A query for at most one row. -/
theorem row (hE : E .multipleResultsFound) (rows : Tables → List α) :
    Transacts E (fun _ => True) (executeOrRaise fun d => { result := scalarOneOrNone (rows d) }) := by
  intro d
  refine always_bind (always_ofPlan .const (fun d' _ _ => ⟨rfl, ?_⟩) trivial trivial)
  dsimp only [Session.view_empty]
  rcases rows d' with _ | ⟨a, _ | ⟨b, l⟩⟩
  · exact ⟨rfl, trivial⟩
  · exact ⟨rfl, trivial⟩
  · exact ⟨rfl, hE⟩

/-- **The writes of a flush are committed at once.** -/
theorem write {plan : Tables → Plan Write Lock (Except Error Unit)} {f : Unit → Tx β}
    (hok : ∀ d, (plan d).result = .ok () → ∀ w ∈ (plan d).writes, ¬ w.InsertsUser)
    (herr : ∀ d e, (plan d).result = .error e → (plan d).takes = [] ∧ (plan d).writes = [] ∧ E e)
    (hf : Transacts E S (f ())) :
    Transacts E S ((executeOrRaise plan).bind fun _ => Prog.commitTx.bind f) := by
  intro d
  refine always_bind (always_bind (always_ofPlan .const (fun d' _ _ => ⟨rfl, ?_⟩) trivial trivial))
  dsimp only [Session.view_empty, Session.empty_writes, Session.empty_locks, List.nil_append]
  cases hr : (plan d').result with
  | ok a => exact fun d'' _ => ⟨hok d' hr, hf _⟩
  | error e =>
    obtain ⟨htakes, hwrites, he⟩ := herr d' e hr
    rw [htakes, hwrites]
    exact ⟨rfl, he⟩

end Transacts

section
variable {security : Security} {settings : Settings} {E : Error → Prop} {β : Type} {S : β → Prop}
  (hE : ∀ e, e ≠ .invalidCredentialsError → E e)
include hE

theorem transacts_refreshVisitorSession (id : UUID) :
    Transacts E (fun _ => True) (refreshVisitorSession id) := by
  refine (Transacts.row (hE _ (by decide)) _).seq fun o => ?_
  cases o with
  | none => exact .raise (hE _ (by decide))
  | some s => exact .ret trivial

theorem transacts_create (userId : Option UUID) (uuid4 : UUID) (rawToken : String) :
    Transacts E (fun _ => True)
      (VisitorSessionService.create security settings userId uuid4 rawToken) := by
  refine Transacts.utcNow.seq fun now => Transacts.write (fun d hok w hw => ?_) (fun d e herr => ?_) ?_
  · split_ifs at hok hw
    rw [List.mem_singleton.1 hw]
    exact id
  · split_ifs at herr ⊢
    cases herr
    exact ⟨rfl, rfl, hE _ (by decide)⟩
  · exact (transacts_refreshVisitorSession hE uuid4).seq fun s => .ret trivial

/-- The flush of a loaded row, and its commit. -/
theorem transacts_flush (loaded assigned : VisitorSession) {f : Unit → Tx β}
    (hf : Transacts E S (f ())) : Transacts E S ((flushVisitorSession loaded assigned).bind fun _ =>
      Prog.commitTx.bind f) := by
  unfold flushVisitorSession
  split_ifs with heq
  · exact fun d d' _ => ⟨fun w hw => (List.not_mem_nil hw).elim, hf _⟩
  · refine Transacts.write (fun d hok w hw => ?_) (fun d e herr => ?_) hf
    · split_ifs at hok hw
      rw [List.mem_singleton.1 hw]
      exact id
    · split_ifs at herr ⊢
      · cases herr
        exact ⟨rfl, rfl, hE _ (by decide)⟩
      · cases herr
        exact ⟨rfl, rfl, hE _ (by decide)⟩

theorem transacts_getActive (rawToken : String) (touch : Bool) :
    Transacts E (fun _ => True) (VisitorSessionService.getActive security rawToken touch) := by
  refine (Transacts.row (hE _ (by decide)) _).seq fun o => Transacts.utcNow.seq fun now => ?_
  cases o with
  | none => exact .ret trivial
  | some s =>
    dsimp only
    split_ifs
    · exact .ret trivial
    · exact transacts_flush hE s _ ((transacts_refreshVisitorSession hE s.id).seq fun s => .ret trivial)
    · exact .ret trivial

theorem transacts_linkUser (visitorSession : VisitorSession) (userId : UUID) :
    Transacts E (fun _ => True) (VisitorSessionService.linkUser settings visitorSession userId) :=
  Transacts.utcNow.seq fun _ => transacts_flush hE visitorSession _
    (transacts_refreshVisitorSession hE visitorSession.id)

theorem transacts_presented (rawSessionToken : Option String) :
    Transacts E (fun _ => True) (AuthService.presented security rawSessionToken) := by
  cases rawSessionToken with
  | none => exact .ret trivial
  | some token => exact (transacts_getActive hE token false).seq fun s => .ret trivial

/-- **When the password was right**, a login logs this user in. -/
theorem transacts_linkOrCreate (user : User) (uuid4 : UUID) (freshToken : String)
    (o : Option (VisitorSession × String)) : Transacts E (fun result => result.user = user)
      (AuthService.linkOrCreate security settings user uuid4 freshToken o) := by
  cases o with
  | none => exact (transacts_create hE (some user.id) uuid4 freshToken).seq fun created => .ret rfl
  | some presented =>
    exact (transacts_linkUser hE presented.1 user.id).seq fun visitorSession => .ret rfl

end

section
variable {security : Security} {settings : Settings}

theorem transacts_login (email password : String) (rawSessionToken : Option String) (uuid4 : UUID)
    (freshToken : String) : Transacts (fun _ => True) (fun _ => True)
      (AuthService.login security settings email password rawSessionToken uuid4 freshToken) := by
  have hE : ∀ e : Error, e ≠ .invalidCredentialsError → True := fun _ _ => trivial
  refine (Transacts.row trivial _).seq fun o => ?_
  cases o with
  | none => exact Transacts.rollback.seq fun _ => .raise trivial
  | some found =>
    refine Transacts.rollback.seq fun _ => ?_
    split_ifs
    · exact .raise trivial
    · refine (Transacts.row trivial _).seq fun o => ?_
      cases o with
      | none => exact Transacts.rollback.seq fun _ => .raise trivial
      | some user =>
        exact (transacts_presented hE rawSessionToken).seq fun visitorSession =>
          (transacts_linkOrCreate hE user uuid4 freshToken visitorSession).mono fun _ _ => trivial

theorem transacts_logout (cookie : Option String) :
    Transacts (fun _ => True) (fun _ => True) (logout security cookie) := by
  cases cookie with
  | none => exact .ret trivial
  | some token =>
    refine (Transacts.row trivial _).seq fun o => ?_
    cases o with
    | none => exact .ret trivial
    | some s => exact Transacts.utcNow.seq fun now =>
        transacts_flush (fun _ _ => trivial) s _ (f := Prog.ret) (.ret trivial)

theorem transacts_currentSession (cookie : Option String) :
    Transacts (fun _ => True) (fun _ => True) (getCurrentSession security cookie) := by
  cases cookie with
  | none => exact .raise trivial
  | some token =>
    refine (transacts_getActive (fun _ _ => trivial) token false).seq fun o => ?_
    cases o with
    | none => exact .raise trivial
    | some s => exact .ret trivial

/-- **Every call but a registration.** -/
theorem Call.transacts (c : Call) (h : ∀ email password salt uuid4,
      c ≠ .register email password salt uuid4) :
    Transacts (fun _ => True) (fun _ => True) (c.prog security settings) := by
  have hE : ∀ e : Error, e ≠ .invalidCredentialsError → True := fun _ _ => trivial
  cases c with
  | createAnonymous uuid4 rawToken =>
    exact (transacts_create hE none uuid4 rawToken).seq fun _ => .ret trivial
  | register email password salt uuid4 => exact absurd rfl (h email password salt uuid4)
  | login email password rawSessionToken uuid4 freshToken =>
    exact (transacts_login email password rawSessionToken uuid4 freshToken).seq fun _ => .ret trivial
  | logout cookie => exact (transacts_logout cookie).seq fun _ => .ret trivial
  | getActive rawToken touch =>
    exact (transacts_getActive hE rawToken touch).seq fun _ => .ret trivial
  | currentSession cookie => exact (transacts_currentSession cookie).seq fun _ => .ret trivial
  | tick elapsed =>
    intro d
    refine always_bind (always_ofPlan .const (fun d' _ _ => ⟨rfl, ?_⟩) trivial trivial)
    refine fun d'' _ => ⟨fun w hw => ?_, rfl, trivial⟩
    rw [List.mem_singleton.1 hw]
    exact id

end

end TicketReservation.Accounts
