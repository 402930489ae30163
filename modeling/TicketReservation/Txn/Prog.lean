/-
  Transaction programs over a shared store, at READ COMMITTED.

  A program (`Prog`) is a tree of statements.  Each statement (`Stmt`) runs as
  a whole on the newest committed store, overlaid by the writes of its own
  transaction (`Session.view`).  It names the row locks it has to wait for
  (`wants`) and may take locks, which the transaction keeps until it commits
  or rolls back.  `commit` applies the writes of the transaction to the store.

  `Prog.run` executes a program with nothing else running; `Prog.alone` is the
  same from a fresh session.  The interleaved execution is in `Txn.Concurrent`.
-/
import Mathlib.Data.List.Basic
import Mathlib.Tactic.Common

namespace Txn

/-- A store `D` that changes by row writes `W`. -/
class Store (D W : Type) where
  apply : D → W → D

/-- What a transaction has done so far: its uncommitted writes, oldest first,
    and the locks it holds. -/
structure Session (W L : Type) where
  writes : List W
  locks : List L

variable {D W L ε α β γ : Type}

namespace Session

instance : EmptyCollection (Session W L) := ⟨⟨[], []⟩⟩

@[simp] theorem mk_nil : (⟨[], []⟩ : Session W L) = ∅ := rfl

@[simp] theorem empty_writes : (∅ : Session W L).writes = [] := rfl

@[simp] theorem empty_locks : (∅ : Session W L).locks = [] := rfl

/-- The store as the transaction sees it. -/
def view [Store D W] (σ : Session W L) (d : D) : D := σ.writes.foldl Store.apply d

@[simp] theorem view_empty [Store D W] (d : D) : (∅ : Session W L).view d = d := rfl

@[simp] theorem view_nil [Store D W] (Λ : List L) (d : D) : (⟨[], Λ⟩ : Session W L).view d = d := rfl

theorem view_of_no_writes [Store D W] (σ : Session W L) (h : σ.writes = []) (d : D) : σ.view d = d := by
  simp [view, h]

theorem view_append [Store D W] (ws ws' : List W) (Λ Λ' : List L) (d : D) :
    (⟨ws ++ ws', Λ⟩ : Session W L).view d =
      (⟨ws', Λ'⟩ : Session W L).view ((⟨ws, Λ⟩ : Session W L).view d) := by
  simp [view, List.foldl_append]

theorem view_snoc [Store D W] (σ : Session W L) (w : W) (Λ : List L) (d : D) :
    (⟨σ.writes ++ [w], Λ⟩ : Session W L).view d = Store.apply (σ.view d) w := by
  simp [view, List.foldl_append]

end Session

/-- A statement.  It waits until no other transaction holds a lock of `wants`;
    then `exec` gives its response and the new session (the last argument of
    `exec` tells which locks other transactions hold, for `SKIP LOCKED`). -/
structure Stmt (D W L β : Type) where
  wants : D → Session W L → List L
  exec : D → Session W L → (L → Bool) → β × Session W L
  /-- a lock is only taken while no other transaction holds it -/
  fresh : ∀ d σ busy, (∀ l ∈ wants d σ, busy l = false) →
    ∀ l ∈ (exec d σ busy).2.locks, l ∈ σ.locks ∨ busy l = false

/-- What a statement does on the store it sees: its response, the locks it
    waits for without keeping them, the locks it takes, and its writes. -/
structure Plan (W L β : Type) where
  result : β
  waits : List L := []
  takes : List L := []
  writes : List W := []

namespace Stmt
variable [Store D W]

/-- The statement that does what `plan` says about the store it sees. -/
def ofPlan (plan : D → Plan W L β) : Stmt D W L β where
  wants d σ := (plan (σ.view d)).waits ++ (plan (σ.view d)).takes
  exec d σ _ :=
    ((plan (σ.view d)).result,
      ⟨σ.writes ++ (plan (σ.view d)).writes, σ.locks ++ (plan (σ.view d)).takes⟩)
  fresh d σ busy h l hl := by
    rcases List.mem_append.1 hl with hl | hl
    · exact Or.inl hl
    · exact Or.inr (h l (List.mem_append_right _ hl))

/-- A statement that only reads. -/
def read (f : D → β) : Stmt D W L β := ofPlan fun d => { result := f d }

/-- `FOR UPDATE SKIP LOCKED`: it never waits; `pick` sees which locks are free
    and names the rows to lock. -/
def skipLocked (pick : D → (L → Bool) → β) (takes : β → List L) : Stmt D W L β where
  wants _ _ := []
  exec d σ busy :=
    (pick (σ.view d) (fun l => !busy l),
      ⟨σ.writes, σ.locks ++ (takes (pick (σ.view d) fun l => !busy l)).filter fun l => !busy l⟩)
  fresh d σ busy _ l hl := by
    rcases List.mem_append.1 hl with hl | hl
    · exact Or.inl hl
    · exact Or.inr (by simpa using (List.mem_filter.1 hl).2)

/-- `ROLLBACK`: forget the writes, release the locks. -/
def rollback : Stmt D W L Unit where
  wants _ _ := []
  exec _ _ _ := ((), ∅)
  fresh _ _ _ _ l hl := by simp at hl

/-- `SAVEPOINT`: remember the session. -/
def savepoint : Stmt D W L (Session W L) where
  wants _ _ := []
  exec _ σ _ := (σ, σ)
  fresh _ _ _ _ _ hl := Or.inl hl

/-- `ROLLBACK TO SAVEPOINT`: the writes since then are forgotten, the locks
    taken since then released. -/
def rollbackTo [DecidableEq L] (saved : Session W L) : Stmt D W L Unit where
  wants _ _ := []
  exec _ σ _ := ((), ⟨saved.writes, saved.locks.filter (· ∈ σ.locks)⟩)
  fresh _ _ _ _ _ hl := Or.inl (by simpa using (List.mem_filter.1 hl).2)

end Stmt

/-- A program with exceptions `ε` that returns an `α`. -/
inductive Prog (D W L ε α : Type) : Type 1
  | ret (a : α)
  | raise (e : ε)
  | stmt {β : Type} (s : Stmt D W L β) (k : β → Prog D W L ε α)
  | commit (k : Prog D W L ε α)

namespace Prog

/-- Sequencing; an exception skips the rest. -/
def bind : Prog D W L ε α → (α → Prog D W L ε β) → Prog D W L ε β
  | ret a, f => f a
  | raise e, _ => raise e
  | stmt s k, f => stmt s fun b => (k b).bind f
  | commit k, f => commit (k.bind f)

instance : Monad (Prog D W L ε) where
  pure := ret
  bind := bind

/-- `try p except e: h e`. -/
def tryCatch : Prog D W L ε α → (ε → Prog D W L ε α) → Prog D W L ε α
  | ret a, _ => ret a
  | raise e, h => h e
  | stmt s k, h => stmt s fun b => (k b).tryCatch h
  | commit k, h => commit (k.tryCatch h)

@[simp] theorem pure_eq (a : α) : (pure a : Prog D W L ε α) = ret a := rfl

@[simp] theorem bind_eq (p : Prog D W L ε α) (f : α → Prog D W L ε β) : (p >>= f) = p.bind f := rfl

theorem bind_assoc (p : Prog D W L ε α) (f : α → Prog D W L ε β) (g : β → Prog D W L ε γ) :
    (p.bind f).bind g = p.bind fun a => (f a).bind g := by
  induction p with
  | ret a => rfl
  | raise e => rfl
  | stmt s k ih => exact congrArg (stmt s) (funext ih)
  | commit k ih => exact congrArg commit ih

/-- The same program with another form of its answer. -/
def map (f : α → β) (p : Prog D W L ε α) : Prog D W L ε β := p.bind fun a => ret (f a)

/-- One statement as a program. -/
def exec (s : Stmt D W L β) : Prog D W L ε β := stmt s ret

/-- `session.commit()`. -/
def commitTx : Prog D W L ε Unit := commit (ret ())

/-- `session.rollback()`. -/
def rollback : Prog D W L ε Unit := exec Stmt.rollback

/-- `async with session.begin_nested(): body`. -/
def beginNested [DecidableEq L] (body : Prog D W L ε α) : Prog D W L ε α := do
  let saved ← exec Stmt.savepoint
  body.tryCatch fun e => do
    exec (Stmt.rollbackTo saved)
    raise e

section
variable [Store D W]

/-- The program executed with nothing else running: what it answers, the
    committed store and the session it leaves. -/
def run : Prog D W L ε α → D → Session W L → Except ε α × D × Session W L
  | ret a, d, σ => (.ok a, d, σ)
  | raise e, d, σ => (.error e, d, σ)
  | stmt s k, d, σ => (k (s.exec d σ fun _ => false).1).run d (s.exec d σ fun _ => false).2
  | commit k, d, σ => k.run (σ.view d) ∅

/-- The program executed alone from a fresh session, which is closed at its end. -/
def alone (p : Prog D W L ε α) (d : D) : Except ε α × D := ((p.run d ∅).1, (p.run d ∅).2.1)

@[simp] theorem run_ret (a : α) (d : D) (σ : Session W L) :
    (ret a : Prog D W L ε α).run d σ = (.ok a, d, σ) := rfl

@[simp] theorem run_raise (e : ε) (d : D) (σ : Session W L) :
    (raise e : Prog D W L ε α).run d σ = (.error e, d, σ) := rfl

@[simp] theorem run_exec (s : Stmt D W L β) (d : D) (σ : Session W L) :
    (exec s : Prog D W L ε β).run d σ =
      (.ok (s.exec d σ fun _ => false).1, d, (s.exec d σ fun _ => false).2) := rfl

@[simp] theorem run_commitTx (d : D) (σ : Session W L) :
    (commitTx : Prog D W L ε Unit).run d σ = (.ok (), σ.view d, ∅) := rfl

@[simp] theorem run_rollback (d : D) (σ : Session W L) :
    (rollback : Prog D W L ε Unit).run d σ = (.ok (), d, ∅) := rfl

theorem run_bind (p : Prog D W L ε α) (f : α → Prog D W L ε β) (d : D) (σ : Session W L) :
    (p.bind f).run d σ = match p.run d σ with
      | (.ok a, d', σ') => (f a).run d' σ'
      | (.error e, d', σ') => (.error e, d', σ') := by
  induction p generalizing d σ with
  | ret a => rfl
  | raise e => rfl
  | stmt s k ih => exact ih _ _ _
  | commit k ih => exact ih _ _

theorem alone_map {p : Prog D W L ε α} {f : α → β} {d d' : D} {r : Except ε α}
    (h : p.alone d = (r, d')) : (p.map f).alone d = (r.map f, d') := by
  simp only [alone, Prod.mk.injEq] at h ⊢
  rw [map, run_bind]
  obtain ⟨rfl, rfl⟩ := h
  rcases p.run d ∅ with ⟨_ | _, _, _⟩ <;> exact ⟨rfl, rfl⟩

theorem run_tryCatch (p : Prog D W L ε α) (h : ε → Prog D W L ε α) (d : D) (σ : Session W L) :
    (p.tryCatch h).run d σ = match p.run d σ with
      | (.ok a, d', σ') => (.ok a, d', σ')
      | (.error e, d', σ') => (h e).run d' σ' := by
  induction p generalizing d σ with
  | ret a => rfl
  | raise e => rfl
  | stmt s k ih => exact ih _ _ _
  | commit k ih => exact ih _ _

theorem run_bind_ok {p : Prog D W L ε α} {f : α → Prog D W L ε β} {d d' : D} {σ σ' : Session W L}
    {a : α} (h : p.run d σ = (.ok a, d', σ')) : (p.bind f).run d σ = (f a).run d' σ' := by
  rw [run_bind, h]

theorem run_bind_error {p : Prog D W L ε α} {f : α → Prog D W L ε β} {d d' : D}
    {σ σ' : Session W L} {e : ε} (h : p.run d σ = (.error e, d', σ')) :
    (p.bind f).run d σ = (.error e, d', σ') := by
  rw [run_bind, h]

/-- A program that succeeds has succeeded at each step. -/
theorem run_bind_eq_ok {p : Prog D W L ε α} {f : α → Prog D W L ε β} {d d'' : D}
    {σ σ'' : Session W L} {b : β} (h : (p.bind f).run d σ = (.ok b, d'', σ'')) :
    ∃ a d' σ', p.run d σ = (.ok a, d', σ') ∧ (f a).run d' σ' = (.ok b, d'', σ'') := by
  rw [run_bind] at h
  rcases hp : p.run d σ with ⟨e | a, d', σ'⟩
  · rw [hp] at h
    cases h
  · rw [hp] at h
    exact ⟨a, d', σ', rfl, h⟩

theorem alone_eq_ok {p : Prog D W L ε α} {d d' : D} {a : α} (h : p.alone d = (.ok a, d')) :
    ∃ σ, p.run d ∅ = (.ok a, d', σ) := by
  obtain ⟨h1, rfl⟩ := Prod.mk.inj h
  exact ⟨(p.run d ∅).2.2, by rw [← h1]⟩

/-- When the program fails, the committed store is as it was. -/
def Undone (p : Prog D W L ε α) : Prop :=
  ∀ d σ e, (p.run d σ).1 = .error e → (p.run d σ).2.1 = d

/-- The exceptions that the program raises. -/
def Raises (E : ε → Prop) (p : Prog D W L ε α) : Prop :=
  ∀ d σ e, (p.run d σ).1 = .error e → E e

namespace Raises
variable {E : ε → Prop}

theorem ret (a : α) : (ret a : Prog D W L ε α).Raises E := fun _ _ _ h => nomatch h

theorem raise {e : ε} (h : E e) : (raise e : Prog D W L ε α).Raises E := by
  rintro _ _ _ ⟨⟩
  exact h

theorem exec (s : Stmt D W L β) : (exec s : Prog D W L ε β).Raises E := fun _ _ _ h => nomatch h

theorem bind {p : Prog D W L ε α} {f : α → Prog D W L ε β} (hp : p.Raises E)
    (hf : ∀ a, (f a).Raises E) : (p.bind f).Raises E := by
  intro d σ e h
  have hp := hp d σ
  rw [run_bind] at h
  generalize p.run d σ = x at h hp
  rcases x with ⟨e' | a, d', σ'⟩
  · cases h
    exact hp e rfl
  · exact hf a d' σ' e h

theorem tryCatch {E' : ε → Prop} {p : Prog D W L ε α} {h : ε → Prog D W L ε α} (hp : p.Raises E')
    (hh : ∀ e, E' e → (h e).Raises E) : (p.tryCatch h).Raises E := by
  intro d σ e he
  have hp := hp d σ
  rw [run_tryCatch] at he
  generalize p.run d σ = x at he hp
  rcases x with ⟨e' | a, d', σ'⟩
  · exact hh e' (hp e' rfl) d' σ' e he
  · cases he

end Raises

/-- Whatever the program does keeps `I` of the committed store and of what its session sees. -/
def Maintains (I : D → Prop) (p : Prog D W L ε α) : Prop :=
  ∀ (d : D) (σ : Session W L), I d → I (σ.view d) →
    I (p.run d σ).2.1 ∧ I ((p.run d σ).2.2.view (p.run d σ).2.1)

namespace Maintains
variable {I : D → Prop}

theorem ret (a : α) : (ret a : Prog D W L ε α).Maintains I := fun _ _ hd hσ => ⟨hd, hσ⟩

theorem raise (e : ε) : (raise e : Prog D W L ε α).Maintains I := fun _ _ hd hσ => ⟨hd, hσ⟩

theorem commitTx : (commitTx : Prog D W L ε Unit).Maintains I := fun _ _ _ hσ => ⟨hσ, hσ⟩

theorem rollback : (rollback : Prog D W L ε Unit).Maintains I := fun _ _ hd _ => ⟨hd, hd⟩

/-- A statement whose writes keep `I`. -/
theorem exec {plan : D → Plan W L β}
    (h : ∀ d, I d → I ((plan d).writes.foldl Store.apply d)) :
    (Prog.exec (Stmt.ofPlan plan) : Prog D W L ε β).Maintains I := by
  intro d σ hd hσ
  refine ⟨hd, ?_⟩
  simp only [run_exec, Stmt.ofPlan]
  rw [Session.view_append _ _ _ []]
  exact h _ hσ

theorem bind {p : Prog D W L ε α} {f : α → Prog D W L ε β} (hp : p.Maintains I)
    (hf : ∀ a, (f a).Maintains I) : (p.bind f).Maintains I := by
  intro d σ hd hσ
  have h := hp d σ hd hσ
  rw [run_bind]
  generalize p.run d σ = x at h ⊢
  rcases x with ⟨e | a, d', σ'⟩
  · exact h
  · exact hf a d' σ' h.1 h.2

theorem tryCatch {p : Prog D W L ε α} {h : ε → Prog D W L ε α} (hp : p.Maintains I)
    (hh : ∀ e, (h e).Maintains I) : (p.tryCatch h).Maintains I := by
  intro d σ hd hσ
  have h' := hp d σ hd hσ
  rw [run_tryCatch]
  generalize p.run d σ = x at h' ⊢
  rcases x with ⟨e | a, d', σ'⟩
  · exact hh e d' σ' h'.1 h'.2
  · exact h'

theorem alone {p : Prog D W L ε α} (h : p.Maintains I) {d : D} (hd : I d) : I (p.alone d).2 :=
  (h d ∅ hd hd).1

end Maintains

end

end Prog

end Txn
