/-
  Programs that change a state and may raise an exception.

  An exception keeps the changes that were made before it.  `exec x s` is how
  `x` ends from the state `s`, with the state that it leaves; the rules follow
  the statements of a program: a sequence, a loop over a list, `try` with a
  handler, and `try` with a `finally` block.
-/

namespace Effects

abbrev Exec (ε σ α : Type) := ExceptT ε (StateM σ) α

variable {ε σ α β : Type}

def exec (x : Exec ε σ α) (s : σ) : Except ε α × σ := x.run.run s

section
variable {x : Exec ε σ α} {s s' : σ}

@[simp] theorem exec_pure (a : α) (s : σ) : exec (pure a : Exec ε σ α) s = (.ok a, s) := rfl

@[simp] theorem exec_throw (e : ε) (s : σ) : exec (throw e : Exec ε σ α) s = (.error e, s) := rfl

@[simp] theorem exec_get (s : σ) : exec (get : Exec ε σ σ) s = (.ok s, s) := rfl

@[simp] theorem exec_modify (f : σ → σ) (s : σ) :
    exec (modify f : Exec ε σ PUnit) s = (.ok ⟨⟩, f s) := rfl

theorem exec_bind (f : α → Exec ε σ β) : exec (x >>= f) s = match exec x s with
    | (.ok a, s') => exec (f a) s'
    | (.error e, s') => (.error e, s') := by
  unfold exec
  rw [ExceptT.run_bind, StateT.run_bind]
  rcases x.run.run s with ⟨_ | a, s'⟩ <;> rfl

theorem exec_bind_ok {f : α → Exec ε σ β} {a : α} (h : exec x s = (.ok a, s')) :
    exec (x >>= f) s = exec (f a) s' := by
  rw [exec_bind, h]

/-- **A loop** whose body always returns, with the state that each pass leaves. -/
theorem exec_forM {f : α → Exec ε σ PUnit} {next : σ → α → σ}
    (h : ∀ s a, exec (f a) s = (.ok ⟨⟩, next s a)) (l : List α) (s : σ) :
    exec (l.forM f) s = (.ok ⟨⟩, l.foldl next s) := by
  induction l generalizing s with
  | nil => rfl
  | cons a l ih =>
    show exec (f a >>= fun _ => l.forM f) s = _
    rw [exec_bind_ok (h s a), ih, List.foldl_cons]

theorem exec_tryCatch (f : ε → Exec ε σ α) : exec (tryCatch x f) s = match exec x s with
    | (.ok a, s') => (.ok a, s')
    | (.error e, s') => exec (f e) s' := by
  simp only [exec, tryCatch, tryCatchThe, MonadExceptOf.tryCatch, ExceptT.tryCatch, ExceptT.run,
    ExceptT.mk, bind, StateT.bind, StateT.run]
  rcases x s with ⟨_ | a, s'⟩ <;> rfl

theorem exec_tryFinally (y : Exec ε σ β) : exec (tryFinally x y) s = match exec x s with
    | (r, s') => match exec y s' with
      | (.ok _, s'') => (r, s'')
      | (.error e, s'') => (.error e, s'') := by
  simp only [exec, tryFinally, tryFinally', ExceptT.run, ExceptT.mk, bind, StateT.bind, StateT.run,
    Functor.map, ExceptT.map, pure]
  rcases x s with ⟨_ | a, s'⟩ <;> dsimp only <;> rcases y s' with ⟨_ | b, s''⟩ <;> rfl

theorem exec_tryCatch_ok {f : ε → Exec ε σ α} {a : α} (h : exec x s = (.ok a, s')) :
    exec (tryCatch x f) s = (.ok a, s') := by
  rw [exec_tryCatch, h]

theorem exec_tryCatch_error {f : ε → Exec ε σ α} {e : ε} (h : exec x s = (.error e, s')) :
    exec (tryCatch x f) s = exec (f e) s' := by
  rw [exec_tryCatch, h]

/-- **A `finally` block that returns** changes the state and not how the program ends. -/
theorem exec_tryFinally_ok {y : Exec ε σ β} {b : β} {s'' : σ} {r : Except ε α}
    (h : exec x s = (r, s')) (hy : exec y s' = (.ok b, s'')) :
    exec (tryFinally x y) s = (r, s'') := by
  rw [exec_tryFinally, h]
  dsimp only
  rw [hy]

end

end Effects
