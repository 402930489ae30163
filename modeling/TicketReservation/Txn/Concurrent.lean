/-
  The interleaved execution of transaction programs.

  A configuration holds the committed store and the calls that have arrived so
  far, each with the rest of its program and its session.  One action is the
  arrival of a call, one statement (or commit, or return) of one call, or the
  database aborting the transaction of a call.

  * `Config.act` executes one action (`none` if it is not possible, e.g. if the
    statement has to wait for a lock); `Run` is any number of actions and
    `Run.Where` a run whose actions all meet a condition;
  * `step_cases` and `abort_cases` say once what an action can do (an arrival
    only adds a call);
  * `Disjointed`: no two transactions hold the same lock (`Disjointed.act`).
-/
import TicketReservation.Txn.Prog
import Mathlib.Logic.Relation
import Mathlib.Data.List.Range

namespace Txn

variable {C D W L ε ρ : Type}

/-- How far a call has come: its program and session, its answer, or aborted
    by the database. -/
inductive Status (D W L ε ρ : Type) : Type 1
  | running (p : Prog D W L ε ρ) (σ : Session W L)
  | returned (r : Except ε ρ)
  | aborted

/-- A call that has arrived.  `born` is the committed store at its arrival (a
    history variable: no action reads it). -/
structure Thread (C D W L ε ρ : Type) : Type 1 where
  call : C
  born : D
  status : Status D W L ε ρ

/-- The locks a call holds. -/
def Status.locks : Status D W L ε ρ → List L
  | running _ σ => σ.locks
  | _ => []

/-- The session that the call is about to commit. -/
def Status.committing : Status D W L ε ρ → Option (Session W L)
  | running (.commit _) σ => some σ
  | _ => none

def Status.isRunning : Status D W L ε ρ → Bool
  | running _ _ => true
  | _ => false

/-- The call with its answer, if it has one. -/
def Thread.answer (t : Thread C D W L ε ρ) : Option (C × Except ε ρ) :=
  match t.status with
  | .returned r => some (t.call, r)
  | _ => none

theorem Thread.answer_eq_some {t : Thread C D W L ε ρ} {c : C} {r : Except ε ρ} :
    t.answer = some (c, r) ↔ t.status = .returned r ∧ t.call = c := by
  unfold Thread.answer
  split <;> simp_all [and_comm]

/-- The committed store and the calls, in order of arrival. -/
structure Config (C D W L ε ρ : Type) : Type 1 where
  db : D
  threads : List (Thread C D W L ε ρ)

/-- One action of the system. -/
inductive Action (C : Type)
  | arrive (c : C)
  | step (i : ℕ)
  | abort (i : ℕ)

namespace Config

/-- Does a call other than `i` hold the lock `l`? -/
def busy [DecidableEq L] (cfg : Config C D W L ε ρ) (i : ℕ) (l : L) : Bool :=
  (List.range cfg.threads.length).any fun j =>
    decide (j ≠ i) && (cfg.threads[j]?.any fun t => decide (l ∈ t.status.locks))

/-- Call `i` moves on to `s`. -/
def setStatus (cfg : Config C D W L ε ρ) (i : ℕ) (s : Status D W L ε ρ) : Config C D W L ε ρ :=
  { cfg with threads := cfg.threads.modify i fun t => { t with status := s } }

/-- The answer of call `i`, if it has one. -/
def answer (cfg : Config C D W L ε ρ) (i : ℕ) : Option (Except ε ρ) :=
  (cfg.threads[i]?.bind Thread.answer).map Prod.snd

theorem answer_eq_some {cfg : Config C D W L ε ρ} {i : ℕ} {r : Except ε ρ}
    (h : cfg.answer i = some r) : ∃ t ∈ cfg.threads, t.status = .returned r := by
  obtain ⟨⟨c, r⟩, hb, rfl⟩ := Option.map_eq_some_iff.1 h
  obtain ⟨t, ht, ha⟩ := Option.bind_eq_some_iff.1 hb
  exact ⟨t, List.mem_of_getElem? ht, (Thread.answer_eq_some.1 ha).1⟩

variable [Store D W] [DecidableEq L] (prog : C → Prog D W L ε ρ)

/-- One action; `none` if it is not possible. -/
def act (cfg : Config C D W L ε ρ) : Action C → Option (Config C D W L ε ρ)
  | .arrive c => some { cfg with threads := cfg.threads ++ [⟨c, cfg.db, .running (prog c) ∅⟩] }
  | .step i =>
    match cfg.threads[i]? with
    | some ⟨_, _, .running (.ret a) _⟩ => some (cfg.setStatus i (.returned (.ok a)))
    | some ⟨_, _, .running (.raise e) _⟩ => some (cfg.setStatus i (.returned (.error e)))
    | some ⟨_, _, .running (.stmt s k) σ⟩ =>
      if (s.wants cfg.db σ).any (cfg.busy i) then none
      else some (cfg.setStatus i
        (.running (k (s.exec cfg.db σ (cfg.busy i)).1) (s.exec cfg.db σ (cfg.busy i)).2))
    | some ⟨_, _, .running (.commit k) σ⟩ =>
      some { cfg.setStatus i (.running k ∅) with db := σ.view cfg.db }
    | _ => none
  | .abort i =>
    match cfg.threads[i]? with
    | some ⟨_, _, .running (.stmt _ _) _⟩ => some (cfg.setStatus i .aborted)
    | some ⟨_, _, .running (.commit _) _⟩ => some (cfg.setStatus i .aborted)
    | _ => none

/-- The actions one after another. -/
def acts (cfg : Config C D W L ε ρ) : List (Action C) → Option (Config C D W L ε ρ)
  | [] => some cfg
  | a :: as => (cfg.act prog a).bind fun cfg' => cfg'.acts as

/-- The configuration after the actions (the same one if they are not possible). -/
def after (cfg : Config C D W L ε ρ) (as : List (Action C)) : Config C D W L ε ρ :=
  (cfg.acts prog as).getD cfg

/-- The answers that have been given, with their calls. -/
def answers (cfg : Config C D W L ε ρ) : List (C × Except ε ρ) :=
  cfg.threads.filterMap Thread.answer

/-- Every call has its answer or was aborted. -/
def Finished (cfg : Config C D W L ε ρ) : Prop :=
  ∀ t ∈ cfg.threads, t.status.isRunning = false

instance (cfg : Config C D W L ε ρ) : Decidable cfg.Finished :=
  inferInstanceAs (Decidable (∀ t ∈ cfg.threads, t.status.isRunning = false))

end Config

section
variable [Store D W] [DecidableEq L] (prog : C → Prog D W L ε ρ)

/-- A run whose actions all meet `ok`. -/
inductive Run.Where (ok : Config C D W L ε ρ → Action C → Prop) :
    Config C D W L ε ρ → Config C D W L ε ρ → Prop
  | refl (cfg) : Where ok cfg cfg
  | tail {cfg cfg' cfg'' : Config C D W L ε ρ} (a : Action C) :
      Where ok cfg cfg' → ok cfg' a → cfg'.act prog a = some cfg'' → Where ok cfg cfg''

/-- Any number of actions. -/
abbrev Run (cfg cfg' : Config C D W L ε ρ) : Prop := Run.Where prog (fun _ _ => True) cfg cfg'

variable {prog}

theorem Run.Where.mono {ok ok' : Config C D W L ε ρ → Action C → Prop}
    (h : ∀ cfg a, ok cfg a → ok' cfg a) {cfg cfg' : Config C D W L ε ρ}
    (r : Run.Where prog ok cfg cfg') : Run.Where prog ok' cfg cfg' := by
  induction r with
  | refl => exact .refl _
  | tail a _ hok hact ih => exact .tail a ih (h _ _ hok) hact

theorem Run.Where.trans {ok : Config C D W L ε ρ → Action C → Prop}
    {cfg cfg' cfg'' : Config C D W L ε ρ} (r : Run.Where prog ok cfg cfg')
    (r' : Run.Where prog ok cfg' cfg'') : Run.Where prog ok cfg cfg'' := by
  induction r' with
  | refl => exact r
  | tail a _ hok hact ih => exact .tail a ih hok hact

/-- **What holds at the start and is kept by every action holds in every
    configuration of a run.** -/
theorem Run.Where.induct {ok : Config C D W L ε ρ → Action C → Prop}
    {I : Config C D W L ε ρ → Prop} {cfg cfg' : Config C D W L ε ρ}
    (r : Run.Where prog ok cfg cfg') (h0 : I cfg)
    (hstep : ∀ {c c' a}, I c → ok c a → c.act prog a = some c' → I c') : I cfg' := by
  induction r with
  | refl => exact h0
  | tail a _ hok hact ih => exact hstep ih hok hact

/-- The actions, one after another, all meet `ok`. -/
def Config.Meets (prog : C → Prog D W L ε ρ) (ok : Config C D W L ε ρ → Action C → Prop)
    (cfg : Config C D W L ε ρ) : List (Action C) → Prop
  | [] => True
  | a :: as => ok cfg a ∧ ∀ cfg' ∈ cfg.act prog a, cfg'.Meets prog ok as

instance Config.decidableMeets (ok : Config C D W L ε ρ → Action C → Prop)
    [∀ cfg a, Decidable (ok cfg a)] (cfg : Config C D W L ε ρ) (as : List (Action C)) :
    Decidable (cfg.Meets prog ok as) :=
  match as with
  | [] => inferInstanceAs (Decidable True)
  | a :: as =>
    have := fun cfg' => decidableMeets ok cfg' as
    inferInstanceAs (Decidable (_ ∧ ∀ cfg' ∈ cfg.act prog a, cfg'.Meets prog ok as))

theorem Config.meets_of_forall {ok : Config C D W L ε ρ → Action C → Prop}
    (h : ∀ cfg a, ok cfg a) (cfg : Config C D W L ε ρ) (as : List (Action C)) :
    cfg.Meets prog ok as := by
  induction as generalizing cfg with
  | nil => trivial
  | cons a as ih => exact ⟨h cfg a, fun cfg' _ => ih cfg'⟩

theorem Config.Meets.run {ok : Config C D W L ε ρ → Action C → Prop} {cfg : Config C D W L ε ρ}
    {as : List (Action C)} (hok : cfg.Meets prog ok as) (hs : (cfg.acts prog as).isSome) :
    Run.Where prog ok cfg (cfg.after prog as) := by
  obtain ⟨cfg', h⟩ := Option.isSome_iff_exists.1 hs
  rw [Config.after, h, Option.getD_some]
  clear hs
  induction as generalizing cfg with
  | nil => cases h; exact .refl _
  | cons a as ih =>
    simp only [Config.acts, Option.bind_eq_some_iff] at h
    obtain ⟨c, hc, h⟩ := h
    exact (Run.Where.tail a (.refl _) hok.1 hc).trans (ih (hok.2 c hc) h)

theorem run_after {cfg : Config C D W L ε ρ} {as : List (Action C)}
    (h : (cfg.acts prog as).isSome) : Run prog cfg (cfg.after prog as) :=
  (Config.meets_of_forall (fun _ _ => trivial) cfg as).run h

end

/-! ## What an action can do -/

/-- The status of call `i` changes to `s'` and the store to `d`; nothing else
    happens. -/
structure Moves (cfg cfg' : Config C D W L ε ρ) (i : ℕ) (t : Thread C D W L ε ρ)
    (s' : Status D W L ε ρ) (d : D) : Prop where
  at_i : cfg.threads[i]? = some t
  next : cfg'.threads = cfg.threads.set i { t with status := s' }
  db : cfg'.db = d

theorem Config.setStatus_threads (cfg : Config C D W L ε ρ) {i : ℕ} {t : Thread C D W L ε ρ}
    (h : cfg.threads[i]? = some t) (s : Status D W L ε ρ) :
    (cfg.setStatus i s).threads = cfg.threads.set i { t with status := s } := by
  simp only [Config.setStatus]
  rw [List.modify_eq_set_getElem?, h]
  rfl

namespace Moves
variable {cfg cfg' : Config C D W L ε ρ} {i j : ℕ} {t : Thread C D W L ε ρ}
  {s' : Status D W L ε ρ} {d : D}

theorem get_self (h : Moves cfg cfg' i t s' d) :
    cfg'.threads[i]? = some { t with status := s' } := by
  rw [h.next, List.getElem?_set_self (List.getElem?_eq_some_iff.1 h.at_i).1]

theorem get_other (h : Moves cfg cfg' i t s' d) (hj : i ≠ j) :
    cfg'.threads[j]? = cfg.threads[j]? := by
  rw [h.next, List.getElem?_set_ne hj]

theorem length (h : Moves cfg cfg' i t s' d) : cfg'.threads.length = cfg.threads.length := by
  rw [h.next, List.length_set]

theorem calls (h : Moves cfg cfg' i t s' d) :
    cfg'.threads.map Thread.call = cfg.threads.map Thread.call := by
  obtain ⟨hlt, rfl⟩ := List.getElem?_eq_some_iff.1 h.at_i
  rw [h.next, List.map_set]
  show (cfg.threads.map Thread.call).set i cfg.threads[i].call = _
  rw [← List.getElem_map Thread.call (h := by rwa [List.length_map]), List.set_getElem_self]

end Moves

/-- The calls after an arrival are those before it and the new one. -/
theorem arrive_cases {cfg : Config C D W L ε ρ} {t' : Thread C D W L ε ρ} {i : ℕ}
    {t : Thread C D W L ε ρ} (h : (cfg.threads ++ [t'])[i]? = some t) :
    cfg.threads[i]? = some t ∨ (i = cfg.threads.length ∧ t = t') := by
  rcases Nat.lt_or_ge i cfg.threads.length with hi | hi
  · exact Or.inl (by rwa [List.getElem?_append_left hi] at h)
  · rw [List.getElem?_append_right hi, List.getElem?_singleton] at h
    split_ifs at h with h0
    exact Or.inr ⟨by omega, by simpa using h.symm⟩

section
variable [DecidableEq L]

/-- The four kinds of progress of one call. -/
inductive Progress [Store D W] (cfg : Config C D W L ε ρ) (i : ℕ) :
    Status D W L ε ρ → Status D W L ε ρ → D → Prop
  | ret (a : ρ) (σ) : Progress cfg i (.running (.ret a) σ) (.returned (.ok a)) cfg.db
  | raise (e : ε) (σ) : Progress cfg i (.running (.raise e) σ) (.returned (.error e)) cfg.db
  | stmt {β : Type} (s : Stmt D W L β) (k : β → Prog D W L ε ρ) (σ) :
      (∀ l ∈ s.wants cfg.db σ, cfg.busy i l = false) →
      Progress cfg i (.running (.stmt s k) σ)
        (.running (k (s.exec cfg.db σ (cfg.busy i)).1) (s.exec cfg.db σ (cfg.busy i)).2) cfg.db
  | commit (k : Prog D W L ε ρ) (σ : Session W L) :
      Progress cfg i (.running (.commit k) σ) (.running k ∅) (σ.view cfg.db)

namespace Progress
variable [Store D W] {cfg : Config C D W L ε ρ} {i : ℕ} {σ : Session W L}
  {s' : Status D W L ε ρ} {d : D}

theorem of_ret {a : ρ} (h : Progress cfg i (.running (.ret a) σ) s' d) :
    s' = .returned (.ok a) ∧ d = cfg.db := by
  cases h; exact ⟨rfl, rfl⟩

theorem of_raise {e : ε} (h : Progress cfg i (.running (.raise e) σ) s' d) :
    s' = .returned (.error e) ∧ d = cfg.db := by
  cases h; exact ⟨rfl, rfl⟩

theorem of_stmt {β : Type} {s : Stmt D W L β} {k : β → Prog D W L ε ρ}
    (h : Progress cfg i (.running (.stmt s k) σ) s' d) :
    (∀ l ∈ s.wants cfg.db σ, cfg.busy i l = false) ∧
      s' = .running (k (s.exec cfg.db σ (cfg.busy i)).1) (s.exec cfg.db σ (cfg.busy i)).2 ∧
      d = cfg.db := by
  cases h with
  | stmt _ _ _ hw => exact ⟨hw, rfl, rfl⟩

theorem of_commit {k : Prog D W L ε ρ} (h : Progress cfg i (.running (.commit k) σ) s' d) :
    s' = .running k ∅ ∧ d = σ.view cfg.db := by
  cases h; exact ⟨rfl, rfl⟩

/-- Only a running call makes progress. -/
theorem isRunning {s : Status D W L ε ρ} (h : Progress cfg i s s' d) : s.isRunning = true := by
  cases h <;> rfl

end Progress

section
variable [Store D W] {prog : C → Prog D W L ε ρ} {cfg cfg' : Config C D W L ε ρ} {i : ℕ}

/-- **What a step of call `i` does.** -/
theorem step_cases (h : cfg.act prog (.step i) = some cfg') :
    ∃ t s' d, Progress cfg i t.status s' d ∧ Moves cfg cfg' i t s' d := by
  simp only [Config.act] at h
  split at h
  · rename_i c b a σ ht
    cases h
    exact ⟨_, _, _, .ret a σ, ht, cfg.setStatus_threads ht _, rfl⟩
  · rename_i c b e σ ht
    cases h
    exact ⟨_, _, _, .raise e σ, ht, cfg.setStatus_threads ht _, rfl⟩
  · rename_i c b β s k σ ht
    split_ifs at h with hw
    cases h
    refine ⟨_, _, _, .stmt s k σ ?_, ht, cfg.setStatus_threads ht _, rfl⟩
    simpa using hw
  · rename_i c b k σ ht
    cases h
    exact ⟨_, _, _, .commit k σ, ht, cfg.setStatus_threads ht _, rfl⟩
  · cases h

/-- **What an abort does**: the call was in the middle of its transaction. -/
theorem abort_cases (h : cfg.act prog (.abort i) = some cfg') :
    ∃ t p σ, t.status = .running p σ ∧ (∀ a, p ≠ .ret a) ∧ (∀ e, p ≠ .raise e) ∧
      Moves cfg cfg' i t .aborted cfg.db := by
  simp only [Config.act] at h
  split at h
  · rename_i c b β s k σ ht
    cases h
    exact ⟨_, _, _, rfl, by simp, by simp, ht, cfg.setStatus_threads ht _, rfl⟩
  · rename_i c b k σ ht
    cases h
    exact ⟨_, _, _, rfl, by simp, by simp, ht, cfg.setStatus_threads ht _, rfl⟩
  · cases h

/-- The calls that have arrived stay the first ones. -/
theorem act_calls {a : Action C} (h : cfg.act prog a = some cfg') :
    cfg.threads.map Thread.call <+: cfg'.threads.map Thread.call := by
  cases a with
  | arrive c =>
    cases h
    rw [List.map_append]
    exact List.prefix_append _ _
  | step i =>
    obtain ⟨t, s', d, -, hm⟩ := step_cases h
    exact hm.calls ▸ List.prefix_rfl
  | abort i =>
    obtain ⟨t, p, σ, -, -, -, hm⟩ := abort_cases h
    exact hm.calls ▸ List.prefix_rfl

theorem Run.Where.calls {ok : Config C D W L ε ρ → Action C → Prop}
    (r : Run.Where prog ok cfg cfg') :
    cfg.threads.map Thread.call <+: cfg'.threads.map Thread.call := by
  induction r with
  | refl => exact List.prefix_rfl
  | tail a _ _ hact ih => exact ih.trans (act_calls hact)

/-- **A call keeps its data and its answer.** -/
theorem Run.Where.thread {ok : Config C D W L ε ρ → Action C → Prop}
    (r : Run.Where prog ok cfg cfg') {t : Thread C D W L ε ρ} (ht : cfg.threads[i]? = some t) :
    ∃ t', cfg'.threads[i]? = some t' ∧ t'.call = t.call ∧ t'.born = t.born ∧
      ∀ r, t.status = .returned r → t'.status = .returned r := by
  refine r.induct (I := fun c => ∃ t', c.threads[i]? = some t' ∧ t'.call = t.call ∧
    t'.born = t.born ∧ ∀ r, t.status = .returned r → t'.status = .returned r)
    ⟨t, ht, rfl, rfl, fun _ h => h⟩ ?_
  rintro c c' a ⟨t', ht', hc, hb, hr⟩ - hact
  have moved : ∀ {j u s' d}, Moves c c' j u s' d → (∀ r, u.status ≠ .returned r) →
      ∃ t', c'.threads[i]? = some t' ∧ t'.call = t.call ∧ t'.born = t.born ∧
        ∀ r, t.status = .returned r → t'.status = .returned r := by
    intro j u s' d hm hu
    by_cases hj : j = i
    · subst hj
      have := hm.at_i
      rw [ht'] at this; cases this
      exact ⟨_, hm.get_self, hc, hb, fun r h => absurd (hr r h) (hu r)⟩
    · exact ⟨t', (hm.get_other hj).trans ht', hc, hb, hr⟩
  cases a with
  | arrive c => cases hact; exact ⟨t', List.getElem?_append_left
      (List.getElem?_eq_some_iff.1 ht').1 ▸ ht', hc, hb, hr⟩
  | abort j =>
    obtain ⟨u, p, σ, hu, -, -, hm⟩ := abort_cases hact
    exact moved hm (by simp [hu])
  | step j =>
    obtain ⟨⟨c, b, s⟩, s', d, hp, hm⟩ := step_cases hact
    exact moved hm (by cases hp <;> simp)

/-! ## The calls that have not ended -/

/-- Call `i` has not ended: it is running or has not arrived. -/
def Config.Open (cfg : Config C D W L ε ρ) (i : ℕ) : Prop :=
  ∀ t, cfg.threads[i]? = some t → t.status.isRunning

/-- `A` holds of the calls of `cfg'` that had not ended in `cfg`. -/
def Config.OpenCalls (cfg cfg' : Config C D W L ε ρ) (A : C → Prop) : Prop :=
  ∀ (i : ℕ) t, cfg'.threads[i]? = some t → cfg.Open i → A t.call

/-- A call that has ended is left alone. -/
theorem Run.Where.ended {ok : Config C D W L ε ρ → Action C → Prop}
    (r : Run.Where prog ok cfg cfg') {t : Thread C D W L ε ρ} (ht : cfg.threads[i]? = some t)
    (he : ¬ t.status.isRunning) : cfg'.threads[i]? = some t := by
  refine r.induct (I := fun c => c.threads[i]? = some t) ht ?_
  intro c c' a ht _ hact
  have moved : ∀ {j u s' d}, Moves c c' j u s' d → u.status.isRunning → c'.threads[i]? = some t := by
    intro j u s' d hm hu
    have hj : j ≠ i := by
      rintro rfl
      rw [hm.at_i] at ht
      cases ht
      exact he hu
    exact (hm.get_other hj).trans ht
  cases a with
  | arrive c₀ =>
    cases hact
    exact List.getElem?_append_left (List.getElem?_eq_some_iff.1 ht).1 ▸ ht
  | abort j =>
    obtain ⟨u, p, σ, hu, -, -, hm⟩ := abort_cases hact
    exact moved hm (by rw [hu]; rfl)
  | step j =>
    obtain ⟨u, s', d, hp, hm⟩ := step_cases hact
    exact moved hm hp.isRunning

/-- A call that takes a step has not ended before. -/
theorem Run.Where.open_of_step {ok : Config C D W L ε ρ → Action C → Prop}
    (r : Run.Where prog ok cfg cfg') {c : Config C D W L ε ρ}
    (hact : cfg'.act prog (.step i) = some c) : cfg.Open i := by
  intro t ht
  by_contra he
  obtain ⟨u, s', d, hp, hm⟩ := step_cases hact
  have hu := hm.at_i
  rw [r.ended ht he] at hu
  cases hu
  exact he hp.isRunning

theorem Config.OpenCalls.back {ok : Config C D W L ε ρ → Action C → Prop} {A : C → Prop}
    {c : Config C D W L ε ρ} (h : cfg.OpenCalls c A) (r : Run.Where prog ok cfg' c) :
    cfg.OpenCalls cfg' A := by
  intro i t ht ho
  obtain ⟨t', ht', hc, -⟩ := r.thread ht
  exact hc ▸ h i t' ht' ho

/-- A call that holds locks was running before the action, and if the store has changed, then by
    the step of another call. -/
theorem act_locked {a : Action C} (h : cfg.act prog a = some cfg') {t : Thread C D W L ε ρ}
    (ht : cfg'.threads[i]? = some t) (hl : t.status.locks ≠ []) :
    ∃ t₀, cfg.threads[i]? = some t₀ ∧ t₀.call = t.call ∧ t₀.status.isRunning ∧
      (cfg'.db = cfg.db ∨ t₀ = t ∧ ∃ j ≠ i, a = .step j) := by
  have hrun : t.status.isRunning := by
    generalize t.status = s at hl
    cases s with
    | running => rfl
    | returned | aborted => exact absurd rfl hl
  cases a with
  | arrive c =>
    cases h
    rcases arrive_cases ht with ht | ⟨-, rfl⟩
    · exact ⟨t, ht, rfl, hrun, Or.inl rfl⟩
    · exact absurd rfl hl
  | abort j =>
    obtain ⟨tj, p, σ, -, -, -, hm⟩ := abort_cases h
    by_cases hij : j = i
    · subst hij
      rw [hm.get_self] at ht
      cases ht
      exact absurd rfl hl
    · exact ⟨t, (hm.get_other hij).symm.trans ht, rfl, hrun, Or.inl hm.db⟩
  | step j =>
    obtain ⟨tj, s', d, hp, hm⟩ := step_cases h
    by_cases hij : j = i
    · subst hij
      rw [hm.get_self] at ht
      cases ht
      refine ⟨tj, hm.at_i, rfl, hp.isRunning, Or.inl ?_⟩
      generalize tj.status = s at hp
      cases hp with
      | ret | raise | stmt => exact hm.db
      | commit k σ => exact absurd rfl hl
    · exact ⟨t, (hm.get_other hij).symm.trans ht, rfl, hrun, Or.inr ⟨rfl, j, hij, rfl⟩⟩

end

/-! ## Locks -/

theorem Config.busy_eq_true {cfg : Config C D W L ε ρ} {i : ℕ} {l : L} :
    cfg.busy i l = true ↔ ∃ j t, j ≠ i ∧ cfg.threads[j]? = some t ∧ l ∈ t.status.locks := by
  simp only [Config.busy, List.any_eq_true, List.mem_range, Bool.and_eq_true, decide_eq_true_eq]
  constructor
  · rintro ⟨j, -, hj, h⟩
    rcases ht : cfg.threads[j]? with _ | t
    · simp [ht] at h
    · exact ⟨j, t, hj, ht, by simpa [ht] using h⟩
  · rintro ⟨j, t, hj, ht, hl⟩
    exact ⟨j, (List.getElem?_eq_some_iff.1 ht).1, hj, by simpa [ht] using hl⟩

theorem Config.busy_eq_false {cfg : Config C D W L ε ρ} {i : ℕ} {l : L} :
    cfg.busy i l = false ↔ ∀ j t, j ≠ i → cfg.threads[j]? = some t → l ∉ t.status.locks := by
  rw [← Bool.not_eq_true, Config.busy_eq_true]
  push Not
  rfl

/-- No two calls hold the same lock. -/
def Config.Disjointed (cfg : Config C D W L ε ρ) : Prop :=
  ∀ (i j : ℕ) (ti tj : Thread C D W L ε ρ), i ≠ j → cfg.threads[i]? = some ti →
    cfg.threads[j]? = some tj → ti.status.locks.Disjoint tj.status.locks

/-- The locks after a move were held before or were free. -/
theorem Progress.locks [Store D W] {cfg : Config C D W L ε ρ} {i : ℕ} {s s' : Status D W L ε ρ}
    {d : D} (h : Progress cfg i s s' d) :
    ∀ l ∈ s'.locks, l ∈ s.locks ∨ cfg.busy i l = false := by
  cases h with
  | ret | raise | commit => intro l hl; simp [Status.locks] at hl
  | stmt s k σ hw => exact s.fresh _ _ _ hw

theorem Config.Disjointed.moves {cfg cfg' : Config C D W L ε ρ} {i : ℕ}
    {t : Thread C D W L ε ρ} {s' : Status D W L ε ρ} {d : D}
    (hd : cfg.Disjointed) (hm : Moves cfg cfg' i t s' d)
    (hl : ∀ l ∈ s'.locks, l ∈ t.status.locks ∨ cfg.busy i l = false) : cfg'.Disjointed := by
  have key : ∀ (j : ℕ) (tj : Thread C D W L ε ρ), i ≠ j → cfg.threads[j]? = some tj →
      s'.locks.Disjoint tj.status.locks := by
    intro j tj hij hj l hl1 hl2
    rcases hl l hl1 with h | h
    · exact hd i j t tj hij hm.at_i hj h hl2
    · exact Config.busy_eq_false.1 h j tj (Ne.symm hij) hj hl2
  intro a b ta tb hab ha hb
  by_cases hia : i = a
  · subst hia
    rw [hm.get_self] at ha; cases ha
    rw [hm.get_other hab] at hb
    exact key b tb hab hb
  · rw [hm.get_other hia] at ha
    by_cases hib : i = b
    · subst hib
      rw [hm.get_self] at hb; cases hb
      exact fun l h1 h2 => key a ta (Ne.symm hab) ha h2 h1
    · rw [hm.get_other hib] at hb
      exact hd a b ta tb hab ha hb

/-- Every action keeps the locks of different calls disjoint. -/
theorem Config.Disjointed.act [Store D W] {prog : C → Prog D W L ε ρ}
    {cfg cfg' : Config C D W L ε ρ} {a : Action C} (hd : cfg.Disjointed)
    (h : cfg.act prog a = some cfg') : cfg'.Disjointed := by
  cases a with
  | arrive c =>
    cases h
    intro i j ti tj hij hi hj
    rcases arrive_cases hi with hi | ⟨rfl, rfl⟩ <;> rcases arrive_cases hj with hj | ⟨rfl, rfl⟩
    · exact hd i j ti tj hij hi hj
    · simp [Status.locks]
    · simp [Status.locks]
    · exact absurd rfl hij
  | step i =>
    obtain ⟨t, s', d, hp, hm⟩ := step_cases h
    exact hd.moves hm hp.locks
  | abort i =>
    obtain ⟨t, p, σ, -, -, -, hm⟩ := abort_cases h
    exact hd.moves hm (by simp [Status.locks])

end

end Txn
