/-
  Calls that come to their end whichever of them moves next.

  Every step of a call leaves a smaller part of its program, so the steps of
  some calls cannot go on for ever (`steps_wf`), and they stop only when all
  calls have ended or the running ones are deadlocked.

  * `Ends`: all calls end, in whatever order they move;
  * `ends_of_not_deadlocked`: they do if no configuration on the way has a deadlock.
-/
import TicketReservation.Txn.Finish
import Mathlib.Logic.Hydra
import Mathlib.Tactic.Abel

namespace Txn

variable {C D W L ε ρ : Type} [Store D W] [DecidableEq L] {prog : C → Prog D W L ε ρ}
  {cfg cfg' : Config C D W L ε ρ} {i : ℕ} {t : Thread C D W L ε ρ} {s s' : Status D W L ε ρ} {d : D}

/-- All calls end, whichever of them moves next. -/
inductive Ends (prog : C → Prog D W L ε ρ) : Config C D W L ε ρ → Prop
  | finished {cfg : Config C D W L ε ρ} : cfg.Finished → Ends prog cfg
  | step {cfg : Config C D W L ε ρ} : (∃ i cfg', cfg.act prog (.step i) = some cfg') →
      (∀ i cfg', cfg.act prog (.step i) = some cfg' → Ends prog cfg') → Ends prog cfg

/-- A step takes a call from `s` to `s'`. -/
def Status.Next (s' s : Status D W L ε ρ) : Prop :=
  ∃ (C : Type) (cfg : Config C D W L ε ρ) (i : ℕ) (d : D), Progress cfg i s s' d

theorem Status.next_wf : WellFounded (Status.Next : Status D W L ε ρ → Status D W L ε ρ → Prop) := by
  have hended : ∀ s : Status D W L ε ρ, s.isRunning = false → Acc Status.Next s := by
    refine fun s hs => ⟨s, fun s' ⟨_, _, _, _, hp⟩ => ?_⟩
    rw [hp.isRunning] at hs
    cases hs
  refine ⟨fun s => ?_⟩
  cases s with
  | returned r => exact hended _ rfl
  | aborted => exact hended _ rfl
  | running p σ =>
    induction p generalizing σ with
    | ret a =>
      refine ⟨_, fun s' ⟨_, _, _, _, hp⟩ => ?_⟩
      obtain ⟨rfl, -⟩ := hp.of_ret
      exact hended _ rfl
    | raise e =>
      refine ⟨_, fun s' ⟨_, _, _, _, hp⟩ => ?_⟩
      obtain ⟨rfl, -⟩ := hp.of_raise
      exact hended _ rfl
    | stmt st k ih =>
      refine ⟨_, fun s' ⟨_, _, _, _, hp⟩ => ?_⟩
      obtain ⟨-, rfl, -⟩ := hp.of_stmt
      exact ih _ _
    | commit k ih =>
      refine ⟨_, fun s' ⟨_, _, _, _, hp⟩ => ?_⟩
      obtain ⟨rfl, -⟩ := hp.of_commit
      exact ih _

/-- The statuses of the calls. -/
def Config.statuses (cfg : Config C D W L ε ρ) : Multiset (Status D W L ε ρ) :=
  (cfg.threads.map Thread.status : List (Status D W L ε ρ))

omit [Store D W] [DecidableEq L] in
theorem Moves.statuses (hm : Moves cfg cfg' i t s d) :
    cfg'.statuses + {t.status} = cfg.statuses + {s} := by
  obtain ⟨hi, hat⟩ := List.getElem?_eq_some_iff.1 hm.at_i
  have hbefore : cfg.threads = cfg.threads.take i ++ t :: cfg.threads.drop (i + 1) := by
    rw [← hat, ← List.drop_eq_getElem_cons hi, List.take_append_drop]
  have hafter : cfg'.threads = cfg.threads.take i ++ { t with status := s } ::
      cfg.threads.drop (i + 1) := by
    rw [hm.next, List.set_eq_take_append_cons_drop, if_pos hi]
  simp only [Config.statuses]
  rw [congrArg (List.map Thread.status) hbefore, hafter, List.map_append, List.map_append,
    ← Multiset.coe_add, ← Multiset.coe_add, List.map_cons, List.map_cons, ← Multiset.cons_coe,
    ← Multiset.cons_coe, ← Multiset.singleton_add, ← Multiset.singleton_add]
  abel

/-- **Steps do not go on for ever.** -/
theorem steps_wf (prog : C → Prog D W L ε ρ) : WellFounded fun cfg' cfg : Config C D W L ε ρ =>
    ∃ i, cfg.act prog (.step i) = some cfg' := by
  refine Subrelation.wf (r := InvImage (Relation.CutExpand Status.Next) Config.statuses) ?_
    (InvImage.wf _ Status.next_wf.cutExpand)
  rintro cfg' cfg ⟨i, hact⟩
  obtain ⟨t, s', d, hp, hm⟩ := step_cases hact
  exact ⟨{s'}, t.status, by simpa using ⟨_, _, _, _, hp⟩, hm.statuses⟩

/-- Calls of which none can make a step are deadlocked. -/
theorem deadlocked_of_stuck (h : ¬ cfg.Finished)
    (hstuck : ∀ i cfg', cfg.act prog (.step i) ≠ some cfg') :
    Deadlocked (fun _ => True) cfg { i | ∃ t, cfg.threads[i]? = some t ∧ t.status.isRunning } := by
  constructor
  · simp only [Config.Finished, not_forall, Bool.not_eq_false] at h
    obtain ⟨t, ht, hrun⟩ := h
    obtain ⟨i, hi⟩ := List.getElem?_of_mem ht
    exact ⟨i, t, hi, hrun⟩
  · rintro i ⟨t, hi, hrun⟩
    obtain ⟨p, σ, hs⟩ : ∃ p σ, t.status = .running p σ := by
      cases hst : t.status with
      | running p σ => exact ⟨p, σ, rfl⟩
      | returned | aborted => rw [hst] at hrun; cases hrun
    by_cases hw : ∀ l ∈ p.wants cfg.db σ, cfg.busy i l = false
    · obtain ⟨c, -, -, hact, -⟩ := exists_step hi hs hw
      exact absurd hact (hstuck i c)
    · push Not at hw
      obtain ⟨l, hl, hbusy⟩ := hw
      obtain ⟨j, tj, hji, hj, hlock⟩ := Config.busy_eq_true.1 (Bool.eq_true_of_not_eq_false hbusy)
      refine ⟨l, trivial, j, ⟨tj, hj, ?_⟩, Ne.symm hji, ⟨t, hi, by rwa [hs]⟩, ⟨tj, hj, hlock⟩⟩
      cases hst : tj.status with
      | running => rfl
      | returned | aborted => rw [hst] at hlock; cases hlock

/-- **Calls that cannot deadlock end.** -/
theorem ends_of_not_deadlocked {I : Config C D W L ε ρ → Prop}
    (hstep : ∀ {cfg cfg' : Config C D W L ε ρ} {i}, I cfg → cfg.act prog (.step i) = some cfg' → I cfg')
    (hfree : ∀ {cfg : Config C D W L ε ρ}, I cfg → ¬ Deadlocked (fun _ => True) cfg
      { i | ∃ t, cfg.threads[i]? = some t ∧ t.status.isRunning }) (h : I cfg) : Ends prog cfg := by
  induction cfg using (steps_wf prog).induction with
  | h cfg ih =>
    by_cases hf : cfg.Finished
    · exact .finished hf
    · refine .step ?_ fun i cfg' hact => ih cfg' ⟨i, hact⟩ (hstep h hact)
      by_contra hno
      exact hfree h (deadlocked_of_stuck hf fun i cfg' hact => hno ⟨i, cfg', hact⟩)

end Txn
