/-
  Runs that come to their end.

  A call that holds locks and is not at a statement can move on and release
  them.  A call that no other one hinders runs to its end, since programs are
  finite.  So the calls can be finished, if at most one of those at a statement
  holds locks.

  * `Steps`: a run in which the calls only make steps;
  * `finish_call`: a call that no other one hinders runs to its end;
  * `bring_each`: what can be reached for each call can be reached for all;
  * `exists_finished`: if no two calls hold locks at statements, all can be finished.
-/
import TicketReservation.Txn.Locking

namespace Txn

variable {C D W L ε ρ : Type}

/-- The call is at a statement. -/
def Status.AtStmt : Status D W L ε ρ → Prop
  | .running (.stmt _ _) _ => True
  | _ => False

variable [Store D W] [DecidableEq L] {prog : C → Prog D W L ε ρ} {cfg cfg' c : Config C D W L ε ρ}
  {i : ℕ} {t : Thread C D W L ε ρ} {s s' : Status D W L ε ρ} {d : D}

/-- A run in which the calls only make steps: none arrives, and none is aborted. -/
abbrev Steps (prog : C → Prog D W L ε ρ) (cfg cfg' : Config C D W L ε ρ) : Prop :=
  Run.Where prog (fun _ a => ∃ i, a = .step i) cfg cfg'

/-- A call that is not aborted is not aborted by steps. -/
theorem Run.Where.not_aborted (r : Steps prog cfg cfg') (ht : cfg.threads[i]? = some t)
    (hs : t.status ≠ .aborted) : ∃ t', cfg'.threads[i]? = some t' ∧ t'.status ≠ .aborted := by
  refine r.induct (I := fun c => ∃ t, c.threads[i]? = some t ∧ t.status ≠ .aborted) ⟨t, ht, hs⟩ ?_
  rintro c c' _ ⟨u, hu, hus⟩ ⟨j, rfl⟩ hact
  obtain ⟨v, s', d, hp, hm⟩ := step_cases hact
  by_cases hji : j = i
  · subst hji
    refine ⟨_, hm.get_self, fun (h : s' = .aborted) => ?_⟩
    generalize v.status = w at hp
    cases hp <;> cases h
  · exact ⟨u, (hm.get_other hji).trans hu, hus⟩

/-- Call `i` comes to `s` while the others stay where they are. -/
structure Config.Brings (prog : C → Prog D W L ε ρ) (cfg cfg' : Config C D W L ε ρ) (i : ℕ)
    (t : Thread C D W L ε ρ) (s : Status D W L ε ρ) : Prop where
  run : Steps prog cfg cfg'
  next : cfg'.threads = cfg.threads.set i { t with status := s }

namespace Config.Brings

theorem step (h : cfg.act prog (.step i) = some c) (hm : Moves cfg c i t s d) :
    cfg.Brings prog c i t s := ⟨.tail _ (.refl _) ⟨i, rfl⟩ h, hm.next⟩

theorem cons (h : cfg.act prog (.step i) = some c) (hm : Moves cfg c i t s d)
    (hb : c.Brings prog cfg' i { t with status := s } s') : cfg.Brings prog cfg' i t s' := by
  refine ⟨(Run.Where.tail _ (.refl _) ⟨i, rfl⟩ h).trans hb.run, ?_⟩
  rw [hb.next, hm.next, List.set_set]

theorem refl (ht : cfg.threads[i]? = some t) : cfg.Brings prog cfg i t t.status := by
  obtain ⟨hlt, rfl⟩ := List.getElem?_eq_some_iff.1 ht
  exact ⟨.refl _, (List.set_getElem_self hlt).symm⟩

theorem calls (ht : cfg.threads[i]? = some t) (hb : cfg.Brings prog cfg' i t s) :
    cfg'.threads.map Thread.call = cfg.threads.map Thread.call :=
  Moves.calls (d := cfg'.db) ⟨ht, hb.next, rfl⟩

end Config.Brings

/-- A running call that waits for no lock can make a step. -/
theorem exists_step {p : Prog D W L ε ρ} {σ : Session W L} (ht : cfg.threads[i]? = some t)
    (hs : t.status = .running p σ) (hw : ∀ l ∈ p.wants cfg.db σ, cfg.busy i l = false) :
    ∃ c s' d, cfg.act prog (.step i) = some c ∧ Progress cfg i (.running p σ) s' d ∧
      Moves cfg c i t s' d := by
  have hact : ∃ c, cfg.act prog (.step i) = some c := by
    obtain ⟨_, _, s⟩ := t
    obtain rfl : s = .running p σ := hs
    simp only [Config.act, ht]
    cases p with
    | ret | raise | commit => exact ⟨_, rfl⟩
    | stmt s k => exact ⟨_, if_neg (by simpa [Prog.wants] using hw)⟩
  obtain ⟨c, hact⟩ := hact
  obtain ⟨t', s', d, hp, hm⟩ := step_cases hact
  obtain rfl : t = t' := Option.some.inj (ht.symm.trans hm.at_i)
  exact ⟨c, s', d, hact, hs ▸ hp, hm⟩

omit [Store D W] in
/-- A call that no other one hinders stays so. -/
theorem Moves.free (hm : Moves cfg cfg' i t s d) (h : ∀ l, cfg.busy i l = false) (l : L) :
    cfg'.busy i l = false := by
  rw [Config.busy_eq_false]
  intro j tj hji hj
  rw [hm.get_other (Ne.symm hji)] at hj
  exact Config.busy_eq_false.1 (h l) j tj hji hj

variable (prog)

/-- **A call that no other one hinders runs to its end.** -/
theorem finish_call {p : Prog D W L ε ρ} {σ : Session W L} (ht : cfg.threads[i]? = some t)
    (hs : t.status = .running p σ) (hfree : ∀ l, cfg.busy i l = false) :
    ∃ cfg' r, cfg.Brings prog cfg' i t (.returned r) := by
  induction p generalizing cfg σ t with
  | ret a =>
    obtain ⟨c, s', d, hact, hp, hm⟩ := exists_step ht hs fun l _ => hfree l
    obtain ⟨rfl, -⟩ := hp.of_ret
    exact ⟨c, _, .step hact hm⟩
  | raise e =>
    obtain ⟨c, s', d, hact, hp, hm⟩ := exists_step ht hs fun l _ => hfree l
    obtain ⟨rfl, -⟩ := hp.of_raise
    exact ⟨c, _, .step hact hm⟩
  | stmt s k ih =>
    obtain ⟨c, s', d, hact, hp, hm⟩ := exists_step ht hs fun l _ => hfree l
    obtain ⟨-, rfl, -⟩ := hp.of_stmt
    obtain ⟨cfg', r, hb⟩ := ih _ hm.get_self rfl (hm.free hfree)
    exact ⟨cfg', r, .cons hact hm hb⟩
  | commit k ih =>
    obtain ⟨c, s', d, hact, hp, hm⟩ := exists_step ht hs fun l _ => hfree l
    obtain ⟨rfl, -⟩ := hp.of_commit
    obtain ⟨cfg', r, hb⟩ := ih hm.get_self rfl (hm.free hfree)
    exact ⟨cfg', r, .cons hact hm hb⟩

/-- **What can be reached for each call can be reached for all of them.** -/
theorem bring_each {P : Config C D W L ε ρ → Prop} {Q : Status D W L ε ρ → Prop}
    (one : ∀ {cfg : Config C D W L ε ρ} {i t}, P cfg → cfg.threads[i]? = some t →
      ∃ cfg' s, cfg.Brings prog cfg' i t s ∧ P cfg' ∧ Q s) (h : P cfg) :
    ∃ cfg', Steps prog cfg cfg' ∧ P cfg' ∧
      cfg'.threads.map Thread.call = cfg.threads.map Thread.call ∧ ∀ t ∈ cfg'.threads, Q t.status := by
  have upto : ∀ n ≤ cfg.threads.length, ∃ cfg', Steps prog cfg cfg' ∧ P cfg' ∧
      cfg'.threads.map Thread.call = cfg.threads.map Thread.call ∧
      ∀ i < n, ∀ t, cfg'.threads[i]? = some t → Q t.status := by
    intro n
    induction n with
    | zero => exact fun _ => ⟨cfg, .refl _, h, rfl, fun i hi => absurd hi (Nat.not_lt_zero i)⟩
    | succ n ih =>
      intro hn
      obtain ⟨c, r, hP, hcalls, hQ⟩ := ih (by omega)
      have hlen : c.threads.length = cfg.threads.length := by
        simpa using congrArg List.length hcalls
      obtain ⟨cfg', s, hb, hP', hs⟩ := one hP (List.getElem?_eq_getElem (hlen ▸ hn))
      refine ⟨cfg', r.trans hb.run, hP', (hb.calls (List.getElem?_eq_getElem _)).trans hcalls, ?_⟩
      intro i hi t ht
      rw [hb.next] at ht
      by_cases hin : n = i
      · subst hin
        rw [List.getElem?_set_self (hlen ▸ hn)] at ht
        cases ht
        exact hs
      · rw [List.getElem?_set_ne hin] at ht
        exact hQ i (by omega) t ht
  obtain ⟨cfg', r, hP, hcalls, hQ⟩ := upto _ le_rfl
  refine ⟨cfg', r, hP, hcalls, fun t ht => ?_⟩
  obtain ⟨i, hi, rfl⟩ := List.getElem_of_mem ht
  have hlen : cfg'.threads.length = cfg.threads.length := by simpa using congrArg List.length hcalls
  exact hQ i (hlen ▸ hi) _ (List.getElem?_eq_getElem hi)

/-- A call that is not at a statement moves on and releases its locks. -/
theorem release_call (ht : cfg.threads[i]? = some t) (hs : ¬ t.status.AtStmt) :
    ∃ cfg' s, cfg.Brings prog cfg' i t s ∧ s.locks = [] := by
  cases hst : t.status with
  | returned | aborted => exact ⟨cfg, t.status, .refl ht, by rw [hst]; rfl⟩
  | running p σ =>
    rw [hst] at hs
    cases p with
    | stmt s k => exact absurd trivial hs
    | ret a =>
      obtain ⟨c, s', d, hact, hp, hm⟩ := exists_step ht hst (by simp [Prog.wants])
      obtain ⟨rfl, -⟩ := hp.of_ret
      exact ⟨c, _, .step hact hm, rfl⟩
    | raise e =>
      obtain ⟨c, s', d, hact, hp, hm⟩ := exists_step ht hst (by simp [Prog.wants])
      obtain ⟨rfl, -⟩ := hp.of_raise
      exact ⟨c, _, .step hact hm, rfl⟩
    | commit k =>
      obtain ⟨c, s', d, hact, hp, hm⟩ := exists_step ht hst (by simp [Prog.wants])
      obtain ⟨rfl, -⟩ := hp.of_commit
      exact ⟨c, _, .step hact hm, rfl⟩

omit [Store D W] [DecidableEq L] in
/-- Of the calls whose status is of the kind, at most one holds locks. -/
def Config.OneHolder (kind : Status D W L ε ρ → Prop) (cfg : Config C D W L ε ρ) : Prop :=
  ∀ (i j : ℕ) (ti tj : Thread C D W L ε ρ), i ≠ j → cfg.threads[i]? = some ti →
    cfg.threads[j]? = some tj → kind ti.status → kind tj.status →
      ti.status.locks = [] ∨ tj.status.locks = []

variable {prog}

theorem Config.OneHolder.brings {kind : Status D W L ε ρ → Prop} (h : cfg.OneHolder kind)
    (ht : cfg.threads[i]? = some t) (hb : cfg.Brings prog cfg' i t s) (hs : s.locks = []) :
    cfg'.OneHolder kind := by
  have hm : Moves cfg cfg' i t s cfg'.db := ⟨ht, hb.next, rfl⟩
  intro j k tj tk hjk hj hk aj ak
  by_cases hij : i = j
  · subst hij
    rw [hm.get_self] at hj; cases hj
    exact Or.inl hs
  by_cases hik : i = k
  · subst hik
    rw [hm.get_self] at hk; cases hk
    exact Or.inr hs
  rw [hm.get_other hij] at hj
  rw [hm.get_other hik] at hk
  exact h j k tj tk hjk hj hk aj ak

variable (prog)

/-- The one call that holds locks runs to its end. -/
theorem finish_holder (h : cfg.OneHolder fun _ => True) (ht : cfg.threads[i]? = some t)
    (hl : t.status.locks ≠ []) : ∃ cfg' r, cfg.Brings prog cfg' i t (.returned r) := by
  cases hst : t.status with
  | returned | aborted => exact absurd (by rw [hst]; rfl) hl
  | running p σ =>
    refine finish_call prog ht hst fun l => Config.busy_eq_false.2 fun j tj hji hj => ?_
    rcases h i j t tj (Ne.symm hji) ht hj trivial trivial with hi | hj
    · exact absurd hi hl
    · rw [hj]
      exact List.not_mem_nil

/-- **If at most one call at a statement holds locks, all calls can be finished.** -/
theorem exists_finished (h : cfg.OneHolder Status.AtStmt) :
    ∃ cfg', Steps prog cfg cfg' ∧ cfg'.Finished ∧
      cfg'.threads.map Thread.call = cfg.threads.map Thread.call := by
  -- first the calls that are not at a statement release their locks
  obtain ⟨c₁, r₁, h₁, hcalls₁, hstmt⟩ := bring_each prog (P := Config.OneHolder Status.AtStmt)
    (Q := fun s => s.locks ≠ [] → s.AtStmt) (fun {c i t} hP ht => by
      by_cases hs : t.status.AtStmt
      · exact ⟨c, t.status, .refl ht, hP, fun _ => hs⟩
      · obtain ⟨c', s, hb, hl⟩ := release_call prog ht hs
        exact ⟨c', s, hb, hP.brings ht hb hl, fun h => absurd hl h⟩) h
  have hone : c₁.OneHolder fun _ => True := by
    intro i j ti tj hij hi hj _ _
    by_cases hl : ti.status.locks = []
    · exact Or.inl hl
    by_cases hl' : tj.status.locks = []
    · exact Or.inr hl'
    exact h₁ i j ti tj hij hi hj (hstmt ti (List.mem_of_getElem? hi) hl)
      (hstmt tj (List.mem_of_getElem? hj) hl')
  -- then the one that still holds locks runs to its end
  obtain ⟨c₂, r₂, -, hcalls₂, hfree⟩ := bring_each prog
    (P := Config.OneHolder fun _ : Status D W L ε ρ => True)
    (Q := fun s => s.locks = []) (fun {c i t} hP ht => by
      by_cases hl : t.status.locks = []
      · exact ⟨c, t.status, .refl ht, hP, hl⟩
      · obtain ⟨c', r, hb⟩ := finish_holder prog hP ht hl
        exact ⟨c', _, hb, hP.brings ht hb rfl, rfl⟩) hone
  -- and then one call after another
  obtain ⟨c₃, r₃, -, hcalls₃, hdone⟩ := bring_each prog
    (P := fun c => ∀ t ∈ c.threads, t.status.locks = [])
    (Q := fun s => s.isRunning = false) (fun {c i t} hP ht => by
      cases hst : t.status with
      | returned | aborted => exact ⟨c, t.status, .refl ht, hP, by rw [hst]; rfl⟩
      | running p σ =>
        have hidle : ∀ l, c.busy i l = false := fun l => Config.busy_eq_false.2 fun j tj _ hj => by
          rw [hP tj (List.mem_of_getElem? hj)]
          exact List.not_mem_nil
        obtain ⟨c', r, hb⟩ := finish_call prog ht hst hidle
        refine ⟨c', _, hb, fun t' ht' => ?_, rfl⟩
        rcases List.mem_or_eq_of_mem_set (hb.next ▸ ht') with ht' | rfl
        · exact hP t' ht'
        · rfl) hfree
  exact ⟨c₃, r₁.trans (r₂.trans r₃), hdone, hcalls₃.trans (hcalls₂.trans hcalls₁)⟩

end Txn
