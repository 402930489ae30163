/-
  What a call waits for, and deadlocks.

  A running call waits while its next statement wants a lock that another call
  holds (`WaitsFor`).  A set of calls is deadlocked if each of them waits for
  another one of the set (`Deadlocked`).

  * `not_deadlocked_of_height`: if waits lead upwards, then no set of calls is
    deadlocked; `not_deadlocked`: so it is if every lock that a call waits for
    ranks above all the locks that the call holds;
  * `Settled.progress`, `Settled.wants`: how a call moves on with a settled part
    of its program, and what it waits for there.
-/
import TicketReservation.Txn.Concurrent
import TicketReservation.Txn.Rely
import Mathlib.Data.Finite.Prod
import Mathlib.Data.Set.Finite.Lemmas

namespace Txn

variable {C D W L ε ρ α : Type}

/-- The locks that the next statement wants. -/
def Prog.wants : Prog D W L ε α → D → Session W L → List L
  | .stmt s _, d, σ => s.wants d σ
  | _, _, _ => []

/-- The locks that a call wants next. -/
def Status.wants (d : D) : Status D W L ε ρ → List L
  | .running p σ => p.wants d σ
  | _ => []

/-- Call `i` waits for the lock `l`, which call `j` holds. -/
structure WaitsFor (cfg : Config C D W L ε ρ) (i : ℕ) (l : L) (j : ℕ) : Prop where
  ne : i ≠ j
  wants : ∃ t, cfg.threads[i]? = some t ∧ l ∈ t.status.wants cfg.db
  holds : ∃ t, cfg.threads[j]? = some t ∧ l ∈ t.status.locks

instance [DecidableEq L] (cfg : Config C D W L ε ρ) (i : ℕ) (l : L) (j : ℕ) :
    Decidable (WaitsFor cfg i l j) :=
  decidable_of_iff (i ≠ j ∧ (cfg.threads[i]?.any fun t => decide (l ∈ t.status.wants cfg.db)) ∧
      cfg.threads[j]?.any fun t => decide (l ∈ t.status.locks))
    (by simp only [Option.any_eq_true, decide_eq_true_eq]
        exact ⟨fun ⟨h, hw, hh⟩ => ⟨h, hw, hh⟩, fun h => ⟨h.ne, h.wants, h.holds⟩⟩)

/-- Each call of the set waits for a lock of the kind `kind` that another call
    of the set holds. -/
structure Deadlocked (kind : L → Prop) (cfg : Config C D W L ε ρ) (calls : Set ℕ) : Prop where
  nonempty : calls.Nonempty
  waits : ∀ i ∈ calls, ∃ l, kind l ∧ ∃ j ∈ calls, WaitsFor cfg i l j

/-- **Waits that lead upwards do not deadlock**: a call that waits for another one is lower than
    this one, when it waits too. -/
theorem not_deadlocked_of_height {ι : Type} [LinearOrder ι] (height : ℕ → L → ι) {kind : L → Prop}
    {cfg : Config C D W L ε ρ} {calls : Set ℕ}
    (h : ∀ i ∈ calls, ∀ j ∈ calls, ∀ k ∈ calls, ∀ l l', kind l → kind l' → WaitsFor cfg i l j →
      WaitsFor cfg j l' k → height i l < height j l') : ¬ Deadlocked kind cfg calls := by
  intro hd
  let waits : Set (ℕ × L) := { w | w.1 ∈ calls ∧ kind w.2 ∧ ∃ j ∈ calls, WaitsFor cfg w.1 w.2 j }
  have hfin : waits.Finite := by
    refine ((Set.finite_lt_nat cfg.threads.length).prod
      (cfg.threads.flatMap fun t => t.status.locks).finite_toSet).subset ?_
    rintro ⟨i, l⟩ ⟨-, -, j, -, hw⟩
    obtain ⟨ti, hti, -⟩ := hw.wants
    obtain ⟨tj, htj, hl⟩ := hw.holds
    exact ⟨(List.getElem?_eq_some_iff.1 hti).1, List.mem_flatMap.2 ⟨tj, List.mem_of_getElem? htj, hl⟩⟩
  have hne : waits.Nonempty := by
    obtain ⟨i, hi⟩ := hd.nonempty
    obtain ⟨l, hk, hw⟩ := hd.waits i hi
    exact ⟨(i, l), hi, hk, hw⟩
  -- the highest wait is for a call that waits higher
  obtain ⟨⟨i, l⟩, ⟨hi, hk, j, hj, hw⟩, hmax⟩ :=
    Set.exists_max_image waits (fun w => height w.1 w.2) hfin hne
  obtain ⟨l', hk', k, hk₂, hw'⟩ := hd.waits j hj
  exact absurd (hmax (j, l') ⟨hj, hk', k, hk₂, hw'⟩)
    (not_le.2 (h i hi j hj k hk₂ l l' hk hk' hw hw'))

/-- **Locks that are taken in ascending order do not deadlock.** -/
theorem not_deadlocked {ι : Type} [LinearOrder ι] (rank : L → ι) {kind : L → Prop}
    {cfg : Config C D W L ε ρ} {calls : Set ℕ}
    (h : ∀ i ∈ calls, ∀ t, cfg.threads[i]? = some t → ∀ l ∈ t.status.wants cfg.db, kind l →
      (∃ j ∈ calls, WaitsFor cfg i l j) → ∀ m ∈ t.status.locks, kind m → rank m < rank l) :
    ¬ Deadlocked kind cfg calls := by
  refine not_deadlocked_of_height (fun _ l => rank l) fun i hi j hj k hk l l' hkl hkl' hw hw' => ?_
  obtain ⟨t, ht, hl⟩ := hw.holds
  obtain ⟨t', ht', hl'⟩ := hw'.wants
  rw [ht] at ht'
  cases ht'
  exact h j hj t ht l' hl' hkl' ⟨k, hk, hw'⟩ l hl hkl

/-! ## Settled parts of a call -/

namespace Settled
variable {K : D → Prop} {p : Prog D W L ε α} {f : α → Prog D W L ε ρ} {σ σ' : Session W L} {a : α}

/-- A call in a settled part of its program goes on in it, or is at its end. -/
theorem progress [Store D W] [DecidableEq L] {cfg : Config C D W L ε ρ} {i : ℕ}
    {s' : Status D W L ε ρ} {d : D} (h : Settled K p σ (.ok a) σ') (hK : K cfg.db)
    (hp : Progress cfg i (.running (p.bind f) σ) s' d) :
    (p = .ret a ∧ σ = σ') ∨ ∃ p₁ σ₁, Settled K p₁ σ₁ (.ok a) σ' ∧ σ.locks <+: σ₁.locks ∧
      s' = .running (p₁.bind f) σ₁ ∧ d = cfg.db := by
  cases h with
  | ret => exact Or.inl ⟨rfl, rfl⟩
  | stmt b σ₁ hs hw hl hk =>
    obtain ⟨-, rfl, rfl⟩ := Progress.of_stmt hp
    rw [hs cfg.db (cfg.busy i) hK]
    exact Or.inr ⟨_, σ₁, hk, hl, rfl, rfl⟩

/-- What a call wants in a settled part are the next locks that it will hold. -/
theorem wants {d : D} (h : Settled K p σ (.ok a) σ') (hK : K d) :
    (p = .ret a ∧ σ = σ') ∨ ∃ Λ : List L, (p.bind f).wants d σ ⊆ σ.locks ++ Λ ∧
      σ.locks ++ Λ <+: σ'.locks := by
  cases h with
  | ret => exact Or.inl ⟨rfl, rfl⟩
  | stmt b σ₁ hs hw hl hk =>
    obtain ⟨Λ, hΛ⟩ := hl
    exact Or.inr ⟨Λ, hΛ ▸ hw d hK, hΛ ▸ hk.locks⟩

end Settled

end Txn
