/-
  `LIKE` of SQL, over lists of characters.

  `%` stands for any characters, `_` for any one character, every other
  character for itself.  Patterns with escape characters are left out.

  * `like_append_percent`: a pattern whose only `%` is its last character
    matches the strings that start with characters it covers one by one.
-/
import Mathlib.Data.List.Infix
import Mathlib.Data.List.Forall2

namespace Sql

/-- `s LIKE pattern`, on the characters of both. -/
def like : List Char → List Char → Bool
  | [], s => s.isEmpty
  | c :: pattern, s =>
    if c = '%' then s.tails.any (like pattern)
    else match s with
      | [] => false
      | x :: s => (c = '_' || c = x) && like pattern s

/-- The character `c` of a pattern covers the character `x`. -/
abbrev Covers (c x : Char) : Prop := c = '_' ∨ c = x

namespace like

@[simp] theorem percent (s : List Char) : like ['%'] s = true := by
  rw [like.eq_def]
  refine List.any_eq_true.2 ?_
  exact ⟨[], (List.mem_tails _ _).2 List.nil_suffix, rfl⟩

theorem cons_nil {c : Char} (hc : c ≠ '%') (pattern : List Char) : like (c :: pattern) [] = false := by
  rw [like, if_neg hc]

theorem cons_cons {c : Char} (hc : c ≠ '%') (pattern : List Char) (x : Char) (s : List Char) :
    like (c :: pattern) (x :: s) ↔ Covers c x ∧ like pattern s := by
  rw [like, if_neg hc]
  simp

end like

/-- **A pattern that ends in its only `%`.** -/
theorem like_append_percent {pattern : List Char} (hp : '%' ∉ pattern) (s : List Char) :
    like (pattern ++ ['%']) s ↔ ∃ t u, s = t ++ u ∧ List.Forall₂ Covers pattern t := by
  induction pattern generalizing s with
  | nil =>
    constructor
    · intro _
      exact ⟨[], s, rfl, .nil⟩
    · intro _
      exact like.percent s
  | cons c pattern ih =>
    rw [List.mem_cons, not_or] at hp
    have hc : c ≠ '%' := fun h => hp.1 h.symm
    rw [List.cons_append]
    cases s with
    | nil =>
      rw [like.cons_nil hc]
      constructor
      · intro h
        cases h
      · rintro ⟨t, u, h, hcov⟩
        rw [(List.append_eq_nil_iff.1 h.symm).1] at hcov
        cases hcov
    | cons x s =>
      rw [like.cons_cons hc, ih hp.2]
      constructor
      · rintro ⟨hx, t, u, rfl, hcov⟩
        exact ⟨x :: t, u, rfl, .cons hx hcov⟩
      · rintro ⟨t, u, h, hcov⟩
        cases hcov with
        | cons hx hcov =>
          rw [List.cons_append, List.cons.injEq] at h
          obtain ⟨rfl, rfl⟩ := h
          exact ⟨hx, _, u, rfl, hcov⟩

end Sql
