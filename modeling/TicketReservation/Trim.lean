/-
  Trimming: the characters at both ends of a text that satisfy a predicate are
  dropped.

  * `trim_trim`: trimming twice is trimming once;
  * `trim_eq_self_of`: a trimmed text is trimmed by any other predicate that
    drops none of its further characters.
-/
import Mathlib.Data.List.DropRight
import Mathlib.Data.List.TakeWhile

namespace Text

/-- Drop the characters that satisfy `p` from both ends. -/
def trim (p : Char → Bool) (s : String) : String :=
  String.ofList ((s.toList.dropWhile p).rdropWhile p)

variable {p q : Char → Bool}

theorem toList_trim (s : String) : (trim p s).toList = (s.toList.dropWhile p).rdropWhile p :=
  String.toList_ofList

theorem length_trim_le (s : String) : (trim p s).length ≤ s.length := by
  rw [← String.length_toList, ← String.length_toList, toList_trim]
  calc ((s.toList.dropWhile p).rdropWhile p).length
      ≤ (s.toList.dropWhile p).length := (List.rdropWhile_prefix p _).length_le
    _ ≤ s.toList.length := List.length_dropWhile_le p _

theorem mem_dropWhile_iff {c : Char} (hc : p c = false) (l : List Char) :
    c ∈ l.dropWhile p ↔ c ∈ l := by
  induction l with
  | nil => rfl
  | cons x l ih =>
    rw [List.dropWhile_cons]
    split_ifs with hx
    · have hne : c ≠ x := by
        rintro rfl
        rw [hc] at hx
        cases hx
      rw [ih, List.mem_cons, or_iff_right hne]
    · rfl

/-- A character that is never dropped. -/
theorem mem_trim_iff {c : Char} (hc : p c = false) (s : String) :
    c ∈ (trim p s).toList ↔ c ∈ s.toList := by
  rw [toList_trim, List.rdropWhile, List.mem_reverse, mem_dropWhile_iff hc, List.mem_reverse,
    mem_dropWhile_iff hc]

theorem dropWhile_eq_self_iff {l : List Char} :
    l.dropWhile p = l ↔ ∀ c, l.head? = some c → p c = false := by
  cases l with
  | nil => simp
  | cons x l => simp [List.dropWhile_eq_self_iff]

theorem rdropWhile_eq_self_iff {l : List Char} :
    l.rdropWhile p = l ↔ ∀ c, l.getLast? = some c → p c = false := by
  rw [List.rdropWhile, List.reverse_eq_iff, dropWhile_eq_self_iff, List.head?_reverse]

theorem trim_eq_self_iff (s : String) : trim p s = s ↔
    s.toList.dropWhile p = s.toList ∧ s.toList.rdropWhile p = s.toList := by
  rw [← String.toList_inj, toList_trim]
  constructor
  · intro h
    have hlen := congrArg List.length h
    have h₁ := (List.rdropWhile_prefix p (s.toList.dropWhile p)).length_le
    have h₂ := List.length_dropWhile_le p s.toList
    have hdrop : s.toList.dropWhile p = s.toList :=
      (List.dropWhile_suffix p).eq_of_length (by omega)
    rw [hdrop] at h
    exact ⟨hdrop, h⟩
  · rintro ⟨h₁, h₂⟩
    rw [h₁, h₂]

@[simp] theorem trim_trim (s : String) : trim p (trim p s) = trim p s := by
  rw [trim_eq_self_iff, toList_trim]
  refine ⟨List.dropWhile_eq_self_iff.2 fun hl => ?_, List.rdropWhile_idempotent p _⟩
  have hpre := List.rdropWhile_prefix p (s.toList.dropWhile p)
  rw [hpre.getElem hl]
  exact List.dropWhile_get_zero_not _ _ _

theorem trim_eq_self_of {s : String} (h : trim p s = s) (hq : ∀ c ∈ s.toList, q c → p c) :
    trim q s = s := by
  rw [trim_eq_self_iff, List.dropWhile_eq_self_iff, List.rdropWhile_eq_self_iff] at h ⊢
  refine ⟨fun hl hc => ?_, fun hl hc => ?_⟩
  · exact h.1 hl (hq _ (List.getElem_mem hl) hc)
  · exact h.2 hl (hq _ (List.getLast_mem hl) hc)

end Text
