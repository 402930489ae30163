/-
  Python's `str.lower`.

  Every character is replaced by its full lower-case mapping, which may be
  several characters.  Only the capital sigma depends on its place: it becomes
  the final sigma after a cased letter and not before one, where characters
  that are ignored for casing are skipped.

  The mappings are those of the Unicode character database (`CaseTable`); what
  is used of it is that a lower-case text has only characters that are their own
  lower case, and that a space is mapped to spaces only, and nothing else is.

  * `lower_lower`: a lower-case text is its own lower case;
  * `trim_lower`: the lower case of a trimmed text is trimmed.
-/
import TicketReservation.Trim

namespace Text

/-- The case mappings of the Unicode character database. -/
structure CaseTable (isSpace : Char → Bool) where
  toLowerFull : Char → List Char
  isCased : Char → Bool
  isCaseIgnorable : Char → Bool
  ne_nil : ∀ c, toLowerFull c ≠ []
  stable : ∀ c, ∀ x ∈ toLowerFull c, x ≠ 'Σ' ∧ toLowerFull x = [x]
  space : ∀ c, ∀ x ∈ toLowerFull c, isSpace x = isSpace c
  sigma : ∀ x ∈ ['σ', 'ς'], toLowerFull x = [x] ∧ isSpace x = isSpace 'Σ'

namespace CaseTable
variable {isSpace : Char → Bool} (t : CaseTable isSpace)

/-- A capital sigma with these characters around it becomes the final sigma; those before it are
    listed from the nearest one on. -/
def finalSigma (before after : List Char) : Bool :=
  (before.find? fun c => !t.isCaseIgnorable c).any t.isCased &&
    !(after.find? fun c => !t.isCaseIgnorable c).any t.isCased

def lowerAt (before : List Char) (c : Char) (after : List Char) : List Char :=
  if c = 'Σ' then [if t.finalSigma before after then 'ς' else 'σ'] else t.toLowerFull c

def lowerFrom (before : List Char) : List Char → List Char
  | [] => []
  | c :: after => t.lowerAt before c after ++ lowerFrom (c :: before) after

def lower (s : String) : String := String.ofList (t.lowerFrom [] s.toList)

theorem lowerAt_ne_nil (before : List Char) (c : Char) (after : List Char) :
    t.lowerAt before c after ≠ [] := by
  unfold lowerAt
  split
  · exact List.cons_ne_nil _ _
  · exact t.ne_nil c

/-- What the characters of a lower-case text are like. -/
theorem of_mem_lowerAt {before after : List Char} {c x : Char} (hx : x ∈ t.lowerAt before c after) :
    (x ≠ 'Σ' ∧ t.toLowerFull x = [x]) ∧ isSpace x = isSpace c := by
  unfold lowerAt at hx
  split_ifs at hx with hc hfinal
  · rw [List.mem_singleton.1 hx, hc]
    exact ⟨⟨by decide, (t.sigma 'ς' (by simp)).1⟩, (t.sigma 'ς' (by simp)).2⟩
  · rw [List.mem_singleton.1 hx, hc]
    exact ⟨⟨by decide, (t.sigma 'σ' (by simp)).1⟩, (t.sigma 'σ' (by simp)).2⟩
  · exact ⟨t.stable c x hx, t.space c x hx⟩

theorem of_mem_lowerFrom {l before : List Char} {x : Char} (hx : x ∈ t.lowerFrom before l) :
    x ≠ 'Σ' ∧ t.toLowerFull x = [x] := by
  induction l generalizing before with
  | nil => cases hx
  | cons c after ih =>
    rcases List.mem_append.1 hx with hx | hx
    · exact (t.of_mem_lowerAt hx).1
    · exact ih hx

theorem lowerFrom_of_stable {l : List Char} (h : ∀ c ∈ l, c ≠ 'Σ' ∧ t.toLowerFull c = [c])
    (before : List Char) : t.lowerFrom before l = l := by
  induction l generalizing before with
  | nil => rfl
  | cons c after ih =>
    obtain ⟨hne, hc⟩ := h c List.mem_cons_self
    rw [lowerFrom, lowerAt, if_neg hne, hc, ih fun x hx => h x (List.mem_cons_of_mem c hx)]
    rfl

@[simp] theorem lower_lower (s : String) : t.lower (t.lower s) = t.lower s := by
  unfold lower
  rw [String.toList_ofList, t.lowerFrom_of_stable fun c hc => t.of_mem_lowerFrom hc]

/-- The first character of the lower case comes from the first one of the text. -/
theorem space_head {l before : List Char} {x : Char} (hx : (t.lowerFrom before l).head? = some x) :
    ∃ c, l.head? = some c ∧ isSpace x = isSpace c := by
  cases l with
  | nil => cases hx
  | cons c after =>
    rw [lowerFrom, List.head?_append_of_ne_nil _ (t.lowerAt_ne_nil _ _ _)] at hx
    exact ⟨c, rfl, (t.of_mem_lowerAt (List.mem_of_head? hx)).2⟩

/-- The last character of the lower case comes from the last one of the text. -/
theorem space_last {l before : List Char} {x : Char}
    (hx : (t.lowerFrom before l).getLast? = some x) :
    ∃ c, l.getLast? = some c ∧ isSpace x = isSpace c := by
  induction l generalizing before with
  | nil => cases hx
  | cons c after ih =>
    rw [lowerFrom, List.getLast?_append] at hx
    cases hlast : (t.lowerFrom (c :: before) after).getLast? with
    | some y =>
      rw [hlast, Option.some_or] at hx
      obtain ⟨c', hc', hspace⟩ := ih (hlast.trans hx)
      exact ⟨c', by rw [List.getLast?_cons, hc']; rfl, hspace⟩
    | none =>
      have hnil : after = [] := by
        cases after with
        | nil => rfl
        | cons c' after =>
          have h := List.getLast?_eq_none_iff.1 hlast
          rw [lowerFrom] at h
          exact absurd (List.append_eq_nil_iff.1 h).1 (t.lowerAt_ne_nil _ _ _)
      rw [hlast, Option.none_or] at hx
      exact ⟨c, by rw [hnil]; rfl, (t.of_mem_lowerAt (List.mem_of_getLast? hx)).2⟩

/-- **The lower case of a trimmed text is trimmed.** -/
theorem trim_lower {s : String} (h : trim isSpace s = s) : trim isSpace (t.lower s) = t.lower s := by
  rw [trim_eq_self_iff, dropWhile_eq_self_iff, rdropWhile_eq_self_iff] at h ⊢
  rw [lower, String.toList_ofList]
  refine ⟨fun x hx => ?_, fun x hx => ?_⟩
  · obtain ⟨c, hc, hspace⟩ := t.space_head hx
    rw [hspace, h.1 c hc]
  · obtain ⟨c, hc, hspace⟩ := t.space_last hx
    rw [hspace, h.2 c hc]

end CaseTable

end Text
