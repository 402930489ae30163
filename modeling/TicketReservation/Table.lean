/-
  Tables as lists of rows with a key.

  A table whose keys are pairwise different has at most one row for each key
  (`filter_key`, `find?_eq_some_iff`).  Updating every row by `g` keeps the
  keys if `g` does (`map_key`), and leaves a group of rows alone if `g` does
  (`filter_map_eq`).  The sums over a table change row by row (`sum_map_add`).
-/
import Mathlib.Data.List.Nodup
import Mathlib.Data.List.Basic
import Mathlib.Data.List.Dedup
import Mathlib.Algebra.BigOperators.Ring.List
import Mathlib.Tactic.Ring

namespace Table

variable {α β κ : Type}

theorem map_key {key : α → κ} {g : α → α} (h : ∀ a, key (g a) = key a) (l : List α) :
    (l.map g).map key = l.map key := by
  rw [List.map_map]
  exact List.map_congr_left fun a _ => h a

theorem nodup_map_key {key : α → κ} {g : α → α} (h : ∀ a, key (g a) = key a) {l : List α}
    (hn : (l.map key).Nodup) : ((l.map g).map key).Nodup := by
  rwa [map_key h]

/-- Rows with new keys are added. -/
theorem nodup_append_key {key : α → κ} {l l' : List α} (h : (l.map key).Nodup)
    (h' : (l'.map key).Nodup) (hd : ∀ a ∈ l, ∀ b ∈ l', key a ≠ key b) :
    ((l ++ l').map key).Nodup := by
  rw [List.map_append, List.nodup_append]
  refine ⟨h, h', ?_⟩
  simp only [List.mem_map]
  rintro _ ⟨a, ha, rfl⟩ _ ⟨b, hb, rfl⟩
  exact hd a ha b hb

/-- Rows that are numbered, with keys from their numbers. -/
theorem nodup_mapIdx_key {key : β → κ} {f : ℕ → α → β} {l : List α}
    (h : ∀ i j a b, key (f i a) = key (f j b) → i = j) : ((l.mapIdx f).map key).Nodup := by
  rw [List.nodup_iff_pairwise_ne, List.pairwise_iff_getElem]
  intro i j hi hj hij heq
  simp only [List.getElem_map, List.getElem_mapIdx] at heq
  exact absurd (h _ _ _ _ heq) (Nat.ne_of_lt hij)

theorem eq_of_key {key : α → κ} {l : List α} (hn : (l.map key).Nodup) {a b : α} (ha : a ∈ l)
    (hb : b ∈ l) (h : key a = key b) : a = b :=
  List.inj_on_of_nodup_map hn ha hb h

/-- A query for one key finds at most one row. -/
theorem filter_unique {key : α → κ} {l : List α} (hn : (l.map key).Nodup) {p : α → Bool} {k : κ}
    (hp : ∀ b, p b → key b = k) {a : α} (ha : a ∈ l) (hpa : p a) : l.filter p = [a] := by
  induction l with
  | nil => simp at ha
  | cons b l ih =>
    simp only [List.map_cons, List.nodup_cons] at hn
    have hnot : ∀ c ∈ l, p c → p b → False := fun c hc hpc hpb =>
      hn.1 ((hp b hpb).trans (hp c hpc).symm ▸ List.mem_map_of_mem hc)
    rcases List.mem_cons.1 ha with rfl | ha
    · rw [List.filter_cons, if_pos hpa, List.filter_eq_nil_iff.2 fun c hc hpc => hnot c hc hpc hpa]
    · rw [List.filter_cons, if_neg fun hpb => hnot a ha hpa hpb, ih hn.2 ha]

/-- The row with the key of `a` is `a`. -/
theorem filter_key [DecidableEq κ] {key : α → κ} {l : List α} (hn : (l.map key).Nodup) {a : α}
    (ha : a ∈ l) : l.filter (fun b => key b = key a) = [a] :=
  filter_unique hn (k := key a) (by simp) ha (by simp)

/-- A query by key finds the row with that key. -/
theorem find?_eq_some_iff {key : α → κ} {l : List α} (hn : (l.map key).Nodup) {p : α → Bool} {k : κ}
    (hp : ∀ b, p b → key b = k) {a : α} : l.find? p = some a ↔ a ∈ l ∧ p a := by
  constructor
  · exact fun h => ⟨List.mem_of_find?_eq_some h, List.find?_some h⟩
  · rintro ⟨ha, hpa⟩
    cases hf : l.find? p with
    | none => exact absurd hpa (List.find?_eq_none.1 hf a ha)
    | some b =>
      have hb := List.find?_some hf
      rw [eq_of_key hn ha (List.mem_of_find?_eq_some hf) ((hp a hpa).trans (hp b hb).symm)]

/-- The keys of the rows that satisfy `p` are theirs only. -/
theorem key_mem_filter_iff {key : α → κ} {l : List α} (hn : (l.map key).Nodup) {p : α → Bool} {a : α}
    (ha : a ∈ l) : key a ∈ (l.filter p).map key ↔ p a := by
  constructor
  · intro h
    obtain ⟨b, hb, hk⟩ := List.mem_map.1 h
    rw [List.mem_filter] at hb
    exact eq_of_key hn hb.1 ha hk ▸ hb.2
  · exact fun h => List.mem_map_of_mem (List.mem_filter.2 ⟨ha, h⟩)

/-- An update that leaves a group of rows alone. -/
theorem filter_map_eq {g : α → α} {p : α → Bool} {l : List α} (h : ∀ a ∈ l, p (g a) = p a)
    (h' : ∀ a ∈ l, p a → g a = a) : (l.map g).filter p = l.filter p := by
  induction l with
  | nil => rfl
  | cons a l ih =>
    have ih := ih (fun b hb => h b (List.mem_cons_of_mem _ hb))
      (fun b hb => h' b (List.mem_cons_of_mem _ hb))
    rw [List.map_cons, List.filter_cons, List.filter_cons, h a List.mem_cons_self, ih]
    split_ifs with hp
    · rw [h' a List.mem_cons_self hp]
    · rfl

theorem filter_map_comm {g : α → α} {p : α → Bool} (h : ∀ a, p (g a) = p a) (l : List α) :
    (l.map g).filter p = (l.filter p).map g := by
  rw [List.filter_map]
  congr 2
  exact funext h

/-- Rows only leave the group `p`, and keep their key. -/
theorem nodup_filter_map {key : α → κ} {g : α → α} {p : α → Bool} {l : List α}
    (hk : ∀ a, key (g a) = key a) (h : ∀ a ∈ l, p (g a) → p a) (hn : ((l.filter p).map key).Nodup) :
    (((l.map g).filter p).map key).Nodup := by
  rw [List.filter_map, map_key hk]
  refine hn.sublist (List.Sublist.map _ ?_)
  have : l.filter (p ∘ g) = (l.filter p).filter (p ∘ g) := by
    rw [List.filter_filter]
    refine List.filter_congr fun a ha => ?_
    cases hpg : (p ∘ g) a with
    | false => simp
    | true => simp [h a ha hpg]
  rw [this]
  exact List.filter_sublist

/-- The first rows of a sorted table are those with few rows before them. -/
theorem mem_take_iff {r : α → α → Prop} [DecidableRel r] (hirr : ∀ a, ¬ r a a)
    (hasymm : ∀ a b, r a b → ¬ r b a) {l : List α} (h : l.Pairwise r) {n : ℕ} {a : α} :
    a ∈ l.take n ↔ a ∈ l ∧ (l.filter fun b => r b a).length < n := by
  induction l generalizing n with
  | nil => simp
  | cons b l ih =>
    obtain ⟨hb, hl⟩ := List.pairwise_cons.1 h
    cases n with
    | zero => simp
    | succ n =>
      rw [List.take_succ_cons, List.mem_cons, List.mem_cons, ih hl]
      by_cases hab : a = b
      · subst hab
        have hnil : l.filter (fun c => r c a) = [] :=
          List.filter_eq_nil_iff.2 fun c hc => by simpa using hasymm _ _ (hb c hc)
        simp [hirr, hnil]
      · rw [or_iff_right hab, or_iff_right hab]
        refine and_congr_right fun ha => ?_
        simp [hb a ha]

theorem sum_filter (f : α → ℤ) (p : α → Bool) (l : List α) :
    ((l.filter p).map f).sum = (l.map fun a => if p a then f a else 0).sum := by
  induction l with
  | nil => rfl
  | cons a l ih =>
    rw [List.filter_cons, List.map_cons, List.sum_cons, ← ih]
    split_ifs <;> simp

/-- A sum changes by what each row adds. -/
theorem sum_map_add {f f' δ : α → ℤ} {l : List α} (h : ∀ a ∈ l, f' a = f a + δ a) :
    (l.map f').sum = (l.map f).sum + (l.map δ).sum := by
  induction l with
  | nil => rfl
  | cons a l ih =>
    simp only [List.map_cons, List.sum_cons]
    rw [ih fun b hb => h b (List.mem_cons_of_mem _ hb), h a List.mem_cons_self]
    omega

theorem sum_nonneg {f : α → ℤ} {l : List α} (h : ∀ a ∈ l, 0 ≤ f a) : 0 ≤ (l.map f).sum := by
  induction l with
  | nil => simp
  | cons a l ih =>
    have ha := h a List.mem_cons_self
    have ih := ih fun b hb => h b (List.mem_cons_of_mem _ hb)
    rw [List.map_cons, List.sum_cons]
    omega

theorem le_sum {f : α → ℤ} {l : List α} (h : ∀ a ∈ l, 0 ≤ f a) {a : α} (ha : a ∈ l) :
    f a ≤ (l.map f).sum := by
  induction l with
  | nil => simp at ha
  | cons b l ih =>
    have hb := h b List.mem_cons_self
    have hl : ∀ a ∈ l, 0 ≤ f a := fun a ha => h a (List.mem_cons_of_mem _ ha)
    have hn := sum_nonneg hl
    rw [List.map_cons, List.sum_cons]
    rcases List.mem_cons.1 ha with rfl | ha
    · omega
    · have := ih hl ha
      omega

end Table
