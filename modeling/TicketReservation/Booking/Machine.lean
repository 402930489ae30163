/-
  Booking in two phases.

  Holds compete for a capacity `cap`, which is an amount of every resource at
  once.  A hold takes its whole amount in one step; later it is sold, which is
  for good, or released, which gives the amount back.  Amounts are those of any
  ordered commutative monoid, and a state is the multiset of the holds that were
  ever made.

  * `Trace.legal`: held and sold amounts never exceed the capacity;
  * `Trace.held`, `Trace.sold`: the amounts of a state are what its trace says;
  * `Trace.sells_le`: all that is ever sold fits into the capacity together;
  * `Trace.life`: what was done to a hold can be read off its phase.
-/
import Mathlib.Algebra.Order.BigOperators.Group.Multiset

namespace Booking

inductive Phase where
  | held
  | sold
  | released
  deriving DecidableEq

inductive Act where
  | hold
  | sell
  | release
  deriving DecidableEq

variable {H M : Type}

structure Entry (H M : Type) where
  hold : H
  amount : M
  phase : Phase

/-- One step: what is done to which hold, and the amount of this hold. -/
structure Label (H M : Type) where
  act : Act
  hold : H
  amount : M

/-- The holds made so far. -/
abbrev State (H M : Type) := Multiset (Entry H M)

/-! ## Amounts -/

section
variable [AddCommMonoid M]

/-- What the holds in a phase amount to. -/
def State.amount (s : State H M) (p : Phase) : M :=
  ((s.filter fun e => e.phase = p).map Entry.amount).sum

@[simp] theorem State.amount_zero (p : Phase) : State.amount (0 : State H M) p = 0 := rfl

theorem State.amount_cons (e : Entry H M) (s : State H M) (p : Phase) :
    State.amount (e ::ₘ s) p = (if e.phase = p then e.amount else 0) + s.amount p := by
  by_cases h : e.phase = p <;> simp [State.amount, h]

/-- What the steps of one kind amount to. -/
def total (a : Act) (ls : List (Label H M)) : M :=
  ((ls.filter fun l => l.act = a).map Label.amount).sum

@[simp] theorem total_nil (a : Act) : total a ([] : List (Label H M)) = 0 := rfl

theorem total_cons (a : Act) (l : Label H M) (ls : List (Label H M)) :
    total a (l :: ls) = (if l.act = a then l.amount else 0) + total a ls := by
  by_cases h : l.act = a <;> simp [total, h]

end

/-! ## Steps -/

section
variable [AddCommMonoid M] [PartialOrder M]

/-- **One step of the machine.** -/
inductive Step (cap : M) : State H M → Label H M → State H M → Prop
  | hold {s : State H M} {h : H} {m : M} : (∀ e ∈ s, e.hold ≠ h) → 0 ≤ m →
      m + (s.amount .held + s.amount .sold) ≤ cap → Step cap s ⟨.hold, h, m⟩ (⟨h, m, .held⟩ ::ₘ s)
  | sell {s : State H M} {h : H} {m : M} :
      Step cap (⟨h, m, .held⟩ ::ₘ s) ⟨.sell, h, m⟩ (⟨h, m, .sold⟩ ::ₘ s)
  | release {s : State H M} {h : H} {m : M} :
      Step cap (⟨h, m, .held⟩ ::ₘ s) ⟨.release, h, m⟩ (⟨h, m, .released⟩ ::ₘ s)

/-- The steps of a list, one after another. -/
inductive Trace (cap : M) : State H M → List (Label H M) → State H M → Prop
  | nil {s} : Trace cap s [] s
  | cons {s s' s'' l ls} : Step cap s l s' → Trace cap s' ls s'' → Trace cap s (l :: ls) s''

/-- The holds are different, take no negative amounts and fit. -/
structure Legal (cap : M) (s : State H M) : Prop where
  holds : (s.map Entry.hold).Nodup
  nonneg : ∀ e ∈ s, 0 ≤ e.amount
  fits : s.amount .held + s.amount .sold ≤ cap

variable {cap : M} {s s' s'' : State H M} {l : Label H M} {ls ls' : List (Label H M)}

theorem Trace.single (h : Step cap s l s') : Trace cap s [l] s' := .cons h .nil

theorem Trace.append (h : Trace cap s ls s') (h' : Trace cap s' ls' s'') :
    Trace cap s (ls ++ ls') s'' := by
  induction h with
  | nil => exact h'
  | cons hs _ ih => exact .cons hs (ih h')

/-! ## The capacity -/

section
variable [IsOrderedAddMonoid M]

theorem Legal.amount_nonneg (h : Legal cap s) (p : Phase) : 0 ≤ s.amount p := by
  refine Multiset.sum_nonneg fun m hm => ?_
  obtain ⟨e, he, rfl⟩ := Multiset.mem_map.1 hm
  exact h.nonneg e (Multiset.mem_filter.1 he).1

theorem Step.legal (hs : Step cap s l s') (h : Legal cap s) : Legal cap s' := by
  cases hs with
  | @hold s h₀ m hnew hm hfits =>
    refine ⟨?_, by simpa using ⟨hm, h.nonneg⟩, by simpa [State.amount_cons, add_assoc] using hfits⟩
    rw [Multiset.map_cons, Multiset.nodup_cons]
    exact ⟨by simpa using hnew, h.holds⟩
  | @sell s h₀ m =>
    refine ⟨by simpa using h.holds, by simpa using h.nonneg, ?_⟩
    have := h.fits
    simp only [State.amount_cons, reduceCtorEq, if_true, if_false, zero_add] at this ⊢
    rwa [← add_assoc, add_comm _ m]
  | @release s h₀ m =>
    have hn : 0 ≤ m := h.nonneg _ (Multiset.mem_cons_self _ _)
    refine ⟨by simpa using h.holds, by simpa using h.nonneg, ?_⟩
    have := h.fits
    simp only [State.amount_cons, reduceCtorEq, if_true, if_false, zero_add] at this ⊢
    rw [add_assoc] at this
    exact (le_add_of_nonneg_left hn).trans this

/-- **Held and sold amounts never exceed the capacity.** -/
theorem Trace.legal (ht : Trace cap s ls s') (h : Legal cap s) : Legal cap s' := by
  induction ht with
  | nil => exact h
  | cons hs _ ih => exact ih (hs.legal h)

end

/-! ## What a trace amounts to -/

theorem Trace.sold (ht : Trace cap s ls s') :
    s'.amount .sold = s.amount .sold + total .sell ls := by
  induction ht with
  | nil => simp
  | cons hs _ ih =>
    rw [ih, total_cons]
    cases hs with
    | hold | release => simp [State.amount_cons]
    | sell =>
      simp only [State.amount_cons, reduceCtorEq, if_true, if_false, zero_add]
      rw [add_assoc, add_left_comm]

theorem Trace.held (ht : Trace cap s ls s') :
    s'.amount .held + total .sell ls + total .release ls = s.amount .held + total .hold ls := by
  induction ht with
  | nil => simp
  | @cons s s₁ s₂ l ls hs _ ih =>
    cases hs with
    | @hold _ h m =>
      rw [State.amount_cons, if_pos rfl] at ih
      simpa [total_cons, add_assoc, add_left_comm] using ih
    | @sell s h m =>
      rw [State.amount_cons, if_neg (by simp), zero_add] at ih
      simp only [total_cons, State.amount_cons, reduceCtorEq, if_true, if_false, zero_add]
      rw [add_assoc m, ← ih]
      simp only [add_assoc, add_left_comm]
    | @release s h m =>
      rw [State.amount_cons, if_neg (by simp), zero_add] at ih
      simp only [total_cons, State.amount_cons, reduceCtorEq, if_true, if_false, zero_add]
      rw [add_assoc m, ← ih]
      simp only [add_assoc, add_left_comm]

/-- **All that is ever sold fits into the capacity together.** -/
theorem Trace.sells_le [IsOrderedAddMonoid M] (ht : Trace cap s ls s') (h : Legal cap s) :
    s.amount .sold + total .sell ls ≤ cap := by
  rw [← ht.sold]
  exact (le_add_of_nonneg_left ((ht.legal h).amount_nonneg .held)).trans (ht.legal h).fits

end

/-! ## The life of a hold -/

/-- What was done to a hold that is in this phase (`none`: it was not made). -/
def past : Option Phase → List Act
  | none => []
  | some .held => [.hold]
  | some .sold => [.hold, .sell]
  | some .released => [.hold, .release]

/-- The phase of the hold `h` in `s`. -/
def State.At (s : State H M) (h : H) : Option Phase → Prop
  | none => ∀ e ∈ s, e.hold ≠ h
  | some p => ∃ m, ⟨h, m, p⟩ ∈ s

/-- What is done to the hold `h`. -/
def about [DecidableEq H] (h : H) (ls : List (Label H M)) : List Act :=
  (ls.filter fun l => l.hold = h).map Label.act

/-- Steps of other holds do not matter. -/
theorem State.At.cons {s : State H M} {h : H} {e e' : Entry H M} {p : Option Phase}
    (hat : State.At (e ::ₘ s) h p) (he : e.hold ≠ h) (he' : e'.hold ≠ h) :
    State.At (e' ::ₘ s) h p := by
  cases p with
  | none =>
    intro x hx
    rcases Multiset.mem_cons.1 hx with rfl | hx
    · exact he'
    · exact hat x (Multiset.mem_cons_of_mem hx)
  | some p =>
    obtain ⟨m, hm⟩ := hat
    rcases Multiset.mem_cons.1 hm with rfl | hm
    · exact absurd rfl he
    · exact ⟨m, Multiset.mem_cons_of_mem hm⟩

section
variable [AddCommMonoid M] [PartialOrder M] {cap : M} {s s' : State H M} {h : H}

/-- A hold is in one phase. -/
theorem Legal.at_head {m : M} {p : Phase} {q : Option Phase} (hl : Legal cap (⟨h, m, p⟩ ::ₘ s))
    (hat : State.At (⟨h, m, p⟩ ::ₘ s) h q) : q = some p := by
  have hs : ∀ e ∈ s, e.hold ≠ h := by
    have := hl.holds
    rw [Multiset.map_cons, Multiset.nodup_cons] at this
    simpa using this.1
  cases q with
  | none => exact absurd rfl (hat _ (Multiset.mem_cons_self _ _))
  | some q =>
    obtain ⟨n, hn⟩ := hat
    rcases Multiset.mem_cons.1 hn with heq | hn
    · cases heq; rfl
    · exact absurd rfl (hs _ hn)

variable [DecidableEq H]

theorem Step.life {l : Label H M} {p : Option Phase} (hs : Step cap s l s') (hl : Legal cap s)
    (hat : s.At h p) : ∃ p', s'.At h p' ∧ past p' = past p ++ about h [l] := by
  by_cases hh : l.hold = h
  · cases hs with
    | @hold _ h₀ m hnew hm hfits =>
      cases hh
      cases p with
      | none => exact ⟨some .held, ⟨m, Multiset.mem_cons_self _ _⟩, by simp [past, about]⟩
      | some p =>
        obtain ⟨n, hn⟩ := hat
        exact absurd rfl (hnew _ hn)
    | @sell s h₀ m =>
      cases hh
      cases hl.at_head hat
      exact ⟨some .sold, ⟨m, Multiset.mem_cons_self _ _⟩, by simp [past, about]⟩
    | @release s h₀ m =>
      cases hh
      cases hl.at_head hat
      exact ⟨some .released, ⟨m, Multiset.mem_cons_self _ _⟩, by simp [past, about]⟩
  · refine ⟨p, ?_, by simp [about, hh]⟩
    cases hs with
    | @hold _ h₀ m =>
      cases p with
      | none => exact fun e he => (Multiset.mem_cons.1 he).elim (fun h' => h' ▸ hh) (hat e)
      | some p => exact hat.imp fun n hn => Multiset.mem_cons_of_mem hn
    | sell | release => exact hat.cons hh hh

/-- **The life of a hold**: it is made once, then sold or released once. -/
theorem Trace.life [IsOrderedAddMonoid M] {ls : List (Label H M)} {p : Option Phase}
    (ht : Trace cap s ls s') (hl : Legal cap s) (hat : s.At h p) :
    ∃ p', s'.At h p' ∧ past p' = past p ++ about h ls := by
  induction ht generalizing p with
  | nil => exact ⟨p, hat, by simp [about]⟩
  | @cons s s₁ s₂ l ls hs _ ih =>
    obtain ⟨q, hq, hpq⟩ := hs.life hl hat
    obtain ⟨r, hr, hqr⟩ := ih (hs.legal hl) hq
    refine ⟨r, hr, ?_⟩
    rw [hqr, hpq, List.append_assoc, about, about, about, ← List.map_append, ← List.filter_append,
      List.singleton_append]

end

end Booking
