/-
  What a program returns, whatever the others do.

  `yields P G p R d σ`: the program `p`, started at the store `d` in the session
  `σ`, meets the guard `G` at all its statements and commits (`Txn.Always`), and
  if it returns a value, `R` holds of it there.  Nothing is asked of the
  exceptions it raises.

  * the rules `yields_bind`, `yields_ofPlan`, `yields_commitTx`, ...;
  * `Protocol.restrict`: the transactions of a protocol that also keep `I`.
-/
import TicketReservation.Txn.Always

namespace Txn

open Relation

variable {C D W L ε ρ α β : Type}

/-! ## Restricted protocols -/

/-- The transactions that leave a store with `I`. -/
def Protocol.restrict (P : Protocol D L) (I : D → Prop) : Protocol D L where
  inv d := P.inv d ∧ I d
  step Λ d d' := P.step Λ d d' ∧ I d'
  inv_step hi hs := ⟨P.inv_step hi.1 hs.1, hs.2⟩

theorem Protocol.Keeps.restrict {P : Protocol D L} {Λ : List L} {K : D → Prop} (h : P.Keeps Λ K)
    (I : D → Prop) : (P.restrict I).Keeps Λ K :=
  fun _ _ _ hi hd hs hk => h hi.1 hd hs.1 hk

/-! ## Rules -/

section
variable [Store D W]

/-- The program returns, if it does, with `R` (see the head of this file). -/
abbrev yields (P : Protocol D L) (G : Guard D W L) (p : Prog D W L ε α)
    (R : α → D → Session W L → Prop) (d : D) (σ : Session W L) : Prop :=
  always P G p (fun r d σ => ∀ a, r = .ok a → R a d σ) d σ

variable {P : Protocol D L} {G : Guard D W L} {σ : Session W L} {d : D} {K : D → Prop}

theorem yields_ret {a : α} {R : α → D → Session W L → Prop} (h : R a d σ) :
    yields P G (.ret a : Prog D W L ε α) R d σ := by
  intro b hb
  cases hb
  exact h

theorem yields_raise {e : ε} {R : α → D → Session W L → Prop} :
    yields P G (.raise e : Prog D W L ε α) R d σ := by
  intro a ha
  cases ha

theorem yields_bind {p : Prog D W L ε α} {f : α → Prog D W L ε β}
    {R : β → D → Session W L → Prop} (h : yields P G p (fun a d σ => yields P G (f a) R d σ) d σ) :
    yields P G (p.bind f) R d σ := by
  refine always_bind (always_mono (fun r d σ hr => ?_) h)
  cases r with
  | ok a => exact hr a rfl
  | error e =>
    intro a ha
    cases ha

theorem yields_mono {p : Prog D W L ε α} {R R' : α → D → Session W L → Prop}
    (h : yields P G p R d σ) (hR : ∀ a d σ, R a d σ → R' a d σ) : yields P G p R' d σ :=
  always_mono (fun _ _ _ hr a ha => hR a _ _ (hr a ha)) h

/-- A handler that is guarded wherever it starts. -/
theorem yields_tryCatch {p : Prog D W L ε α} {h : ε → Prog D W L ε α}
    {R : α → D → Session W L → Prop} (hp : yields P G p R d σ)
    (hh : ∀ e d σ, yields P G (h e) R d σ) : yields P G (p.tryCatch h) R d σ := by
  refine always_tryCatch (always_mono (fun r d σ hr => ?_) hp)
  cases r with
  | ok a => exact hr
  | error e => exact hh e d σ

/-- **One statement**, when the locks of the session protect `K`. -/
theorem yields_ofPlan {plan : D → Plan W L β} {R : β → D → Session W L → Prop}
    (hK : P.Keeps σ.locks K)
    (h : ∀ d, P.inv d → K d →
      G.stmt d σ ((plan (σ.view d)).waits ++ (plan (σ.view d)).takes) ∧
      R (plan (σ.view d)).result d
        ⟨σ.writes ++ (plan (σ.view d)).writes, σ.locks ++ (plan (σ.view d)).takes⟩)
    (hi : P.inv d) (hk : K d) :
    yields P G (Prog.exec (Stmt.ofPlan plan) : Prog D W L ε β) R d σ := by
  refine always_ofPlan hK (fun d hi hk => ⟨(h d hi hk).1, fun a ha => ?_⟩) hi hk
  cases ha
  exact (h d hi hk).2

theorem yields_rollback {R : Unit → D → Session W L → Prop} (hK : P.Keeps [] K)
    (hG : ∀ d, G.stmt d σ []) (h : ∀ d, P.inv d → K d → R () d ∅) (hi : P.inv d) (hk : K d) :
    yields P G (Prog.rollback : Prog D W L ε Unit) R d σ := by
  refine always_rollback (hK.mono (List.nil_subset _)) (fun d _ _ => hG d) (fun d hi hk a ha => ?_)
    hi hk
  cases ha
  exact h d hi hk

theorem yields_commitTx {R : Unit → D → Session W L → Prop} (hK : P.Keeps σ.locks K)
    (h : ∀ d, P.inv d → K d → G.commit d σ ∧ R () (σ.view d) ∅) (hi : P.inv d) (hk : K d) :
    yields P G (Prog.commitTx : Prog D W L ε Unit) R d σ := by
  refine always_commitTx hK (fun d hi hk => ⟨(h d hi hk).1, fun a ha => ?_⟩) hi hk
  cases ha
  exact (h d hi hk).2

end

end Txn
