/-
  The stores of a run in which its calls take effect.

  The path of `Tracks` puts a call that only reads at a store it has seen, and its
  other stores are those of a serial execution.  Here the stores are those of the
  run itself: an answer is given from one store that the run passes after the
  call has arrived to another (`Given`, `given_run`).
-/
import TicketReservation.Txn.Readers
import TicketReservation.Txn.Serial

namespace Txn.System

open Relation

variable {C D W L ε ρ : Type} [Store D W] [DecidableEq L] (S : System C D W L ε ρ)

/-- Since call `i` arrived the run has passed two stores, the one before and the one after the call
    takes effect with the answer `x`. -/
def Given (c₀ cfg : Config C D W L ε ρ) (i : ℕ) (call : C) (born : D) (x : Except ε ρ) : Prop :=
  ∃ c d d', Arrived S.prog c₀ c i call born ∧ Passes S.prog c [d, d'] cfg ∧
    S.protocol.inv d ∧ S.spec call d x d'

/-- The stores that a running call has seen were passed since it arrived, and what it has promised
    or answered was given. -/
def Lived (c₀ cfg : Config C D W L ε ρ) (i : ℕ) (t : Thread C D W L ε ρ) : Prop :=
  match t.status with
  | .running p σ => ∃ v : Point S.protocol W (Except ε ρ), v.session = σ ∧ v.db = cfg.db ∧
      (∀ d ∈ v.seen, S.protocol.inv d ∧ Since S.prog c₀ cfg i t.call t.born d) ∧
      (∀ x, v.promise = some x → S.Given c₀ cfg i t.call t.born x) ∧
      wp (S.spec t.call) p (Answers (S.spec t.call)) v
  | .returned x => S.Given c₀ cfg i t.call t.born x
  | .aborted => True

variable {S} {c₀ cfg cfg' : Config C D W L ε ρ} {i : ℕ} {t : Thread C D W L ε ρ} {x : Except ε ρ}

theorem Given.trans {call : C} {born : D} (h : S.Given c₀ cfg i call born x)
    (r : Run S.prog cfg cfg') : S.Given c₀ cfg' i call born x := by
  obtain ⟨c, d, d', h1, h2, h3⟩ := h
  exact ⟨c, d, d', h1, h2.trans r, h3⟩

theorem Lived.arrive {c : C} (hi : S.protocol.inv cfg.db) (r : Run S.prog c₀ cfg')
    (h : cfg.act S.prog (.arrive c) = some cfg') :
    S.Lived c₀ cfg' cfg.threads.length ⟨c, cfg.db, .running (S.prog c) ∅⟩ := by
  have harr := Arrived.of_arrive r h
  refine ⟨Point.start W _ cfg.db hi, rfl, harr.db.symm, ?_, fun x hx => ?_, S.sound c cfg.db hi⟩
  · rintro d rfl
    exact ⟨hi, harr.db ▸ harr.since⟩
  · cases hx

/-- The other calls: the store has changed by locks they do not hold. -/
theorem Lived.interfere {Λ : List L} (h : S.Lived c₀ cfg i t) (r : Run S.prog cfg cfg')
    (hc : ReflTransGen (S.protocol.step Λ) cfg.db cfg'.db) (hΛ : Λ.Disjoint t.status.locks) :
    S.Lived c₀ cfg' i t := by
  unfold Lived at h ⊢
  split at h
  · rename_i p σ hst
    obtain ⟨v, rfl, hdb, hseen, hpromise, hw⟩ := h
    rw [hst] at hΛ
    rw [← hdb] at hc
    have hinv := (Protocol.Leads.of_steps hc).inv v.inv
    let v' : Point S.protocol W (Except ε ρ) :=
      ⟨v.session, cfg'.db, insert cfg'.db v.seen, v.promise, Set.mem_insert _ _, hinv⟩
    have hi : Point.Interfere v v' :=
      ⟨rfl, rfl, ReflTransGen.mono (fun _ _ h => ⟨Λ, hΛ, h⟩) _ _ hc, Set.subset_insert _ _⟩
    refine ⟨v', rfl, rfl, ?_, fun x hx => (hpromise x hx).trans r,
      wp_stable (Answers.stable ·) v v' hw hi⟩
    rintro d (rfl | hd)
    · exact ⟨hinv, (hseen _ v.here).2.next r⟩
    · exact ⟨(hseen d hd).1, (hseen d hd).2.trans r⟩
  · exact h.trans r
  · trivial

/-- The call that moves. -/
theorem Lived.progress {s' : Status D W L ε ρ} (h : S.Lived c₀ cfg i t)
    (r : Run S.prog cfg cfg') (hp : Progress cfg i t.status s' cfg'.db) :
    S.Lived c₀ cfg' i { t with status := s' } := by
  -- an answer without a promise is given in a store that was seen
  have given : ∀ {v : Point S.protocol W (Except ε ρ)} {x}, (∀ d ∈ v.seen, S.protocol.inv d ∧
      Since S.prog c₀ cfg i t.call t.born d) →
      (∀ x, v.promise = some x → S.Given c₀ cfg i t.call t.born x) → Answers (S.spec t.call) x v →
      S.Given c₀ cfg i t.call t.born x := by
    rintro v x hseen hpromise (hx | ⟨-, d, hd, hspec⟩)
    · exact hpromise x hx
    · obtain ⟨hi, c, h1, h2⟩ := hseen d hd
      obtain ⟨c', r₁, rfl, r₂⟩ := h2.mem d (List.mem_singleton_self d)
      exact ⟨c, c'.db, c'.db, h1, .visit r₁ (.visit (.refl _) (.run r₂)), hi, hspec⟩
  obtain ⟨call, born, s⟩ := t
  generalize hdb : cfg'.db = db at hp
  cases hp with
  | ret a σ =>
    obtain ⟨v, -, -, hseen, hpromise, hw⟩ := h
    exact (given hseen hpromise hw).trans r
  | raise e σ =>
    obtain ⟨v, -, -, hseen, hpromise, hw⟩ := h
    exact (given hseen hpromise hw).trans r
  | stmt s k σ hfree =>
    obtain ⟨v, rfl, hv, hseen, hpromise, hw⟩ := h
    have hk := (hw v (.refl v)).2 (cfg.busy i) (hv ▸ hfree)
    rw [hv] at hk
    exact ⟨v.goto _, rfl, hv.trans hdb.symm, fun d hd => ⟨(hseen d hd).1, (hseen d hd).2.trans r⟩,
      fun x hx => (hpromise x hx).trans r, hk⟩
  | commit k σ =>
    obtain ⟨v, rfl, hv, hseen, hpromise, hw⟩ := h
    obtain ⟨-, x, hc, hspec, hk⟩ := hw v (.refl v)
    have hlast : v.session.view v.db = cfg'.db := by rw [hv, hdb]
    obtain ⟨hi, hsince⟩ := hseen _ v.here
    refine ⟨v.commit x hc, rfl, hlast, ?_, ?_, hk⟩
    · rintro d (rfl | hd)
      · rw [hlast]
        exact ⟨hlast ▸ (Protocol.Leads.of_steps hc).inv hi, hsince.next r⟩
      · exact ⟨(hseen d hd).1, (hseen d hd).2.trans r⟩
    · rintro y hy
      cases hy
      obtain ⟨c, h1, h2⟩ := hsince
      exact ⟨c, v.db, cfg'.db, h1, (h2.trans r).snoc, hi, hlast ▸ hspec⟩

theorem lived_run {d₀ : D} (h : S.protocol.inv d₀) (r : Run S.prog ⟨d₀, []⟩ cfg) :
    ∀ (i : ℕ) t, cfg.threads[i]? = some t → S.Lived ⟨d₀, []⟩ cfg i t := by
  have one : ∀ {c c' : Config C D W L ε ρ} {a}, c.act S.prog a = some c' → Run S.prog c c' :=
    fun hact => .tail _ (.refl _) trivial hact
  refine threads_run (A := S.Lived ⟨d₀, []⟩) ?_ ?_ ?_ ?_ h r
  · exact fun hi r hact => .arrive hi r hact
  · exact fun _ _ => trivial
  · exact fun _ hact hp hA => hA.progress (one hact) hp
  · exact fun _ _ hact _ hst hΛ hA => hA.interfere (one hact) hst hΛ

/-- **An answer is given between two stores that the run passes after the call has arrived.** -/
theorem given_run {d₀ : D} (h : S.protocol.inv d₀) (r : Run S.prog ⟨d₀, []⟩ cfg)
    (ht : cfg.threads[i]? = some t) (hx : t.status = .returned x) :
    S.Given ⟨d₀, []⟩ cfg i t.call t.born x := by
  have hl := lived_run h r i t ht
  rwa [Lived, hx] at hl

end Txn.System
