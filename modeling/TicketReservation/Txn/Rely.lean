/-
  One transaction program under the interference of the others.

  A `Protocol` says which committed stores are legal (`inv`) and how a
  transaction that holds the locks `Λ` may change the committed store (`step`).
  While a program waits between two statements, transactions that hold none of
  its locks may change the store (`Interfere`).

  `wp p Q v`: executed from the point `v` under any such interference, `p` ends
  in points that satisfy `Q`, and its commit, if it commits, is a change the
  protocol allows and meets `spec`.  The answer that `spec` gives there is
  promised: it is the point where the call takes effect.  A call that never
  commits takes effect at a committed store it has seen.

  The rules: `wp_mono`, `wp_bind`, `wp_tryCatch`, `wp_exec` (one statement,
  from an assertion that interference keeps), `wp_commitTx`.

  `Settled K p σ r σ'`: on every store that satisfies `K`, `p` goes from the
  session `σ` to `r` and `σ'`, each of its statements doing the same.  If the
  locks of `σ` protect `K`, this is what `p` does alone (`Settled.run`) and
  under interference (`Settled.wp`).
-/
import TicketReservation.Txn.Prog
import Mathlib.Logic.Relation
import Mathlib.Data.Set.Insert

namespace Txn

open Relation

variable {D W L ε ρ α β : Type}

/-- The legal committed stores and what a transaction may do to them. -/
structure Protocol (D L : Type) where
  inv : D → Prop
  step : List L → D → D → Prop
  inv_step : ∀ {Λ d d'}, inv d → step Λ d d' → inv d'

namespace Protocol
variable (P : Protocol D L)

/-- A change by a transaction that holds none of the locks `Λ`. -/
def Others (Λ : List L) (d d' : D) : Prop := ∃ Λ' : List L, Λ'.Disjoint Λ ∧ P.step Λ' d d'

/-- Any number of changes by any transactions. -/
def Leads : D → D → Prop := ReflTransGen fun d d' => ∃ Λ, P.step Λ d d'

variable {P}

theorem inv_chain {r : D → D → Prop} (hr : ∀ {d d'}, r d d' → ∃ Λ, P.step Λ d d') {d d' : D}
    (hi : P.inv d) (h : ReflTransGen r d d') : P.inv d' := by
  induction h with
  | refl => exact hi
  | tail _ h ih =>
    obtain ⟨Λ, h⟩ := hr h
    exact P.inv_step ih h

theorem Leads.inv {d d' : D} (h : P.Leads d d') (hi : P.inv d) : P.inv d' :=
  inv_chain (fun h => h) hi h

theorem Leads.of_steps {Λ : List L} {d d' : D} (h : ReflTransGen (P.step Λ) d d') : P.Leads d d' :=
  ReflTransGen.mono (fun _ _ h => ⟨Λ, h⟩) _ _ h

theorem Leads.of_others {Λ : List L} {d d' : D} (h : ReflTransGen (P.Others Λ) d d') :
    P.Leads d d' :=
  ReflTransGen.mono (fun _ _ ⟨Λ', _, h⟩ => ⟨Λ', h⟩) _ _ h

/-- What a step keeps, any number of steps keep. -/
theorem chain_induct {r : D → D → Prop} (hr : ∀ {d d'}, r d d' → ∃ Λ, P.step Λ d d')
    {A : D → Prop} (hA : ∀ {d d'}, P.inv d → A d → r d d' → A d') {d d' : D}
    (hi : P.inv d) (h0 : A d) (h : ReflTransGen r d d') : A d' := by
  induction h with
  | refl => exact h0
  | tail h1 h ih => exact hA (inv_chain hr hi h1) ih h

end Protocol

/-- A point of an execution: the session of the call, the committed store, the
    committed stores that the call has lived through, and the answer it has
    promised by committing. -/
structure Point (P : Protocol D L) (W R : Type) where
  session : Session W L
  db : D
  seen : Set D
  promise : Option R
  here : db ∈ seen
  inv : P.inv db

namespace Point
variable {P : Protocol D L} {R : Type}

/-- A call arrives. -/
def start (W R : Type) (d : D) (h : P.inv d) : Point P W R := ⟨∅, d, {d}, none, rfl, h⟩

/-- The session after a statement. -/
def goto (v : Point P W R) (σ : Session W L) : Point P W R := { v with session := σ }

/-- The point after a commit that promises `r`. -/
def commit [Store D W] (v : Point P W R) (r : R)
    (h : ReflTransGen (P.step v.session.locks) v.db (v.session.view v.db)) : Point P W R where
  session := ∅
  db := v.session.view v.db
  seen := insert (v.session.view v.db) v.seen
  promise := some r
  here := Set.mem_insert _ _
  inv := (Protocol.Leads.of_steps h).inv v.inv

@[simp] theorem goto_session (v : Point P W R) (σ : Session W L) : (v.goto σ).session = σ := rfl
@[simp] theorem goto_db (v : Point P W R) (σ : Session W L) : (v.goto σ).db = v.db := rfl
@[simp] theorem goto_seen (v : Point P W R) (σ : Session W L) : (v.goto σ).seen = v.seen := rfl
@[simp] theorem goto_promise (v : Point P W R) (σ : Session W L) :
    (v.goto σ).promise = v.promise := rfl

/-- The others have changed the store. -/
structure Interfere (v v' : Point P W R) : Prop where
  session : v'.session = v.session
  promise : v'.promise = v.promise
  db : ReflTransGen (P.Others v.session.locks) v.db v'.db
  seen : v.seen ⊆ v'.seen

theorem Interfere.refl (v : Point P W R) : Interfere v v := ⟨rfl, rfl, .refl, le_rfl⟩

theorem Interfere.trans {v v' v'' : Point P W R} (h : Interfere v v') (h' : Interfere v' v'') :
    Interfere v v'' where
  session := h'.session.trans h.session
  promise := h'.promise.trans h.promise
  db := h.db.trans (h.session ▸ h'.db)
  seen := h.seen.trans h'.seen

end Point

/-- Interference keeps the assertion. -/
def Stable {P : Protocol D L} {R : Type} (A : Point P W R → Prop) : Prop :=
  ∀ v v', A v → Point.Interfere v v' → A v'

section
variable {P : Protocol D L} {R : Type} {spec : D → R → D → Prop}

/-- The call ends with the answer it promised, or takes effect at a store it has seen. -/
def Answers (spec : D → R → D → Prop) (r : R) (v : Point P W R) : Prop :=
  v.promise = some r ∨ (v.promise = none ∧ ∃ d ∈ v.seen, spec d r d)

theorem Answers.stable (r : R) : Stable (Answers (P := P) (W := W) spec r) := by
  rintro v v' (h | ⟨h, d, hd, hs⟩) hi
  · exact Or.inl (hi.promise.trans h)
  · exact Or.inr ⟨hi.promise.trans h, d, hi.seen hd, hs⟩

/-- The call has seen a store in which it may answer `r` and change nothing. -/
def Could (spec : D → R → D → Prop) (r : R) (v : Point P W R) : Prop :=
  v.promise = none ∧ ∃ d ∈ v.seen, spec d r d

theorem Could.answers {r : R} {v : Point P W R} (h : Could spec r v) : Answers spec r v := Or.inr h

theorem Could.here {r : R} {v : Point P W R} (hp : v.promise = none) (h : spec v.db r v.db) :
    Could spec r v :=
  ⟨hp, v.db, v.here, h⟩

theorem Could.goto {r : R} {v : Point P W R} (h : Could spec r v) (σ : Session W L) :
    Could spec r (v.goto σ) := h

theorem Could.stable (r : R) : Stable (Could (P := P) (W := W) spec r) := by
  rintro v v' ⟨h, d, hd, hs⟩ hi
  exact ⟨hi.promise.trans h, d, hi.seen hd, hs⟩

end

section
variable [Store D W] {P : Protocol D L} {R : Type} (spec : D → R → D → Prop)

/-- The weakest precondition under interference (see the head of this file). -/
def wp : Prog D W L ε α → (Except ε α → Point P W R → Prop) → Point P W R → Prop
  | .ret a, Q, v => Q (.ok a) v
  | .raise e, Q, v => Q (.error e) v
  | .stmt s k, Q, v => ∀ v', Point.Interfere v v' → v'.promise = none ∧
      ∀ busy : L → Bool, (∀ l ∈ s.wants v'.db v'.session, busy l = false) →
        wp (k (s.exec v'.db v'.session busy).1) Q (v'.goto (s.exec v'.db v'.session busy).2)
  | .commit k, Q, v => ∀ v', Point.Interfere v v' → v'.promise = none ∧
      ∃ (r : R) (h : ReflTransGen (P.step v'.session.locks) v'.db (v'.session.view v'.db)),
        spec v'.db r (v'.session.view v'.db) ∧ wp k Q (v'.commit r h)

variable {spec}

theorem wp_mono {p : Prog D W L ε α} {Q Q' : Except ε α → Point P W R → Prop}
    (h : ∀ r v, Q r v → Q' r v) {v : Point P W R} (hw : wp spec p Q v) : wp spec p Q' v := by
  induction p generalizing v with
  | ret a => exact h _ _ hw
  | raise e => exact h _ _ hw
  | stmt s k ih =>
    intro v' hi
    obtain ⟨hp, hk⟩ := hw v' hi
    exact ⟨hp, fun busy hb => ih _ (hk busy hb)⟩
  | commit k ih =>
    intro v' hi
    obtain ⟨hp, r, hc, hs, hk⟩ := hw v' hi
    exact ⟨hp, r, hc, hs, ih hk⟩

/-- A larger `spec` allows more. -/
theorem wp_mono_spec {spec' : D → R → D → Prop} (h : ∀ d r d', spec d r d' → spec' d r d')
    {p : Prog D W L ε α} {Q : Except ε α → Point P W R → Prop} {v : Point P W R}
    (hw : wp spec p Q v) : wp spec' p Q v := by
  induction p generalizing v with
  | ret a => exact hw
  | raise e => exact hw
  | stmt s k ih =>
    intro v' hi
    obtain ⟨hp, hk⟩ := hw v' hi
    exact ⟨hp, fun busy hb => ih _ (hk busy hb)⟩
  | commit k ih =>
    intro v' hi
    obtain ⟨hp, r, hc, hs, hk⟩ := hw v' hi
    exact ⟨hp, r, hc, h _ _ _ hs, ih hk⟩

theorem wp_bind {p : Prog D W L ε α} {f : α → Prog D W L ε β}
    {Q : Except ε β → Point P W R → Prop} {v : Point P W R}
    (hw : wp spec p (fun
      | .ok a => wp spec (f a) Q
      | .error e => Q (.error e)) v) : wp spec (p.bind f) Q v := by
  induction p generalizing v with
  | ret a => exact hw
  | raise e => exact hw
  | stmt s k ih =>
    intro v' hi
    obtain ⟨hp, hk⟩ := hw v' hi
    exact ⟨hp, fun busy hb => ih _ (hk busy hb)⟩
  | commit k ih =>
    intro v' hi
    obtain ⟨hp, r, hc, hs, hk⟩ := hw v' hi
    exact ⟨hp, r, hc, hs, ih hk⟩

theorem wp_tryCatch {p : Prog D W L ε α} {h : ε → Prog D W L ε α}
    {Q : Except ε α → Point P W R → Prop} {v : Point P W R}
    (hw : wp spec p (fun
      | .ok a => Q (.ok a)
      | .error e => wp spec (h e) Q) v) : wp spec (p.tryCatch h) Q v := by
  induction p generalizing v with
  | ret a => exact hw
  | raise e => exact hw
  | stmt s k ih =>
    intro v' hi
    obtain ⟨hp, hk⟩ := hw v' hi
    exact ⟨hp, fun busy hb => ih _ (hk busy hb)⟩
  | commit k ih =>
    intro v' hi
    obtain ⟨hp, r, hc, hs, hk⟩ := hw v' hi
    exact ⟨hp, r, hc, hs, ih hk⟩

/-- A weakest precondition is kept by interference if its postcondition is. -/
theorem wp_stable {p : Prog D W L ε α} {Q : Except ε α → Point P W R → Prop}
    (hQ : ∀ r, Stable (Q r)) : Stable (wp spec p Q) := by
  intro v v' hw hi
  cases p with
  | ret a => exact hQ _ _ _ hw hi
  | raise e => exact hQ _ _ _ hw hi
  | stmt s k => exact fun v'' hi' => hw v'' (hi.trans hi')
  | commit k => exact fun v'' hi' => hw v'' (hi.trans hi')

/-- **One statement**, from an assertion `A` that interference keeps. -/
theorem wp_exec {s : Stmt D W L β} {A : Point P W R → Prop} (hA : Stable A)
    (hp : ∀ v, A v → v.promise = none) {Q : Except ε β → Point P W R → Prop}
    (h : ∀ v (busy : L → Bool), A v → (∀ l ∈ s.wants v.db v.session, busy l = false) →
      Q (.ok (s.exec v.db v.session busy).1) (v.goto (s.exec v.db v.session busy).2))
    {v : Point P W R} (hv : A v) : wp spec (Prog.exec s) Q v := by
  intro v' hi
  have hv' := hA v v' hv hi
  exact ⟨hp v' hv', fun busy hb => h v' busy hv' hb⟩

/-- A call that could answer still can after its rollback. -/
theorem wp_rollback {r : R} {p : Prog D W L ε α} {Q : Except ε α → Point P W R → Prop}
    (h : ∀ v, Could spec r v → wp spec p Q v) {v : Point P W R} (hv : Could spec r v) :
    wp spec (Prog.rollback.bind fun _ => p) Q v :=
  wp_bind (wp_exec (Could.stable r) (fun _ h => h.1) (fun _ _ hv _ => h _ (hv.goto _)) hv)

/-- **The commit**, from an assertion `A` that interference keeps. -/
theorem wp_commitTx {A : Point P W R → Prop} (hA : Stable A) (hp : ∀ v, A v → v.promise = none)
    {Q : Except ε Unit → Point P W R → Prop}
    (h : ∀ v, A v → ∃ (r : R)
      (hc : ReflTransGen (P.step v.session.locks) v.db (v.session.view v.db)),
      spec v.db r (v.session.view v.db) ∧ Q (.ok ()) (v.commit r hc))
    {v : Point P W R} (hv : A v) : wp spec (Prog.commitTx : Prog D W L ε Unit) Q v := by
  intro v' hi
  have hv' := hA v v' hv hi
  exact ⟨hp v' hv', h v' hv'⟩

end

/-! ## Programs that never commit -/

namespace Prog

/-- The program never commits. -/
def Reads : Prog D W L ε α → Prop
  | ret _ => True
  | raise _ => True
  | stmt _ k => ∀ b, (k b).Reads
  | commit _ => False

theorem reads_exec (s : Stmt D W L β) : (exec s : Prog D W L ε β).Reads := fun _ => trivial

theorem Reads.bind {p : Prog D W L ε α} {f : α → Prog D W L ε β} (hp : p.Reads)
    (hf : ∀ a, (f a).Reads) : (p.bind f).Reads := by
  induction p with
  | ret a => exact hf a
  | raise e => trivial
  | stmt s k ih => exact fun b => ih b (hp b)
  | commit k => exact hp.elim

theorem Reads.tryCatch {p : Prog D W L ε α} {h : ε → Prog D W L ε α} (hp : p.Reads)
    (hh : ∀ e, (h e).Reads) : (p.tryCatch h).Reads := by
  induction p with
  | ret a => trivial
  | raise e => exact hh e
  | stmt s k ih => exact fun b => ih b (hp b)
  | commit k => exact hp.elim

section
variable [Store D W]

theorem Reads.run {p : Prog D W L ε α} (h : p.Reads) (d : D) (σ : Session W L) :
    (p.run d σ).2.1 = d := by
  induction p generalizing σ with
  | ret a => rfl
  | raise e => rfl
  | stmt s k ih => exact ih _ (h _) _
  | commit k => exact h.elim

theorem Reads.undone {p : Prog D W L ε α} (h : p.Reads) : p.Undone := fun d σ _ _ => h.run d σ

/-- A program that commits last. -/
theorem undone_commit (a : α) : (commitTx.bind fun _ => ret a : Prog D W L ε α).Undone :=
  fun _ _ _ h => nomatch h

theorem Undone.bind {p : Prog D W L ε α} {f : α → Prog D W L ε β} (hp : p.Reads)
    (hf : ∀ a, (f a).Undone) : (p.bind f).Undone := by
  intro d σ e h
  have hd := hp.run d σ
  rw [run_bind] at h ⊢
  generalize p.run d σ = x at h hd ⊢
  rcases x with ⟨e' | a, d', σ'⟩
  · exact hd
  · exact (hf a d' σ' e h).trans hd

theorem Undone.tryCatch {p : Prog D W L ε α} {h : ε → Prog D W L ε α} (hp : p.Undone)
    (hh : ∀ e, (h e).Undone) : (p.tryCatch h).Undone := by
  intro d σ e he
  have hd := hp d σ
  rw [run_tryCatch] at he ⊢
  generalize p.run d σ = x at he hd ⊢
  rcases x with ⟨e' | a, d', σ'⟩
  · exact (hh e' d' σ' e he).trans (hd e' rfl)
  · cases he

end

end Prog

/-- A program that never commits, of a call that may always answer and change nothing. -/
theorem wp_of_reads [Store D W] {P : Protocol D L} {spec : D → Except ε ρ → D → Prop}
    {p : Prog D W L ε ρ} (hspec : ∀ d r, spec d r d) (h : p.Reads)
    {v : Point P W (Except ε ρ)} (hv : v.promise = none) : wp spec p (Answers spec) v := by
  induction p generalizing v with
  | ret a => exact (Could.here hv (hspec _ _)).answers
  | raise e => exact (Could.here hv (hspec _ _)).answers
  | stmt s k ih =>
    intro v' hi
    have hp := hi.promise.trans hv
    exact ⟨hp, fun busy _ => ih _ (h _) hp⟩
  | commit k => exact h.elim

/-! ## Nothing else running -/

section
variable [Store D W] {P : Protocol D L} {R : Type} {spec : D → R → D → Prop}

/-- The point that an execution without interference ends in. -/
theorem wp_run {p : Prog D W L ε α} {Q : Except ε α → Point P W R → Prop} {v : Point P W R}
    (hw : wp spec p Q v) : ∃ v', Q (p.run v.db v.session).1 v' ∧ v'.db = (p.run v.db v.session).2.1 ∧
      ((v'.promise = v.promise ∧ v'.db = v.db ∧ v'.seen = v.seen) ∨
        (v.promise = none ∧ (∃ r, v'.promise = some r ∧ spec v.db r v'.db) ∧
          P.Leads v.db v'.db)) := by
  induction p generalizing v with
  | ret a => exact ⟨v, hw, rfl, Or.inl ⟨rfl, rfl, rfl⟩⟩
  | raise e => exact ⟨v, hw, rfl, Or.inl ⟨rfl, rfl, rfl⟩⟩
  | stmt s k ih => exact ih _ ((hw v (.refl v)).2 (fun _ => false) fun _ _ => rfl)
  | commit k ih =>
    obtain ⟨hp, r, hc, hs, hk⟩ := hw v (.refl v)
    obtain ⟨v', hQ, hdb, h⟩ := ih hk
    refine ⟨v', hQ, hdb, Or.inr ⟨hp, ?_⟩⟩
    rcases h with ⟨h1, h2, -⟩ | ⟨h1, -⟩
    · exact ⟨⟨r, h1, h2 ▸ hs⟩, h2 ▸ .of_steps hc⟩
    · cases h1

/-- **What is correct under interference is correct alone.** -/
theorem wp_alone {p : Prog D W L ε ρ} {spec : D → Except ε ρ → D → Prop} {d : D} {h : P.inv d}
    (hw : wp spec p (Answers spec) (Point.start W (Except ε ρ) d h)) :
    spec d (p.alone d).1 (p.alone d).2 := by
  obtain ⟨v', hQ, hdb, hrun⟩ := wp_run hw
  simp only [Prog.alone]
  change v'.db = (p.run d ∅).2.1 at hdb
  rw [← hdb]
  rcases hrun with ⟨h1, h2, h3⟩ | ⟨-, ⟨r, h1, h2⟩, -⟩
  · rcases hQ with hQ | ⟨-, d', hd', hs⟩
    · rw [h1] at hQ; cases hQ
    · rw [h3] at hd'
      obtain rfl : d' = d := hd'
      exact h2.symm ▸ hs
  · rcases hQ with hQ | ⟨hQ, -⟩
    · rw [h1] at hQ
      cases hQ
      exact h2
    · rw [h1] at hQ; cases hQ

/-- A program that is correct under interference changes the store as the protocol allows. -/
theorem wp_alone_leads {p : Prog D W L ε ρ} {spec : D → Except ε ρ → D → Prop} {d : D} {h : P.inv d}
    (hw : wp spec p (Answers spec) (Point.start W (Except ε ρ) d h)) : P.Leads d (p.alone d).2 := by
  obtain ⟨v', -, hdb, hrun⟩ := wp_run hw
  change v'.db = (p.alone d).2 at hdb
  rw [← hdb]
  rcases hrun with ⟨-, hsame, -⟩ | ⟨-, -, hl⟩
  · rw [hsame]
    exact .refl
  · exact hl

end

/-! ## Programs that interference does not affect -/

/-- Transactions that hold none of the locks `Λ` keep `K`. -/
def Protocol.Keeps (P : Protocol D L) (Λ : List L) (K : D → Prop) : Prop :=
  ∀ ⦃Λ' : List L⦄ ⦃d d' : D⦄, P.inv d → Λ'.Disjoint Λ → P.step Λ' d d' → K d → K d'

namespace Protocol.Keeps
variable {P : Protocol D L} {Λ Λ' : List L} {K K' : D → Prop}

/-- What is not about the store. -/
theorem const {p : Prop} : P.Keeps Λ fun _ => p := fun _ _ _ _ _ _ hp => hp

theorem inv : P.Keeps Λ P.inv := fun _ _ _ hi _ hs _ => P.inv_step hi hs

theorem and (h : P.Keeps Λ K) (h' : P.Keeps Λ K') : P.Keeps Λ fun d => K d ∧ K' d :=
  fun _ _ _ hi hd hs hk => ⟨h hi hd hs hk.1, h' hi hd hs hk.2⟩

theorem mono (h : P.Keeps Λ K) (hsub : Λ ⊆ Λ') : P.Keeps Λ' K :=
  fun _ _ _ hi hd hs hk => h hi (fun _ h1 h2 => hd h1 (hsub h2)) hs hk

theorem all {ι : Type} {K : ι → D → Prop} {p : ι → Prop} (h : ∀ i, p i → P.Keeps Λ (K i)) :
    P.Keeps Λ fun d => ∀ i, p i → K i d :=
  fun _ _ _ hi hd hs hk i hp => h i hp hi hd hs (hk i hp)

theorem leads (h : P.Keeps [] K) {d d' : D} (hi : P.inv d) (hl : P.Leads d d') (hk : K d) : K d' :=
  chain_induct (fun h => h) (fun hi hk ⟨_, hs⟩ => h hi (List.disjoint_nil_right _) hs hk) hi hk hl

theorem interfere (h : P.Keeps Λ K) {R : Type} {v v' : Point P W R} (hi : Point.Interfere v v')
    (hsub : Λ ⊆ v.session.locks) (hk : K v.db) : K v'.db :=
  chain_induct (A := K) (fun ⟨Λ', _, h⟩ => ⟨Λ', h⟩)
    (fun hinv hk ⟨_, hd, hs⟩ => h.mono hsub hinv hd hs hk) v.inv hk hi.db

end Protocol.Keeps

/-- The call has not committed, its session is `σ` and the store satisfies `K`. -/
structure Point.At {P : Protocol D L} {R : Type} (σ : Session W L) (K : D → Prop)
    (v : Point P W R) : Prop where
  promise : v.promise = none
  session : v.session = σ
  known : K v.db

theorem Point.At.mono {P : Protocol D L} {R : Type} {σ : Session W L} {K K' : D → Prop}
    {v : Point P W R} (h : v.At σ K) (hK : ∀ d, P.inv d → K d → K' d) : v.At σ K' :=
  ⟨h.promise, h.session, hK v.db v.inv h.known⟩

theorem Point.At.stable {P : Protocol D L} {R : Type} {σ : Session W L} {K : D → Prop}
    (hK : P.Keeps σ.locks K) : Stable (Point.At (P := P) (R := R) σ K) := by
  rintro v v' ⟨hp, rfl, hk⟩ hi
  exact ⟨hi.promise.trans hp, hi.session, hK.interfere hi (List.Subset.refl _) hk⟩

/-- **The commit of known writes** that promises the answer `r`. -/
theorem wp_commitTx_at [Store D W] {P : Protocol D L} {R : Type} {spec : D → R → D → Prop}
    {σ : Session W L} {K : D → Prop} {r : R} (hK : P.Keeps σ.locks K)
    (h : ∀ d, P.inv d → K d → ReflTransGen (P.step σ.locks) d (σ.view d) ∧ spec d r (σ.view d))
    {Q : Except ε Unit → Point P W R → Prop} (hQ : ∀ v, v.promise = some r → Q (.ok ()) v)
    {v : Point P W R} (hv : v.At σ K) : wp spec (Prog.commitTx : Prog D W L ε Unit) Q v := by
  refine wp_commitTx (Point.At.stable hK) (fun v hv => hv.promise) ?_ hv
  rintro v ⟨-, rfl, hk⟩
  obtain ⟨hc, hs⟩ := h v.db v.inv hk
  exact ⟨r, hc, hs, hQ _ rfl⟩

/-- On every store that satisfies `K` the statements of `p` do the same, wait only
    for locks they take, and take them one after another. -/
inductive Settled (K : D → Prop) : Prog D W L ε α → Session W L → Except ε α → Session W L → Prop
  | ret (a σ) : Settled K (.ret a) σ (.ok a) σ
  | raise (e σ) : Settled K (.raise e) σ (.error e) σ
  | stmt {β : Type} {s : Stmt D W L β} {k : β → Prog D W L ε α} {σ σ' r} (b : β)
      (σ₁ : Session W L) :
      (∀ d busy, K d → s.exec d σ busy = (b, σ₁)) → (∀ d, K d → s.wants d σ ⊆ σ₁.locks) →
      σ.locks <+: σ₁.locks → Settled K (k b) σ₁ r σ' → Settled K (.stmt s k) σ r σ'

namespace Settled
variable {K : D → Prop} {σ σ₁ σ' : Session W L}

theorem bind {p : Prog D W L ε α} {f : α → Prog D W L ε β} {a : α} {r : Except ε β}
    (h : Settled K p σ (.ok a) σ₁) (h' : Settled K (f a) σ₁ r σ') :
    Settled K (p.bind f) σ r σ' := by
  generalize hr : Except.ok a = r₁ at h
  induction h with
  | ret b τ => cases hr; exact h'
  | raise => cases hr
  | stmt b τ hs hw hl _ ih => exact .stmt b τ hs hw hl (ih h' hr)

theorem tryCatch_ok {p : Prog D W L ε α} {h : ε → Prog D W L ε α} {a : α}
    (hp : Settled K p σ (.ok a) σ') : Settled K (p.tryCatch h) σ (.ok a) σ' := by
  generalize hr : Except.ok a = r₁ at hp
  induction hp with
  | ret b τ => cases hr; exact .ret _ _
  | raise => cases hr
  | stmt b τ hs hw hl _ ih => exact .stmt b τ hs hw hl (ih hr)

theorem locks {p : Prog D W L ε α} {r : Except ε α} (h : Settled K p σ r σ') :
    σ.locks <+: σ'.locks := by
  induction h with
  | ret | raise => exact List.prefix_rfl
  | stmt b τ _ _ hl _ ih => exact hl.trans ih

theorem beginNested [DecidableEq L] {p : Prog D W L ε α} {a : α} (h : Settled K p σ (.ok a) σ') :
    Settled K (Prog.beginNested p) σ (.ok a) σ' :=
  .stmt σ σ (fun _ _ _ => rfl) (fun _ _ => List.nil_subset _) List.prefix_rfl (tryCatch_ok h)

variable [Store D W]

theorem exec {plan : D → Plan W L β} {p : Plan W L β}
    (h : ∀ d, K d → plan (σ.view d) = p) (hw : p.waits = []) :
    Settled K (Prog.exec (Stmt.ofPlan plan) : Prog D W L ε β) σ (.ok p.result)
      ⟨σ.writes ++ p.writes, σ.locks ++ p.takes⟩ :=
  .stmt p.result _ (fun d _ hd => by simp only [Stmt.ofPlan, h d hd])
    (fun d hd => by simp only [Stmt.ofPlan, h d hd, hw]; exact List.subset_append_right _ _)
    (List.prefix_append _ _) (.ret _ _)

/-- Alone, a settled program does what it is settled to do. -/
theorem run {p : Prog D W L ε α} {r : Except ε α} (h : Settled K p σ r σ') {d : D} (hd : K d) :
    p.run d σ = (r, d, σ') := by
  induction h with
  | ret | raise => rfl
  | stmt b τ hs _ _ _ ih => simp only [Prog.run, hs _ _ hd, ih]

section
variable {P : Protocol D L} {R : Type} {spec : D → R → D → Prop}

/-- **Under interference that keeps `K`, a settled program does the same**, and
    what does not depend on the session stays true. -/
theorem wp_and {p : Prog D W L ε α} {r : Except ε α} (h : Settled K p σ r σ')
    (hK : P.Keeps σ.locks K) {B : Point P W R → Prop} (hB : Stable B)
    (hgoto : ∀ v τ, B v → B (v.goto τ)) {Q : Except ε α → Point P W R → Prop}
    (hQ : ∀ v, Point.At σ' K v → B v → Q r v) {v : Point P W R} (hv : Point.At σ K v) (hb : B v) :
    Txn.wp spec p Q v := by
  induction h generalizing v with
  | ret | raise => exact hQ v hv hb
  | stmt b τ hs _ hl _ ih =>
    intro v' hi
    obtain ⟨hp, rfl, hk⟩ := Point.At.stable hK v v' hv hi
    refine ⟨hp, fun busy _ => ?_⟩
    rw [hs _ _ hk]
    exact ih (hK.mono hl.subset) hQ ⟨hp, rfl, hk⟩ (hgoto _ _ (hB v v' hb hi))

theorem wp {p : Prog D W L ε α} {r : Except ε α} (h : Settled K p σ r σ') (hK : P.Keeps σ.locks K)
    {Q : Except ε α → Point P W R → Prop} (hQ : ∀ v, Point.At σ' K v → Q r v) {v : Point P W R}
    (hv : Point.At σ K v) : Txn.wp spec p Q v :=
  h.wp_and hK (B := fun _ => True) (fun _ _ _ _ => trivial) (fun _ _ _ => trivial)
    (fun v hv _ => hQ v hv) hv trivial

end

end Settled

end Txn
