/-
  Every interleaved run takes effect like a serial one.

  A `Path` is a serial execution: each entry is one call that takes the store
  from `pre` to `post` with its answer, as its atomic behaviour `spec` allows.
  If every program meets its `wp` from its arrival (`System.sound`), then in
  every run the calls that have taken effect form a path from the first store
  to the committed store (`Tracks`, `tracks_run`).  A call that commits takes
  effect there; one that only reads is inserted at a store it has seen
  (`Path.insert`).

  * `Tracks.serializable`: a run in which all calls finish has a serial order;
  * `Tracks.returned`: the store in which an answer is given was committed at
    or after the arrival of its call;
  * `Tracks.commit`: a commit does what its call may do atomically.
-/
import TicketReservation.Txn.Concurrent
import TicketReservation.Txn.Rely
import Mathlib.Data.List.Perm.Basic
import Mathlib.Data.List.Nodup

namespace Txn

open Relation

variable {C D W L ε ρ : Type}

/-- The effect of call `idx` in a serial execution. -/
structure Entry (C D R : Type) where
  idx : ℕ
  call : C
  result : R
  pre : D
  post : D

/-- The entries one after another, from the first store to the last. -/
inductive Path {R : Type} (P : Protocol D L) (spec : C → D → R → D → Prop) :
    D → List (Entry C D R) → D → Prop
  | nil {d} : Path P spec d [] d
  | cons {e : Entry C D R} {l d} : P.inv e.pre → spec e.call e.pre e.result e.post →
      P.Leads e.pre e.post → Path P spec e.post l d → Path P spec e.pre (e :: l) d

namespace Path
variable {R : Type} {P : Protocol D L} {spec : C → D → R → D → Prop}

theorem append {d d' d'' : D} {l l' : List (Entry C D R)} (h : Path P spec d l d')
    (h' : Path P spec d' l' d'') : Path P spec d (l ++ l') d'' := by
  induction h with
  | nil => exact h'
  | cons hi hs hl _ ih => exact .cons hi hs hl (ih h')

/-- A call that changes nothing can be inserted wherever the path visits a
    store in which it gives its answer. -/
theorem insert {d₀ d : D} {l : List (Entry C D R)} (h : Path P spec d₀ l d) {e : Entry C D R}
    (he : e.post = e.pre) (hi : P.inv e.pre) (hs : spec e.call e.pre e.result e.pre)
    (hv : e.pre = d₀ ∨ ∃ x ∈ l, x.post = e.pre) :
    ∃ l', Path P spec d₀ l' d ∧ l'.Perm (e :: l) := by
  obtain ⟨idx, call, result, pre, post⟩ := e
  simp only at he hi hs hv
  subst he
  induction h with
  | nil =>
    obtain rfl | ⟨x, hx, -⟩ := hv
    · exact ⟨_, .cons (e := ⟨idx, call, result, post, post⟩) hi hs .refl .nil, .refl _⟩
    · simp at hx
  | @cons x l d hix hsx hlx hp ih =>
    rcases hv with rfl | ⟨y, hy, rfl⟩
    · exact ⟨_, .cons (e := ⟨idx, call, result, x.pre, x.pre⟩) hi hs .refl (.cons hix hsx hlx hp),
        .refl _⟩
    · have hy' : y.post = x.post ∨ ∃ z ∈ l, z.post = y.post := by
        rcases List.mem_cons.1 hy with rfl | hy
        · exact Or.inl rfl
        · exact Or.inr ⟨y, hy, rfl⟩
      obtain ⟨l', hl', hp'⟩ := ih hy'
      exact ⟨_, .cons hix hsx hlx hl', (hp'.cons x).trans (.swap _ _ _)⟩

theorem mem {d₀ d : D} {l : List (Entry C D R)} (h : Path P spec d₀ l d) :
    ∀ e ∈ l, P.inv e.pre ∧ spec e.call e.pre e.result e.post ∧ P.Leads d₀ e.pre ∧
      P.Leads e.pre e.post ∧ P.Leads e.post d := by
  have leads : ∀ {d₀ d : D} {l : List (Entry C D R)}, Path P spec d₀ l d → P.Leads d₀ d := by
    intro d₀ d l h
    induction h with
    | nil => exact .refl
    | cons _ _ hl _ ih => exact hl.trans ih
  induction h with
  | nil => intro e he; simp at he
  | cons hi hs hl hp ih =>
    intro e he
    rcases List.mem_cons.1 he with rfl | he
    · exact ⟨hi, hs, .refl, hl, leads hp⟩
    · obtain ⟨h1, h2, h3, h4, h5⟩ := ih e he
      exact ⟨h1, h2, hl.trans h3, h4, h5⟩

/-- The stores of a path satisfy what its calls keep. -/
theorem induct {Q : D → Prop} {d₀ d : D} {l : List (Entry C D R)} (h : Path P spec d₀ l d)
    (h₀ : Q d₀) (hstep : ∀ e ∈ l, P.inv e.pre → spec e.call e.pre e.result e.post → Q e.pre →
      Q e.post) : (∀ e ∈ l, Q e.pre) ∧ Q d := by
  induction h with
  | nil => exact ⟨by simp, h₀⟩
  | @cons e l d hi hs _ _ ih =>
    have h₁ := hstep e List.mem_cons_self hi hs h₀
    obtain ⟨hl, hd⟩ := ih h₁ fun e he => hstep e (List.mem_cons_of_mem _ he)
    exact ⟨List.forall_mem_cons.2 ⟨h₀, hl⟩, hd⟩

end Path

/-- The calls one after another, each atomically, with their answers. -/
inductive Serial {R : Type} (spec : C → D → R → D → Prop) : D → List (C × R) → D → Prop
  | nil {d} : Serial spec d [] d
  | cons {c r d d' d'' l} : spec c d r d' → Serial spec d' l d'' → Serial spec d ((c, r) :: l) d''

theorem Path.serial {R : Type} {P : Protocol D L} {spec : C → D → R → D → Prop} {d d' : D}
    {l : List (Entry C D R)} (h : Path P spec d l d') :
    Serial spec d (l.map fun e => (e.call, e.result)) d' := by
  induction h with
  | nil => exact .nil
  | cons _ hs _ _ ih => exact .cons hs ih

/-- The stores that a path visits. -/
def Visits {R : Type} (d₀ : D) (l : List (Entry C D R)) (d : D) : Prop :=
  d = d₀ ∨ ∃ e ∈ l, e.post = d

theorem Visits.mono {R : Type} {d₀ d : D} {l l' : List (Entry C D R)} (h : Visits d₀ l d)
    (hsub : ∀ e ∈ l, e ∈ l') : Visits d₀ l' d :=
  h.imp id fun ⟨e, he, hd⟩ => ⟨e, hsub e he, hd⟩

theorem Path.visits_last {R : Type} {P : Protocol D L} {spec : C → D → R → D → Prop} {d₀ d : D}
    {l : List (Entry C D R)} (h : Path P spec d₀ l d) : Visits d₀ l d := by
  induction h with
  | nil => exact Or.inl rfl
  | @cons e l d _ _ _ _ ih =>
    rcases ih with rfl | ⟨x, hx, rfl⟩
    · exact Or.inr ⟨e, List.mem_cons_self, rfl⟩
    · exact Or.inr ⟨x, List.mem_cons_of_mem _ hx, rfl⟩

theorem filterMap_eq_range {α β : Type*} (f : α → Option β) (l : List α) :
    l.filterMap f = (List.range l.length).filterMap fun i => l[i]?.bind f := by
  induction l with
  | nil => rfl
  | cons a l ih =>
    rw [List.length_cons, List.range_succ_eq_map, List.filterMap_cons, List.filterMap_cons, ih,
      List.filterMap_map]
    rfl

/-- Programs whose every call is correct under the interference the protocol
    allows. -/
structure System (C D W L ε ρ : Type) [Store D W] where
  prog : C → Prog D W L ε ρ
  protocol : Protocol D L
  /-- what a call may do atomically -/
  spec : C → D → Except ε ρ → D → Prop
  sound : ∀ (c : C) (d : D) (hd : protocol.inv d),
    wp (spec c) (prog c) (Answers (spec c)) (Point.start W (Except ε ρ) d hd)

namespace System
variable [Store D W] (S : System C D W L ε ρ)

/-- What the point of a running call records is true: the stores it has seen
    were committed at or after its arrival, and it is in the path iff it has
    promised its answer. -/
structure Recorded (d₀ : D) (l : List (Entry C D (Except ε ρ))) (i : ℕ)
    (t : Thread C D W L ε ρ) (v : Point S.protocol W (Except ε ρ)) : Prop where
  seen : ∀ d ∈ v.seen, Visits d₀ l d ∧ S.protocol.Leads t.born d ∧ S.protocol.inv d
  waiting : v.promise = none → ∀ e ∈ l, e.idx ≠ i
  promised : ∀ r, v.promise = some r →
    ∃ e ∈ l, e.idx = i ∧ e.result = r ∧ S.protocol.Leads t.born e.pre

/-- How call `i` stands to the path `l` of the calls that have taken effect. -/
def ThreadOk (d₀ : D) (l : List (Entry C D (Except ε ρ))) (db : D) (i : ℕ)
    (t : Thread C D W L ε ρ) : Prop :=
  match t.status with
  | .running p σ => ∃ v : Point S.protocol W (Except ε ρ), v.session = σ ∧ v.db = db ∧
      S.Recorded d₀ l i t v ∧ wp (S.spec t.call) p (Answers (S.spec t.call)) v
  | .returned r => ∃ e ∈ l, e.idx = i ∧ e.result = r ∧ S.protocol.Leads t.born e.pre
  | .aborted => ∀ e ∈ l, e.idx ≠ i

/-- The path `l` accounts for the calls that have taken effect in `cfg`. -/
structure Tracks (d₀ : D) (cfg : Config C D W L ε ρ) (l : List (Entry C D (Except ε ρ))) :
    Prop where
  path : Path S.protocol S.spec d₀ l cfg.db
  idx : (l.map Entry.idx).Nodup
  call : ∀ e ∈ l, ∃ t, cfg.threads[e.idx]? = some t ∧ t.call = e.call
  thread : ∀ i t, cfg.threads[i]? = some t → S.ThreadOk d₀ l cfg.db i t
  inv : S.protocol.inv cfg.db
  locks : cfg.Disjointed

variable {S} {d₀ : D}

theorem tracks_init (h : S.protocol.inv d₀) : S.Tracks d₀ ⟨d₀, []⟩ [] where
  path := .nil
  idx := by simp
  call := by simp
  thread := by simp
  inv := h
  locks := by intro i j ti tj _ hi; simp at hi

/-- The others: their place in the path and their program stay, the store may
    change by locks they do not hold. -/
theorem ThreadOk.interfere {db db' : D} {l l' : List (Entry C D (Except ε ρ))} {i : ℕ}
    {t : Thread C D W L ε ρ} {Λ : List L} (h : S.ThreadOk d₀ l db i t)
    (hsub : ∀ e ∈ l, e ∈ l') (hnew : ∀ e ∈ l', e ∈ l ∨ e.idx ≠ i) (hdb : Visits d₀ l' db')
    (hc : ReflTransGen (S.protocol.step Λ) db db') (hΛ : Λ.Disjoint t.status.locks) :
    S.ThreadOk d₀ l' db' i t := by
  have hnone : (∀ e ∈ l, e.idx ≠ i) → ∀ e ∈ l', e.idx ≠ i := fun h e he =>
    (hnew e he).elim (h e) id
  unfold ThreadOk at h ⊢
  split at h
  · rename_i p σ hst
    obtain ⟨v, rfl, rfl, hrec, hw⟩ := h
    rw [hst] at hΛ
    have hl := Protocol.Leads.of_steps hc
    let v' : Point S.protocol W (Except ε ρ) :=
      ⟨v.session, db', insert db' v.seen, v.promise, Set.mem_insert _ _, hl.inv v.inv⟩
    have hi : Point.Interfere v v' :=
      ⟨rfl, rfl, ReflTransGen.mono (fun _ _ h => ⟨Λ, hΛ, h⟩) _ _ hc, Set.subset_insert _ _⟩
    refine ⟨v', rfl, rfl, ⟨?_, fun hp => hnone (hrec.waiting hp), fun r hr => ?_⟩,
      wp_stable (Answers.stable ·) v v' hw hi⟩
    · rintro d (rfl | hd)
      · exact ⟨hdb, (hrec.seen _ v.here).2.1.trans hl, hl.inv v.inv⟩
      · exact (hrec.seen d hd).imp (·.mono hsub) id
    · obtain ⟨e, he, h1⟩ := hrec.promised r hr
      exact ⟨e, hsub e he, h1⟩
  · obtain ⟨e, he, h1⟩ := h
    exact ⟨e, hsub e he, h1⟩
  · exact hnone h

/-- The call that moves: the rest follows from its new status and from the
    others being undisturbed. -/
theorem Tracks.moves {db : D} {cfg cfg' : Config C D W L ε ρ}
    {l l' : List (Entry C D (Except ε ρ))} {i : ℕ} {t : Thread C D W L ε ρ}
    {s' : Status D W L ε ρ} (h : S.Tracks d₀ cfg l) (hm : Moves cfg cfg' i t s' db)
    (hd : cfg'.Disjointed) (hpath : Path S.protocol S.spec d₀ l' db)
    (hl : l'.Perm l ∨ ∃ e, l'.Perm (e :: l) ∧ e.idx = i ∧ e.call = t.call ∧ ∀ x ∈ l, x.idx ≠ i)
    (hc : ReflTransGen (S.protocol.step t.status.locks) cfg.db db)
    (hi : S.ThreadOk d₀ l' db i { t with status := s' }) : S.Tracks d₀ cfg' l' := by
  have hsub : ∀ e ∈ l, e ∈ l' := by
    rcases hl with hl | ⟨x, hl, -⟩ <;> intro e he
    · exact hl.mem_iff.2 he
    · exact hl.mem_iff.2 (List.mem_cons_of_mem _ he)
  have hmem : ∀ e ∈ l', e ∈ l ∨ (e.idx = i ∧ e.call = t.call) := by
    rcases hl with hl | ⟨x, hl, h1, h2, -⟩ <;> intro e he
    · exact Or.inl (hl.mem_iff.1 he)
    · rcases List.mem_cons.1 (hl.mem_iff.1 he) with rfl | he
      · exact Or.inr ⟨h1, h2⟩
      · exact Or.inl he
  refine ⟨hm.db ▸ hpath, ?_, fun e he => ?_, fun j tj hj => ?_, ?_, hd⟩
  · rcases hl with hl | ⟨x, hl, hx, -, hnew⟩
    · exact (hl.map _).nodup_iff.2 h.idx
    · rw [(hl.map _).nodup_iff, List.map_cons, List.nodup_cons, hx]
      exact ⟨by simpa using hnew, h.idx⟩
  · rcases hmem e he with he | ⟨h1, h2⟩
    · obtain ⟨t', ht', hc'⟩ := h.call e he
      by_cases hij : i = e.idx
      · subst hij
        rw [hm.at_i] at ht'; cases ht'
        exact ⟨_, hm.get_self, hc'⟩
      · exact ⟨t', (hm.get_other hij).trans ht', hc'⟩
    · rw [h1, h2]; exact ⟨_, hm.get_self, rfl⟩
  · rw [hm.db]
    by_cases hij : i = j
    · subst hij
      rw [hm.get_self] at hj; cases hj
      exact hi
    · rw [hm.get_other hij] at hj
      refine (h.thread j tj hj).interfere hsub (fun e he => ?_) hpath.visits_last hc
        (h.locks i j t tj hij hm.at_i hj)
      rcases hmem e he with he | ⟨h1, -⟩
      · exact Or.inl he
      · exact Or.inr (by rw [h1]; exact hij)
  · rw [hm.db]; exact (Protocol.Leads.of_steps hc).inv h.inv

/-- A call that answers without having committed gets its place in the path. -/
theorem Tracks.answer {cfg cfg' : Config C D W L ε ρ} {l : List (Entry C D (Except ε ρ))} {i : ℕ}
    {t : Thread C D W L ε ρ} {r : Except ε ρ} (h : S.Tracks d₀ cfg l)
    (hm : Moves cfg cfg' i t (.returned r) cfg.db) (hd : cfg'.Disjointed)
    {v : Point S.protocol W (Except ε ρ)} (hrec : S.Recorded d₀ l i t v)
    (ha : Answers (S.spec t.call) r v) : ∃ l', S.Tracks d₀ cfg' l' := by
  rcases ha with hp | ⟨hp, d, hdseen, hspec⟩
  · obtain ⟨e, he, h1⟩ := hrec.promised r hp
    exact ⟨l, h.moves hm hd h.path (Or.inl (.refl _)) .refl ⟨e, he, h1⟩⟩
  · obtain ⟨hvis, hborn, hinv⟩ := hrec.seen d hdseen
    obtain ⟨l', hl', hperm⟩ := h.path.insert (e := ⟨i, t.call, r, d, d⟩) rfl hinv hspec hvis
    have hmem : (⟨i, t.call, r, d, d⟩ : Entry C D (Except ε ρ)) ∈ l' :=
      hperm.mem_iff.2 List.mem_cons_self
    exact ⟨l', h.moves hm hd hl' (Or.inr ⟨_, hperm, rfl, rfl, hrec.waiting hp⟩) .refl
      ⟨_, hmem, rfl, rfl, hborn⟩⟩

/-- A call that arrives has no place in the path yet. -/
theorem Tracks.arrive {cfg : Config C D W L ε ρ} {l : List (Entry C D (Except ε ρ))}
    (h : S.Tracks d₀ cfg l) (c : C) :
    S.ThreadOk d₀ l cfg.db cfg.threads.length ⟨c, cfg.db, .running (S.prog c) ∅⟩ := by
  refine ⟨Point.start W _ cfg.db h.inv, rfl, rfl, ⟨?_, fun _ e he hidx => ?_, ?_⟩,
    S.sound c cfg.db h.inv⟩
  · rintro d rfl
    exact ⟨h.path.visits_last, .refl, h.inv⟩
  · obtain ⟨t, ht, -⟩ := h.call e he
    rw [hidx] at ht
    simp at ht
  · intro r hr
    cases hr

/-- A call that commits gets the last place in the path. -/
theorem Tracks.committed {cfg cfg' : Config C D W L ε ρ} {l : List (Entry C D (Except ε ρ))} {i : ℕ}
    {c : C} {b : D} {k : Prog D W L ε ρ} {v : Point S.protocol W (Except ε ρ)}
    (h : S.Tracks d₀ cfg l)
    (hm : Moves cfg cfg' i ⟨c, b, .running (.commit k) v.session⟩ (.running k ∅)
      (v.session.view cfg.db)) (hd : cfg'.Disjointed) (hdb : v.db = cfg.db)
    (hrec : S.Recorded d₀ l i ⟨c, b, .running (.commit k) v.session⟩ v)
    (hw : wp (S.spec c) (.commit k) (Answers (S.spec c)) v) : ∃ l', S.Tracks d₀ cfg' l' := by
  obtain ⟨hnone, r, hc, hspec, hk⟩ := hw v (.refl v)
  have hnew := hrec.waiting hnone
  have hborn := (hrec.seen _ v.here).2.1
  have hleads := Protocol.Leads.of_steps hc
  rw [← hdb] at hm
  have hpath : Path S.protocol S.spec d₀ (l ++ [⟨i, c, r, v.db, v.session.view v.db⟩])
      (v.session.view v.db) :=
    (hdb ▸ h.path).append (.cons (e := ⟨i, c, r, v.db, v.session.view v.db⟩) v.inv hspec hleads
      .nil)
  refine ⟨_, h.moves hm hd hpath (Or.inr ⟨_, List.perm_append_comm, rfl, rfl, hnew⟩) (hdb ▸ hc)
    ⟨_, rfl, rfl, ⟨?_, ?_, ?_⟩, hk⟩⟩
  · rintro d (rfl | hd)
    · exact ⟨hpath.visits_last, hborn.trans hleads, hleads.inv v.inv⟩
    · exact (hrec.seen d hd).imp (·.mono fun e he => List.mem_append_left _ he) id
  · intro hp
    cases hp
  · intro r' hr'
    cases hr'
    exact ⟨_, List.mem_append_right _ (List.mem_singleton.2 rfl), rfl, rfl, hborn⟩

section
variable [DecidableEq L]

/-- **One action keeps track.** -/
theorem Tracks.act {cfg cfg' : Config C D W L ε ρ} {l : List (Entry C D (Except ε ρ))}
    {a : Action C} (h : S.Tracks d₀ cfg l) (hact : cfg.act S.prog a = some cfg') :
    ∃ l', S.Tracks d₀ cfg' l' := by
  have hd := h.locks.act hact
  cases a with
  | arrive c =>
    cases hact
    refine ⟨l, h.path, h.idx, fun e he => ?_, fun i t hi => ?_, h.inv, hd⟩
    · obtain ⟨t, ht, hc⟩ := h.call e he
      exact ⟨t, List.getElem?_append_left (List.getElem?_eq_some_iff.1 ht).1 ▸ ht, hc⟩
    · rcases arrive_cases hi with hi | ⟨rfl, rfl⟩
      · exact h.thread i t hi
      · exact h.arrive c
  | abort i =>
    obtain ⟨⟨c, b, s⟩, p, σ, rfl, hnr, hnx, hm⟩ := abort_cases hact
    obtain ⟨v, rfl, hdb, hrec, hw⟩ := h.thread i _ hm.at_i
    refine ⟨l, h.moves hm hd h.path (Or.inl (.refl _)) .refl (hrec.waiting ?_)⟩
    -- a call that has promised its answer is done with its transaction
    cases p with
    | ret a => exact absurd rfl (hnr a)
    | raise e => exact absurd rfl (hnx e)
    | stmt s k => exact (hw v (.refl v)).1
    | commit k => exact (hw v (.refl v)).1
  | step i =>
    obtain ⟨⟨c, b, s⟩, s', db, hp, hm⟩ := step_cases hact
    have ht := h.thread i _ hm.at_i
    cases hp with
    | ret a σ =>
      obtain ⟨v, -, -, hrec, hw⟩ := ht
      exact h.answer hm hd hrec hw
    | raise e σ =>
      obtain ⟨v, -, -, hrec, hw⟩ := ht
      exact h.answer hm hd hrec hw
    | stmt s k σ hfree =>
      obtain ⟨v, rfl, hdb, hrec, hw⟩ := ht
      have hk := (hw v (.refl v)).2 (cfg.busy i) (hdb ▸ hfree)
      rw [hdb] at hk
      exact ⟨l, h.moves hm hd h.path (Or.inl (.refl _)) .refl
        ⟨v.goto _, rfl, hdb, ⟨hrec.seen, hrec.waiting, hrec.promised⟩, hk⟩⟩
    | commit k σ =>
      obtain ⟨v, rfl, hdb, hrec, hw⟩ := ht
      exact h.committed hm hd hdb hrec hw

theorem tracks_run {cfg : Config C D W L ε ρ} {ok} (h : S.protocol.inv d₀)
    (r : Run.Where S.prog ok ⟨d₀, []⟩ cfg) : ∃ l, S.Tracks d₀ cfg l :=
  r.induct (I := fun cfg => ∃ l, S.Tracks d₀ cfg l) ⟨[], tracks_init h⟩
    fun ⟨_, h⟩ _ hact => h.act hact

theorem tracks_trans {cfg cfg' : Config C D W L ε ρ} {ok} (h : ∃ l, S.Tracks d₀ cfg l)
    (r : Run.Where S.prog ok cfg cfg') : ∃ l, S.Tracks d₀ cfg' l :=
  r.induct (I := fun cfg => ∃ l, S.Tracks d₀ cfg l) h fun ⟨_, h⟩ _ hact => h.act hact

/-! ## What the path says about a run -/

/-- Every committed store of a run is legal. -/
theorem inv_run {cfg : Config C D W L ε ρ} {ok} (h : S.protocol.inv d₀)
    (r : Run.Where S.prog ok ⟨d₀, []⟩ cfg) : S.protocol.inv cfg.db :=
  (tracks_run h r).choose_spec.inv

/-- **A commit does what its call may do atomically.** -/
theorem Tracks.commit {cfg cfg' : Config C D W L ε ρ} {l : List (Entry C D (Except ε ρ))} {i : ℕ}
    (h : S.Tracks d₀ cfg l) (hact : cfg.act S.prog (.step i) = some cfg') :
    cfg'.db = cfg.db ∨ ∃ t r, cfg.threads[i]? = some t ∧ S.spec t.call cfg.db r cfg'.db ∧
      ReflTransGen (S.protocol.step t.status.locks) cfg.db cfg'.db := by
  obtain ⟨⟨c, b, s⟩, s', db, hp, hm⟩ := step_cases hact
  have ht := h.thread i _ hm.at_i
  cases hp with
  | ret | raise | stmt => exact Or.inl hm.db
  | commit k σ =>
    obtain ⟨v, rfl, hdb, -, hw⟩ := ht
    obtain ⟨-, r, hc, hspec, -⟩ := hw v (.refl v)
    rw [hdb, ← hm.db] at hc hspec
    exact Or.inr ⟨_, r, hm.at_i, hspec, hc⟩

/-- Only a commit changes the store, and only as the protocol allows. -/
theorem Tracks.leads {cfg cfg' : Config C D W L ε ρ} {l : List (Entry C D (Except ε ρ))}
    {a : Action C} (h : S.Tracks d₀ cfg l) (hact : cfg.act S.prog a = some cfg') :
    S.protocol.Leads cfg.db cfg'.db := by
  cases a with
  | arrive c => cases hact; exact .refl
  | abort i =>
    obtain ⟨t, p, σ, -, -, -, hm⟩ := abort_cases hact
    rw [hm.db]; exact .refl
  | step i =>
    rcases h.commit hact with h | ⟨t, r, -, -, h⟩
    · rw [h]; exact .refl
    · exact .of_steps h

theorem leads_run {cfg cfg' : Config C D W L ε ρ} {ok} (h : ∃ l, S.Tracks d₀ cfg l)
    (r : Run.Where S.prog ok cfg cfg') : S.protocol.Leads cfg.db cfg'.db := by
  have := r.induct (I := fun c => (∃ l, S.Tracks d₀ c l) ∧ S.protocol.Leads cfg.db c.db)
    ⟨h, .refl⟩ fun ⟨⟨_, h⟩, hl⟩ _ hact => ⟨h.act hact, hl.trans (h.leads hact)⟩
  exact this.2

/-- **An assertion about single calls**: it holds on arrival, the calls keep it
    by their own steps, and the actions of the others keep it. -/
theorem threads_run {A : Config C D W L ε ρ → ℕ → Thread C D W L ε ρ → Prop} {ok}
    {cfg : Config C D W L ε ρ}
    (harrive : ∀ {c c' : Config C D W L ε ρ} {call}, S.protocol.inv c.db →
      Run.Where S.prog ok ⟨d₀, []⟩ c' → c.act S.prog (.arrive call) = some c' →
      A c' c.threads.length ⟨call, c.db, .running (S.prog call) ∅⟩)
    (habort : ∀ {c c' : Config C D W L ε ρ} {i : ℕ} {t}, c.act S.prog (.abort i) = some c' →
      A c i t → A c' i { t with status := .aborted })
    (hstep : ∀ {c c' : Config C D W L ε ρ} {i : ℕ} {t s'}, (∃ l, S.Tracks d₀ c l) →
      c.act S.prog (.step i) = some c' → Progress c i t.status s' c'.db →
      A c i t → A c' i { t with status := s' })
    (hother : ∀ {c c' : Config C D W L ε ρ} {a} {i : ℕ} {t Λ}, (∃ l, S.Tracks d₀ c l) →
      ok c a → c.act S.prog a = some c' → c.threads[i]? = some t →
      ReflTransGen (S.protocol.step Λ) c.db c'.db → Λ.Disjoint t.status.locks → A c i t → A c' i t)
    (h : S.protocol.inv d₀) (r : Run.Where S.prog ok ⟨d₀, []⟩ cfg) :
    ∀ (i : ℕ) t, cfg.threads[i]? = some t → A cfg i t := by
  induction r with
  | refl => simp
  | @tail c c' a r hok hact ih =>
    obtain ⟨l, hl⟩ := tracks_run h r
    -- an action that leaves the store as it is keeps the other calls
    have hidle : ∀ {i : ℕ} {t}, c'.db = c.db → c.threads[i]? = some t → A c' i t :=
      fun hdb ht => hother ⟨l, hl⟩ hok hact ht (hdb ▸ .refl) (List.disjoint_nil_left _) (ih _ _ ht)
    intro j t ht
    cases a with
    | arrive call =>
      have hc := hact
      cases hc
      rcases arrive_cases ht with ht | ⟨rfl, rfl⟩
      · exact hidle rfl ht
      · exact harrive hl.inv (r.tail _ hok hact) hact
    | abort i =>
      obtain ⟨u, p, σ, -, -, -, hm⟩ := abort_cases hact
      by_cases hij : i = j
      · subst hij
        rw [hm.get_self] at ht; cases ht
        exact habort hact (ih i u hm.at_i)
      · exact hidle hm.db ((hm.get_other hij).symm.trans ht)
    | step i =>
      obtain ⟨u, s', d, hp, hm⟩ := step_cases hact
      by_cases hij : i = j
      · subst hij
        rw [hm.get_self] at ht; cases ht
        exact hstep ⟨l, hl⟩ hact (hm.db ▸ hp) (ih i u hm.at_i)
      · have ht' := (hm.get_other hij).symm.trans ht
        rcases hl.commit hact with hdb | ⟨v, x, hv, -, hc⟩
        · exact hidle hdb ht'
        · exact hother ⟨l, hl⟩ hok hact ht' hc (hl.locks i j v t hij hv ht') (ih j t ht')

/-- A call that arrives during a run arrives at a store that the run leads to. -/
theorem born_run {cfg cfg' : Config C D W L ε ρ} {ok} (h : ∃ l, S.Tracks d₀ cfg l)
    (r : Run.Where S.prog ok cfg cfg') {i : ℕ} {t : Thread C D W L ε ρ}
    (ht : cfg'.threads[i]? = some t) (hi : cfg.threads.length ≤ i) :
    S.protocol.Leads cfg.db t.born := by
  induction r generalizing t with
  | refl => simp [List.getElem?_eq_none hi] at ht
  | @tail c c' a r _ hact ih =>
    have moved : ∀ {j u s' d}, Moves c c' j u s' d → S.protocol.Leads cfg.db t.born := by
      intro j u s' d hm
      by_cases hj : j = i
      · subst hj
        rw [hm.get_self] at ht; cases ht
        exact ih (t := u) hm.at_i
      · exact ih ((hm.get_other hj).symm.trans ht)
    cases a with
    | arrive c₀ =>
      cases hact
      rcases arrive_cases ht with ht | ⟨rfl, rfl⟩
      · exact ih ht
      · exact leads_run h r
    | abort j =>
      obtain ⟨u, p, σ, hu, -, -, hm⟩ := abort_cases hact
      exact moved hm
    | step j =>
      obtain ⟨u, s', d, hp, hm⟩ := step_cases hact
      exact moved hm

end

/-- A call that has answered has its place in the path. -/
theorem Tracks.entry {cfg : Config C D W L ε ρ} {l : List (Entry C D (Except ε ρ))} {i : ℕ}
    {t : Thread C D W L ε ρ} {r : Except ε ρ} (h : S.Tracks d₀ cfg l)
    (ht : cfg.threads[i]? = some t) (hr : t.status = .returned r) :
    ∃ e ∈ l, e.idx = i ∧ e.call = t.call ∧ e.result = r ∧ S.protocol.Leads t.born e.pre := by
  have hok := h.thread i t ht
  rw [ThreadOk, hr] at hok
  obtain ⟨e, he, rfl, rfl, hb⟩ := hok
  obtain ⟨t', ht', hc⟩ := h.call e he
  rw [ht] at ht'
  cases ht'
  exact ⟨e, he, rfl, hc.symm, rfl, hb⟩

/-- **An answer is given in a store committed at or after the arrival of the
    call.** -/
theorem Tracks.returned {cfg : Config C D W L ε ρ} {l : List (Entry C D (Except ε ρ))} {i : ℕ}
    {t : Thread C D W L ε ρ} {r : Except ε ρ} (h : S.Tracks d₀ cfg l)
    (ht : cfg.threads[i]? = some t) (hr : t.status = .returned r) :
    ∃ d d', S.protocol.inv d ∧ S.protocol.Leads d₀ d ∧ S.protocol.Leads t.born d ∧
      S.spec t.call d r d' ∧ S.protocol.Leads d d' ∧ S.protocol.Leads d' cfg.db := by
  have hok := h.thread i t ht
  rw [ThreadOk, hr] at hok
  obtain ⟨e, he, rfl, rfl, hb⟩ := hok
  obtain ⟨t', ht', hc⟩ := h.call e he
  rw [ht] at ht'; cases ht'
  obtain ⟨h1, h2, h3, h4, h5⟩ := h.path.mem e he
  exact ⟨e.pre, e.post, h1, h3, hb, hc ▸ h2, h4, h5⟩

/-- The entries are those of the calls that have answered, one for each. -/
theorem Tracks.mem_iff {cfg : Config C D W L ε ρ} {l : List (Entry C D (Except ε ρ))}
    (h : S.Tracks d₀ cfg l) (hf : cfg.Finished) {i : ℕ} {c : C} {r : Except ε ρ} :
    (∃ e ∈ l, (e.idx, e.call, e.result) = (i, c, r)) ↔
      ∃ t, cfg.threads[i]? = some t ∧ t.status = .returned r ∧ t.call = c := by
  constructor
  · rintro ⟨e, he, heq⟩
    cases heq
    obtain ⟨t, ht, hc⟩ := h.call e he
    have hok := h.thread _ t ht
    refine ⟨t, ht, ?_, hc⟩
    cases hst : t.status with
    | running p σ =>
      have := hf t (List.mem_of_getElem? ht)
      rw [hst] at this
      cases this
    | returned r =>
      rw [ThreadOk, hst] at hok
      obtain ⟨e', he', h1, h2, -⟩ := hok
      rw [List.inj_on_of_nodup_map h.idx he' he h1] at h2
      rw [h2]
    | aborted =>
      rw [ThreadOk, hst] at hok
      exact absurd rfl (hok e he)
  · rintro ⟨t, ht, hst, rfl⟩
    have hok := h.thread i t ht
    rw [ThreadOk, hst] at hok
    obtain ⟨e, he, rfl, rfl, -⟩ := hok
    obtain ⟨t', ht', hc⟩ := h.call e he
    rw [ht] at ht'; cases ht'
    exact ⟨e, he, by rw [hc]⟩

/-- **Serializability.**  When all calls have finished, the calls that were not
    aborted, in some order and each executed atomically, give the same answers
    and the same store. -/
theorem Tracks.serializable {cfg : Config C D W L ε ρ} {l : List (Entry C D (Except ε ρ))}
    (h : S.Tracks d₀ cfg l) (hf : cfg.Finished) :
    ∃ order, order.Perm cfg.answers ∧ Serial S.spec d₀ order cfg.db := by
  refine ⟨_, ?_, h.path.serial⟩
  -- both sides with the numbers of the calls
  have hperm : (l.map fun e => (e.idx, e.call, e.result)).Perm
      ((List.range cfg.threads.length).filterMap fun i =>
        (cfg.threads[i]?.bind Thread.answer).map (Prod.mk i)) := by
    refine (List.perm_ext_iff_of_nodup ?_ ?_).2 ?_
    · refine List.Nodup.of_map Prod.fst ?_
      rw [List.map_map]
      exact h.idx
    · refine List.nodup_range.filterMap fun i j x hi hj => ?_
      simp only [Option.mem_def, Option.map_eq_some_iff] at hi hj
      obtain ⟨_, -, rfl⟩ := hi
      obtain ⟨_, -, hj⟩ := hj
      exact (congrArg Prod.fst hj).symm
    · rintro ⟨i, c, r⟩
      rw [List.mem_map, h.mem_iff hf, List.mem_filterMap]
      constructor
      · rintro ⟨t, ht, hans⟩
        refine ⟨i, List.mem_range.2 (List.getElem?_eq_some_iff.1 ht).1, ?_⟩
        rw [ht, Option.bind_some, Thread.answer_eq_some.2 hans]
        rfl
      · rintro ⟨j, -, hj⟩
        obtain ⟨x, hx, heq⟩ := Option.map_eq_some_iff.1 hj
        obtain ⟨t, ht, hans⟩ := Option.bind_eq_some_iff.1 hx
        cases heq
        exact ⟨t, ht, Thread.answer_eq_some.1 hans⟩
  have := hperm.map Prod.snd
  rw [List.map_map, List.map_filterMap] at this
  rw [Config.answers, filterMap_eq_range]
  simpa [Function.comp_def] using this

end System

end Txn
