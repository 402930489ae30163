/-
  What holds at every statement of a call.

  `always P G p Q d σ`: started at the store `d` in the session `σ`, and whatever
  the protocol `P` allows the others to do in between, the program `p` meets the
  guard `G` at each of its statements and commits, and ends in `Q`.  Other than
  under `wp` (`Txn.Rely`), a program may go on after its commit, and the guard
  is about the points in the middle of it.

  The rules are those of `wp`: `always_mono`, `always_bind`, `always_tryCatch`,
  `always_ofPlan` (one statement), `always_commitTx`, `Settled.always`.

  * `Status.Always.progress`, `Status.Always.others`: a call whose program is
    always guarded stays so by its own steps and by those of the others;
  * `always_run`: in a run of guarded programs whose commits follow the protocol
    every call meets its guard; `always_run_calls` asks this of the calls of the
    run only.
-/
import TicketReservation.Txn.Locking

namespace Txn

open Relation

variable {C D W L ε ρ α β : Type}

/-- What is asked of the statements (with the locks they want) and of the commits of a call. -/
structure Guard (D W L : Type) where
  stmt : D → Session W L → List L → Prop
  commit : D → Session W L → Prop

section
variable [Store D W] (P : Protocol D L) (G : Guard D W L)

/-- Every statement and commit meets the guard (see the head of this file). -/
def always : Prog D W L ε α → (Except ε α → D → Session W L → Prop) → D → Session W L → Prop
  | .ret a, Q, d, σ => Q (.ok a) d σ
  | .raise e, Q, d, σ => Q (.error e) d σ
  | .stmt s k, Q, d, σ => ∀ d', ReflTransGen (P.Others σ.locks) d d' →
      G.stmt d' σ (s.wants d' σ) ∧ ∀ busy : L → Bool, (∀ l ∈ s.wants d' σ, busy l = false) →
        always (k (s.exec d' σ busy).1) Q d' (s.exec d' σ busy).2
  | .commit k, Q, d, σ => ∀ d', ReflTransGen (P.Others σ.locks) d d' →
      G.commit d' σ ∧ always k Q (σ.view d') ∅

variable {P G} {σ : Session W L} {d d' : D}

theorem always_mono {p : Prog D W L ε α} {Q Q' : Except ε α → D → Session W L → Prop}
    (h : ∀ r d σ, Q r d σ → Q' r d σ) (hp : always P G p Q d σ) : always P G p Q' d σ := by
  induction p generalizing d σ with
  | ret a => exact h _ _ _ hp
  | raise e => exact h _ _ _ hp
  | stmt s k ih => exact fun d' hd => ⟨(hp d' hd).1, fun busy hb => ih _ ((hp d' hd).2 busy hb)⟩
  | commit k ih => exact fun d' hd => ⟨(hp d' hd).1, ih (hp d' hd).2⟩

theorem always_bind {p : Prog D W L ε α} {f : α → Prog D W L ε β}
    {Q : Except ε β → D → Session W L → Prop}
    (hp : always P G p (fun r d σ => match r with
      | .ok a => always P G (f a) Q d σ
      | .error e => Q (.error e) d σ) d σ) : always P G (p.bind f) Q d σ := by
  induction p generalizing d σ with
  | ret a => exact hp
  | raise e => exact hp
  | stmt s k ih => exact fun d' hd => ⟨(hp d' hd).1, fun busy hb => ih _ ((hp d' hd).2 busy hb)⟩
  | commit k ih => exact fun d' hd => ⟨(hp d' hd).1, ih (hp d' hd).2⟩

theorem always_tryCatch {p : Prog D W L ε α} {h : ε → Prog D W L ε α}
    {Q : Except ε α → D → Session W L → Prop}
    (hp : always P G p (fun r d σ => match r with
      | .ok a => Q (.ok a) d σ
      | .error e => always P G (h e) Q d σ) d σ) : always P G (p.tryCatch h) Q d σ := by
  induction p generalizing d σ with
  | ret a => exact hp
  | raise e => exact hp
  | stmt s k ih => exact fun d' hd => ⟨(hp d' hd).1, fun busy hb => ih _ ((hp d' hd).2 busy hb)⟩
  | commit k ih => exact fun d' hd => ⟨(hp d' hd).1, ih (hp d' hd).2⟩

/-- Interference keeps what is always guarded. -/
theorem always_stable {p : Prog D W L ε α} {Q : Except ε α → Prop}
    (h : always P G p (fun r _ _ => Q r) d σ) (hd : ReflTransGen (P.Others σ.locks) d d') :
    always P G p (fun r _ _ => Q r) d' σ := by
  cases p with
  | ret a => exact h
  | raise e => exact h
  | stmt s k => exact fun d'' hd' => h d'' (hd.trans hd')
  | commit k => exact fun d'' hd' => h d'' (hd.trans hd')

omit [Store D W] in
theorem Protocol.Keeps.others {K : D → Prop} (hK : P.Keeps σ.locks K) (hi : P.inv d) (hk : K d)
    (hd : ReflTransGen (P.Others σ.locks) d d') : P.inv d' ∧ K d' :=
  ⟨(Protocol.Leads.of_others hd).inv hi, Protocol.chain_induct (fun h => ⟨_, h.choose_spec.2⟩)
    (fun hi hk h => hK hi h.choose_spec.1 h.choose_spec.2 hk) hi hk hd⟩

/-- **One statement**, when the locks of the session protect `K`. -/
theorem always_exec {s : Stmt D W L β} {Q : Except ε β → D → Session W L → Prop} {K : D → Prop}
    (hK : P.Keeps σ.locks K)
    (h : ∀ d, P.inv d → K d → G.stmt d σ (s.wants d σ) ∧
      ∀ busy : L → Bool, (∀ l ∈ s.wants d σ, busy l = false) →
        Q (.ok (s.exec d σ busy).1) d (s.exec d σ busy).2)
    (hi : P.inv d) (hk : K d) : always P G (Prog.exec s) Q d σ := by
  intro d' hd
  obtain ⟨hi', hk'⟩ := hK.others hi hk hd
  exact h d' hi' hk'

theorem always_ofPlan {plan : D → Plan W L β} {Q : Except ε β → D → Session W L → Prop}
    {K : D → Prop} (hK : P.Keeps σ.locks K)
    (h : ∀ d, P.inv d → K d →
      G.stmt d σ ((plan (σ.view d)).waits ++ (plan (σ.view d)).takes) ∧
      Q (.ok (plan (σ.view d)).result) d
        ⟨σ.writes ++ (plan (σ.view d)).writes, σ.locks ++ (plan (σ.view d)).takes⟩)
    (hi : P.inv d) (hk : K d) : always P G (Prog.exec (Stmt.ofPlan plan)) Q d σ :=
  always_exec hK (fun d hi hk => ⟨(h d hi hk).1, fun _ _ => (h d hi hk).2⟩) hi hk

theorem always_rollback {Q : Except ε Unit → D → Session W L → Prop} {K : D → Prop}
    (hK : P.Keeps σ.locks K) (hG : ∀ d, P.inv d → K d → G.stmt d σ [])
    (h : ∀ d, P.inv d → K d → Q (.ok ()) d ∅) (hi : P.inv d) (hk : K d) :
    always P G (Prog.rollback : Prog D W L ε Unit) Q d σ :=
  always_exec hK (fun d hi hk => ⟨hG d hi hk, fun _ _ => h d hi hk⟩) hi hk

theorem always_commitTx {Q : Except ε Unit → D → Session W L → Prop} {K : D → Prop}
    (hK : P.Keeps σ.locks K)
    (h : ∀ d, P.inv d → K d → G.commit d σ ∧ Q (.ok ()) (σ.view d) ∅)
    (hi : P.inv d) (hk : K d) : always P G (Prog.commitTx : Prog D W L ε Unit) Q d σ := by
  intro d' hd
  obtain ⟨hi', hk'⟩ := hK.others hi hk hd
  exact h d' hi' hk'

/-- A settled part of a program wants locks that it holds and the next ones that it will hold. -/
theorem Settled.always {K : D → Prop} {p : Prog D W L ε α} {r : Except ε α} {σ σ' : Session W L}
    {Q : Except ε α → D → Session W L → Prop} (h : Settled K p σ r σ') (hK : P.Keeps σ.locks K)
    (hG : ∀ d τ Λ Λ', P.inv d → K d → σ.locks <+: τ.locks → τ.locks ++ Λ' <+: σ'.locks →
      Λ ⊆ τ.locks ++ Λ' → G.stmt d τ Λ)
    (hQ : ∀ d, P.inv d → K d → Q r d σ') (hi : P.inv d) (hk : K d) :
    Txn.always P G p Q d σ := by
  induction h generalizing d with
  | ret => exact hQ d hi hk
  | raise => exact hQ d hi hk
  | stmt b τ hs hw hl hrest ih =>
    intro d' hd
    obtain ⟨hi', hk'⟩ := hK.others hi hk hd
    obtain ⟨Λ, hΛ⟩ := hl
    refine ⟨hG d' _ _ Λ hi' hk' List.prefix_rfl (hΛ ▸ hrest.locks) (hΛ ▸ hw d' hk'), fun busy _ => ?_⟩
    rw [hs d' busy hk']
    exact ih (hK.mono (hΛ ▸ List.subset_append_left _ _)) (fun d τ' Λ₁ Λ₂ hi hk h₁ h₂ h₃ =>
      hG d τ' Λ₁ Λ₂ hi hk ((List.prefix_append _ Λ).trans (hΛ ▸ h₁)) h₂ h₃) hQ hi' hk'

end

/-! ## The calls of a run -/

section
variable [Store D W] (P : Protocol D L)

/-- The rest of the call is always guarded. -/
def Status.Always (G : Guard D W L) (Q : Except ε ρ → Prop) (d : D) : Status D W L ε ρ → Prop
  | .running p σ => always P G p (fun r _ _ => Q r) d σ
  | .returned r => Q r
  | .aborted => True

variable {P} {G : Guard D W L} {Q : Except ε ρ → Prop}

/-- A step of the call itself. -/
theorem Status.Always.progress [DecidableEq L] {cfg : Config C D W L ε ρ} {i : ℕ}
    {s s' : Status D W L ε ρ} {d : D} (h : s.Always P G Q cfg.db) (hp : Progress cfg i s s' d) :
    s'.Always P G Q d := by
  cases hp with
  | ret => exact h
  | raise => exact h
  | stmt s k σ hw => exact (h cfg.db .refl).2 _ hw
  | commit k σ => exact (h cfg.db .refl).2

/-- Steps of the others. -/
theorem Status.Always.others {s : Status D W L ε ρ} {d d' : D} {Λ : List L}
    (h : s.Always P G Q d) (hd : ReflTransGen (P.step Λ) d d') (hΛ : Λ.Disjoint s.locks) :
    s.Always P G Q d' := by
  cases s with
  | running p σ => exact always_stable h (ReflTransGen.mono (fun _ _ hst => ⟨Λ, hΛ, hst⟩) _ _ hd)
  | returned r => exact h
  | aborted => trivial

/-- A guarded call meets its guard at the statement it is at. -/
theorem Status.Always.stmt {d : D} {σ : Session W L} {s : Stmt D W L β} {k : β → Prog D W L ε ρ}
    (h : (Status.running (.stmt s k) σ).Always P G Q d) : G.stmt d σ (s.wants d σ) :=
  (h d .refl).1

/-- A guarded call that wants a lock is at a statement that meets the guard. -/
theorem Status.Always.wants {d : D} {s : Status D W L ε ρ} {l : L} (h : s.Always P G Q d)
    (hl : l ∈ s.wants d) : ∃ σ, s.locks = σ.locks ∧ G.stmt d σ (s.wants d) := by
  cases s with
  | running p σ =>
    cases p with
    | stmt st k => exact ⟨σ, rfl, h.stmt⟩
    | ret a => cases hl
    | raise e => cases hl
    | commit k => cases hl
  | returned r => cases hl
  | aborted => cases hl

theorem Status.Always.commit {d : D} {σ : Session W L} {k : Prog D W L ε ρ}
    (h : (Status.running (.commit k) σ).Always P G Q d) : G.commit d σ :=
  (h d .refl).1

/-- The calls of a run whose programs are always guarded. -/
structure Guarded (P : Protocol D L) (G : C → Guard D W L) (Q : C → Except ε ρ → Prop)
    (cfg : Config C D W L ε ρ) : Prop where
  inv : P.inv cfg.db
  locks : cfg.Disjointed
  thread : ∀ (i : ℕ) (t : Thread C D W L ε ρ), cfg.threads[i]? = some t →
    t.status.Always P (G t.call) (Q t.call) cfg.db

section
variable [DecidableEq L] {prog : C → Prog D W L ε ρ} {G : C → Guard D W L}
  {Q : C → Except ε ρ → Prop} {cfg cfg' : Config C D W L ε ρ}

/-- The store changes only at a commit that meets its guard. -/
theorem Guarded.step (h : Guarded P G Q cfg) {i : ℕ} {t : Thread C D W L ε ρ}
    {s' : Status D W L ε ρ} {d : D} (ht : cfg.threads[i]? = some t)
    (hp : Progress cfg i t.status s' d) :
    d = cfg.db ∨ ∃ k σ, t.status = .running (.commit k) σ ∧ d = σ.view cfg.db ∧
      (G t.call).commit cfg.db σ := by
  have ha := h.thread i t ht
  generalize t.status = s at ha hp
  cases hp with
  | ret | raise | stmt => exact Or.inl rfl
  | commit k σ => exact Or.inr ⟨k, σ, rfl, rfl, ha.commit⟩

/-- **One action of guarded calls**, if a call that arrives is guarded. -/
theorem Guarded.act {a : Action C}
    (harrive : ∀ c, a = .arrive c → ∀ d, P.inv d →
      always P (G c) (prog c) (fun r _ _ => Q c r) d ∅)
    (hcommit : ∀ c d σ, P.inv d → (G c).commit d σ → ReflTransGen (P.step σ.locks) d (σ.view d))
    (h : Guarded P G Q cfg) (hact : cfg.act prog a = some cfg') : Guarded P G Q cfg' := by
  have hlocks := h.locks.act hact
  cases a with
  | arrive c =>
    cases hact
    refine ⟨h.inv, hlocks, fun i t ht => ?_⟩
    rcases arrive_cases ht with ht | ⟨-, rfl⟩
    · exact h.thread i t ht
    · exact harrive c rfl cfg.db h.inv
  | abort i =>
    obtain ⟨t, p, σ, -, -, -, hm⟩ := abort_cases hact
    refine ⟨hm.db ▸ h.inv, hlocks, fun j tj hj => ?_⟩
    rw [hm.db]
    by_cases hij : i = j
    · subst hij
      rw [hm.get_self] at hj
      cases hj
      trivial
    · exact h.thread j tj (hm.get_other hij ▸ hj)
  | step i =>
    obtain ⟨t, s', d, hp, hm⟩ := step_cases hact
    have hsteps : ReflTransGen (P.step t.status.locks) cfg.db d := by
      rcases h.step hm.at_i hp with rfl | ⟨k, σ, hs, rfl, hc⟩
      · exact .refl
      · rw [hs]
        exact hcommit t.call cfg.db σ h.inv hc
    refine ⟨?_, hlocks, fun j tj hj => ?_⟩
    · rw [hm.db]
      exact (Protocol.Leads.of_steps hsteps).inv h.inv
    · rw [hm.db]
      by_cases hij : i = j
      · subst hij
        rw [hm.get_self] at hj
        cases hj
        exact (h.thread i t hm.at_i).progress hp
      · rw [hm.get_other hij] at hj
        exact (h.thread j tj hj).others hsteps (h.locks i j t tj hij hm.at_i hj)

/-- **In a run of guarded programs whose commits follow the protocol, every call is guarded.** -/
theorem always_run {ok} {d₀ : D} (h : P.inv d₀)
    (harrive : ∀ c d, P.inv d → always P (G c) (prog c) (fun r _ _ => Q c r) d ∅)
    (hcommit : ∀ c d σ, P.inv d → (G c).commit d σ → ReflTransGen (P.step σ.locks) d (σ.view d))
    (r : Run.Where prog ok ⟨d₀, []⟩ cfg) : Guarded P G Q cfg :=
  r.induct (I := Guarded P G Q) ⟨h, by simp [Config.Disjointed], by simp⟩
    fun hc _ hact => hc.act (fun c _ => harrive c) hcommit hact

/-- **The same**, when only the calls of the run are known to be guarded. -/
theorem always_run_calls {ok} {d₀ : D} (h : P.inv d₀)
    (harrive : ∀ c ∈ cfg.threads.map Thread.call, ∀ d, P.inv d →
      always P (G c) (prog c) (fun r _ _ => Q c r) d ∅)
    (hcommit : ∀ c d σ, P.inv d → (G c).commit d σ → ReflTransGen (P.step σ.locks) d (σ.view d))
    (r : Run.Where prog ok ⟨d₀, []⟩ cfg) : Guarded P G Q cfg := by
  generalize hstart : (⟨d₀, []⟩ : Config C D W L ε ρ) = cfg₀ at r
  induction r with
  | refl =>
    subst hstart
    exact ⟨h, by simp [Config.Disjointed], by simp⟩
  | @tail c c' a _ _ hact ih =>
    have hpre := act_calls hact
    refine (ih fun c hc => harrive c (hpre.subset hc)).act (fun call ha => ?_) hcommit hact
    subst ha
    cases hact
    exact harrive call (by simp)

end

end

end Txn
