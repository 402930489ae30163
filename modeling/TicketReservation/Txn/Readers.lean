/-
  Calls that only look.

  A silent program neither writes nor locks nor commits.  If the silent calls are
  taken out of a configuration, the other ones go on in the same way: every run
  with silent calls is one without them, with the same stores and the same
  answers (`erases_run`).  A silent call answers what it has read in stores that
  were committed one after another since it arrived (`sees_run`).

  `Viewers` says how the calls of the larger system are those of the smaller one
  and silent ones.
-/
import TicketReservation.Txn.Finish

namespace Txn

variable {C C' D W L ε ρ ρ' α β : Type}

/-! ## Silent programs -/

/-- The program neither writes nor locks nor commits. -/
def Prog.Silent : Prog D W L ε α → Prop
  | .ret _ => True
  | .raise _ => True
  | .commit _ => False
  | .stmt s k => (∀ d busy, (s.exec d ∅ busy).2 = ∅) ∧ ∀ b, (k b).Silent

namespace Prog

theorem silent_read [Store D W] (f : D → β) :
    (exec (Stmt.read f) : Prog D W L ε β).Silent :=
  ⟨fun _ _ => rfl, fun _ => trivial⟩

theorem Silent.bind {p : Prog D W L ε α} {f : α → Prog D W L ε β} (hp : p.Silent)
    (hf : ∀ a, (f a).Silent) : (p.bind f).Silent := by
  induction p with
  | ret a => exact hf a
  | raise e => trivial
  | stmt s k ih => exact ⟨hp.1, fun b => ih b (hp.2 b)⟩
  | commit k => exact hp.elim

end Prog

/-- A silent call holds no locks. -/
def Status.Silent : Status D W L ε ρ → Prop
  | .running p σ => p.Silent ∧ σ = ∅
  | _ => True

theorem Status.Silent.locks {s : Status D W L ε ρ} (h : s.Silent) : s.locks = [] := by
  cases s with
  | running p σ => rw [Status.locks, h.2, Session.empty_locks]
  | returned | aborted => rfl

/-- A silent call stays silent and leaves the store. -/
theorem Status.Silent.progress [Store D W] [DecidableEq L] {cfg : Config C D W L ε ρ} {i : ℕ}
    {s s' : Status D W L ε ρ} {d : D} (h : s.Silent) (hp : Progress cfg i s s' d) :
    s'.Silent ∧ d = cfg.db := by
  cases hp with
  | ret | raise => exact ⟨trivial, rfl⟩
  | stmt s k σ =>
    obtain ⟨⟨hs, hk⟩, rfl⟩ := h
    exact ⟨⟨hk _, hs _ _⟩, rfl⟩
  | commit => exact h.1.elim

/-! ## Erasing the silent calls -/

/-- The status of a call whose program goes on with `f`. -/
def Status.map (f : ρ → ρ') : Status D W L ε ρ → Status D W L ε ρ'
  | .running p σ => .running (p.map f) σ
  | .returned r => .returned (r.map f)
  | .aborted => .aborted

@[simp] theorem Status.map_locks (f : ρ → ρ') (s : Status D W L ε ρ) :
    (s.map f).locks = s.locks := by
  cases s <;> rfl

/-- The calls of `prog'` are those of `prog`, and silent ones. -/
structure Viewers (prog : C → Prog D W L ε ρ) (prog' : C' → Prog D W L ε ρ') where
  call : C' → Option C
  answer : ρ → ρ'
  kept : ∀ c' c, call c' = some c → prog' c' = (prog c).map answer
  silent : ∀ c', call c' = none → (prog' c').Silent

namespace Viewers
variable {prog : C → Prog D W L ε ρ} {prog' : C' → Prog D W L ε ρ'} (V : Viewers prog prog')

/-- The call is one of `prog`. -/
structure Keeps (t : Thread C' D W L ε ρ') (t₀ : Thread C D W L ε ρ) : Prop where
  call : V.call t.call = some t₀.call
  born : t.born = t₀.born
  status : t.status = t₀.status.map V.answer

/-- The second calls are the first ones without the silent ones. -/
inductive Erases : List (Thread C' D W L ε ρ') → List (Thread C D W L ε ρ) → Prop
  | nil : Erases [] []
  | keep {t t₀ ts ts₀} : V.Keeps t t₀ → Erases ts ts₀ → Erases (t :: ts) (t₀ :: ts₀)
  | drop {t ts ts₀} : V.call t.call = none → t.status.Silent → Erases ts ts₀ →
      Erases (t :: ts) ts₀

variable {V}

namespace Erases
variable {a b : List (Thread C' D W L ε ρ')} {a₀ b₀ ts₀ : List (Thread C D W L ε ρ)}

theorem append (ha : V.Erases a a₀) (hb : V.Erases b b₀) : V.Erases (a ++ b) (a₀ ++ b₀) := by
  induction ha with
  | nil => exact hb
  | keep h _ ih => exact .keep h ih
  | drop h hs _ ih => exact .drop h hs ih

theorem split (h : V.Erases (a ++ b) ts₀) :
    ∃ a₀ b₀, ts₀ = a₀ ++ b₀ ∧ V.Erases a a₀ ∧ V.Erases b b₀ := by
  induction a generalizing ts₀ with
  | nil => exact ⟨[], ts₀, rfl, .nil, h⟩
  | cons t a ih =>
    cases h with
    | keep hk h =>
      obtain ⟨a₀, b₀, rfl, ha, hb⟩ := ih h
      exact ⟨_ :: a₀, b₀, rfl, .keep hk ha, hb⟩
    | drop hn hs h =>
      obtain ⟨a₀, b₀, rfl, ha, hb⟩ := ih h
      exact ⟨a₀, b₀, rfl, .drop hn hs ha, hb⟩

/-- The silent calls hold no locks. -/
theorem locks (h : V.Erases a a₀) (l : L) :
    (∃ t ∈ a, l ∈ t.status.locks) ↔ ∃ t ∈ a₀, l ∈ t.status.locks := by
  induction h with
  | nil => simp
  | @keep t t₀ _ _ hk _ ih =>
    have hlocks : t.status.locks = t₀.status.locks := by rw [hk.status, Status.map_locks]
    simp only [List.exists_mem_cons_iff, hlocks, ih]
  | drop _ hs _ ih => simp only [List.exists_mem_cons_iff, hs.locks, List.not_mem_nil, false_or, ih]

/-- The answers of the calls that are kept. -/
theorem answers (h : V.Erases a a₀) :
    (a.filterMap Thread.answer).filterMap (fun p => (V.call p.1).map fun c => (c, p.2)) =
      (a₀.filterMap Thread.answer).map fun p => (p.1, p.2.map V.answer) := by
  induction h with
  | nil => rfl
  | @keep t t₀ _ _ hk _ ih =>
    obtain ⟨call, born, s⟩ := t
    obtain ⟨call₀, born₀, s₀⟩ := t₀
    obtain ⟨hcall, -, rfl⟩ := hk
    cases s₀ with
    | running | aborted => exact ih
    | returned r =>
      change V.call call = some call₀ at hcall
      have hans : (⟨call, born, .returned (r.map V.answer)⟩ : Thread C' D W L ε ρ').answer =
          some (call, r.map V.answer) := rfl
      have hans₀ : (⟨call₀, born₀, .returned r⟩ : Thread C D W L ε ρ).answer = some (call₀, r) :=
        rfl
      rw [Status.map, List.filterMap_cons_some hans, List.filterMap_cons_some hans₀,
        List.filterMap_cons_some (by rw [hcall]; rfl), ih, List.map_cons]
  | @drop t _ _ hn _ _ ih =>
    cases hans : t.answer with
    | none => rw [List.filterMap_cons_none hans, ih]
    | some p =>
      obtain ⟨c, r⟩ := p
      obtain ⟨-, rfl⟩ := Thread.answer_eq_some.1 hans
      rw [List.filterMap_cons_some hans, List.filterMap_cons_none (by rw [hn]; rfl), ih]

end Erases

end Viewers

/-- Call `i` of a list of calls. -/
theorem exists_split {τ : Type*} {ts : List τ} {i : ℕ} {t : τ} (h : ts[i]? = some t) :
    ∃ a b, ts = a ++ t :: b ∧ a.length = i := by
  obtain ⟨hi, rfl⟩ := List.getElem?_eq_some_iff.1 h
  refine ⟨ts.take i, ts.drop (i + 1), ?_, List.length_take_of_le hi.le⟩
  rw [← List.drop_eq_getElem_cons hi, List.take_append_drop]

section
variable [DecidableEq L] {cfg : Config C D W L ε ρ}

/-- The locks of the other calls. -/
theorem busy_split {a b : List (Thread C D W L ε ρ)} {t : Thread C D W L ε ρ}
    (h : cfg.threads = a ++ t :: b) (l : L) :
    cfg.busy a.length l = true ↔ ∃ u ∈ a ++ b, l ∈ u.status.locks := by
  rw [Config.busy_eq_true, h]
  constructor
  · rintro ⟨j, u, hj, hu, hl⟩
    refine ⟨u, ?_, hl⟩
    rcases Nat.lt_trichotomy j a.length with hlt | heq | hgt
    · rw [List.getElem?_append_left hlt] at hu
      exact List.mem_append_left _ (List.mem_of_getElem? hu)
    · exact absurd heq hj
    · obtain ⟨n, rfl⟩ := Nat.exists_eq_add_of_lt hgt
      rw [List.getElem?_append_right (by omega),
        show a.length + n + 1 - a.length = n + 1 by omega, List.getElem?_cons_succ] at hu
      exact List.mem_append_right _ (List.mem_of_getElem? hu)
  · rintro ⟨u, hu, hl⟩
    rcases List.mem_append.1 hu with hu | hu
    · obtain ⟨j, hj, rfl⟩ := List.getElem_of_mem hu
      refine ⟨j, a[j], hj.ne, ?_, hl⟩
      rw [List.getElem?_append_left hj, List.getElem?_eq_getElem hj]
    · obtain ⟨j, hj, rfl⟩ := List.getElem_of_mem hu
      refine ⟨a.length + (j + 1), b[j], by omega, ?_, hl⟩
      rw [List.getElem?_append_right (Nat.le_add_right _ _), Nat.add_sub_cancel_left,
        List.getElem?_cons_succ, List.getElem?_eq_getElem hj]

/-- What a call can do, the system does. -/
theorem Progress.act [Store D W] {prog : C → Prog D W L ε ρ} {i : ℕ} {t : Thread C D W L ε ρ}
    {s' : Status D W L ε ρ} {d : D} (ht : cfg.threads[i]? = some t)
    (hp : Progress cfg i t.status s' d) :
    ∃ cfg', cfg.act prog (.step i) = some cfg' ∧ Moves cfg cfg' i t s' d := by
  obtain ⟨c, born, s⟩ := t
  dsimp only at hp
  cases hp with
  | ret | raise | commit =>
    simp only [Config.act, ht]
    exact ⟨_, rfl, ht, cfg.setStatus_threads ht _, rfl⟩
  | stmt s k σ hw =>
    have hfree : ¬ (s.wants cfg.db σ).any (cfg.busy i) = true := by simpa using hw
    simp only [Config.act, ht, if_neg hfree]
    exact ⟨_, rfl, ht, cfg.setStatus_threads ht _, rfl⟩

omit [DecidableEq L] in
/-- Call `i`, which has moved, among the others. -/
theorem Moves.split {cfg' : Config C D W L ε ρ} {t : Thread C D W L ε ρ} {s' : Status D W L ε ρ}
    {d : D} {a b : List (Thread C D W L ε ρ)} (hm : Moves cfg cfg' a.length t s' d)
    (h : cfg.threads = a ++ t :: b) : cfg'.threads = a ++ { t with status := s' } :: b := by
  rw [hm.next, h, List.set_append_right _ _ (Nat.le_refl _), Nat.sub_self, List.set_cons_zero]

end

/-! ## The smaller system does the same -/

section
variable [Store D W] [DecidableEq L] {prog : C → Prog D W L ε ρ} {prog' : C' → Prog D W L ε ρ'}
  {V : Viewers prog prog'}

/-- The second configuration is the first one without the silent calls. -/
structure Viewers.Erased (V : Viewers prog prog') (cfg' : Config C' D W L ε ρ')
    (cfg : Config C D W L ε ρ) : Prop where
  db : cfg'.db = cfg.db
  threads : V.Erases cfg'.threads cfg.threads

namespace Viewers
variable {cfg' c' : Config C' D W L ε ρ'} {cfg : Config C D W L ε ρ}

/-- What a call of `prog` does in the larger system, it does in the smaller one. -/
theorem progress_of_map {i j : ℕ} {s : Status D W L ε ρ} {s' : Status D W L ε ρ'} {d : D}
    (hdb : cfg'.db = cfg.db) (hbusy : cfg'.busy i = cfg.busy j)
    (hp : Progress cfg' i (s.map V.answer) s' d) :
    ∃ s₁, s' = s₁.map V.answer ∧ Progress cfg j s s₁ d := by
  cases s with
  | running p σ =>
    cases p with
    | ret a =>
      obtain ⟨rfl, rfl⟩ := hp.of_ret
      exact ⟨.returned (.ok a), rfl, hdb ▸ .ret a σ⟩
    | raise e =>
      obtain ⟨rfl, rfl⟩ := hp.of_raise
      exact ⟨.returned (.error e), rfl, hdb ▸ .raise e σ⟩
    | stmt s k =>
      obtain ⟨hw, rfl, rfl⟩ := hp.of_stmt
      rw [hdb, hbusy] at hw ⊢
      exact ⟨_, rfl, .stmt s k σ hw⟩
    | commit k =>
      obtain ⟨rfl, rfl⟩ := hp.of_commit
      rw [hdb]
      exact ⟨_, rfl, .commit k σ⟩
  | returned r => exact absurd hp.isRunning Bool.false_ne_true
  | aborted => exact absurd hp.isRunning Bool.false_ne_true

omit [Store D W] in
/-- One call moves: it is silent, or its counterpart moves so. -/
theorem Erased.split (h : V.Erased cfg' cfg) {i : ℕ} {t : Thread C' D W L ε ρ'}
    (ht : cfg'.threads[i]? = some t) :
    (t.status.Silent ∧ ∀ s', s'.Silent → ∀ c' : Config C' D W L ε ρ',
      Moves cfg' c' i t s' cfg'.db → V.Erased c' cfg) ∨
    ∃ j t₀, cfg.threads[j]? = some t₀ ∧ V.Keeps t t₀ ∧ cfg'.busy i = cfg.busy j ∧
      ∀ s₁ d c' c, Moves cfg' c' i t (s₁.map V.answer) d → Moves cfg c j t₀ s₁ d →
        V.Erased c' c := by
  obtain ⟨a, b, hab, rfl⟩ := exists_split ht
  obtain ⟨a₀, tb₀, hab₀, ha, htb⟩ := (hab ▸ h.threads).split
  cases htb with
  | @keep _ t₀ _ b₀ hk hb =>
    refine .inr ⟨a₀.length, t₀, by simp [hab₀], hk, ?_, fun s₁ d c' c hm hm₀ => ?_⟩
    · funext l
      rw [Bool.eq_iff_iff, busy_split hab, busy_split hab₀]
      exact (ha.append hb).locks l
    · refine ⟨hm.db.trans hm₀.db.symm, ?_⟩
      rw [hm.split hab, hm₀.split hab₀]
      exact ha.append (.keep ⟨hk.call, hk.born, rfl⟩ hb)
  | drop hn hs hb =>
    refine .inl ⟨hs, fun s' hs' c' hm => ⟨hm.db.trans h.db, ?_⟩⟩
    rw [hm.split hab, hab₀]
    exact ha.append (.drop hn hs' hb)

/-- **One action.** -/
theorem Erased.act (h : V.Erased cfg' cfg) {x : Action C'} (hact : cfg'.act prog' x = some c') :
    ∃ c, Run prog cfg c ∧ V.Erased c' c := by
  cases x with
  | arrive call =>
    cases hact
    cases hc : V.call call with
    | none =>
      refine ⟨cfg, .refl _, h.db, ?_⟩
      rw [← List.append_nil cfg.threads]
      exact h.threads.append (.drop hc ⟨V.silent call hc, rfl⟩ .nil)
    | some c =>
      refine ⟨_, .tail (.arrive c) (.refl _) trivial rfl, h.db, ?_⟩
      exact h.threads.append (.keep ⟨hc, h.db, by rw [V.kept call c hc]; rfl⟩ .nil)
  | abort i =>
    obtain ⟨t, p, σ, hst, hret, hraise, hm⟩ := abort_cases hact
    rcases h.split hm.at_i with ⟨-, hs⟩ | ⟨j, t₀, ht₀, hk, -, hmove⟩
    · exact ⟨cfg, .refl _, hs .aborted trivial _ hm⟩
    · have hact₀ : ∃ c, cfg.act prog (.abort j) = some c ∧ Moves cfg c j t₀ .aborted cfg.db := by
        obtain ⟨call, born, s⟩ := t₀
        have hs := hst.symm.trans hk.status
        dsimp only at hs
        cases s with
        | running p₀ σ₀ =>
          cases hs
          cases p₀ with
          | ret a => exact absurd rfl (hret _)
          | raise e => exact absurd rfl (hraise _)
          | stmt | commit =>
            simp only [Config.act, ht₀]
            exact ⟨_, rfl, ht₀, cfg.setStatus_threads ht₀ _, rfl⟩
        | returned | aborted => cases hs
      obtain ⟨c, hc, hm₀⟩ := hact₀
      exact ⟨c, .tail _ (.refl _) trivial hc, hmove .aborted _ _ _ (h.db ▸ hm) hm₀⟩
  | step i =>
    obtain ⟨t, s', d, hp, hm⟩ := step_cases hact
    rcases h.split hm.at_i with ⟨hsil, hs⟩ | ⟨j, t₀, ht₀, hk, hbusy, hmove⟩
    · obtain ⟨hs', rfl⟩ := hsil.progress hp
      exact ⟨cfg, .refl _, hs _ hs' _ hm⟩
    · rw [hk.status] at hp
      obtain ⟨s₁, rfl, hp₀⟩ := progress_of_map h.db hbusy hp
      obtain ⟨c, hc, hm₀⟩ := hp₀.act ht₀
      exact ⟨c, .tail _ (.refl _) trivial hc, hmove _ _ _ _ hm hm₀⟩

/-- **A run with silent calls is one without them.** -/
theorem erases_run (h : V.Erased cfg' cfg) (r : Run prog' cfg' c') :
    ∃ c, Run prog cfg c ∧ V.Erased c' c :=
  r.induct (I := fun c' => ∃ c, Run prog cfg c ∧ V.Erased c' c) ⟨cfg, .refl _, h⟩
    fun ⟨_, hr, hc⟩ _ hact => (hc.act hact).imp fun _ h => ⟨hr.trans h.1, h.2⟩

omit [Store D W] [DecidableEq L] in
theorem Erased.start (V : Viewers prog prog') (d : D) : V.Erased ⟨d, []⟩ ⟨d, []⟩ := ⟨rfl, .nil⟩

end Viewers

end

/-! ## What a silent call has read -/

/-- The program has read these stores, one after another, and `q` is its rest. -/
inductive Sees : Prog D W L ε α → List D → Prog D W L ε α → Prop
  | nil (p : Prog D W L ε α) : Sees p [] p
  | cons {β : Type} {s : Stmt D W L β} {k : β → Prog D W L ε α} (d : D) (busy : L → Bool)
      {ds : List D} {q : Prog D W L ε α} : Sees (k (s.exec d ∅ busy).1) ds q →
      Sees (.stmt s k) (d :: ds) q

theorem Sees.snoc {p : Prog D W L ε α} {ds : List D} {s : Stmt D W L β} {k : β → Prog D W L ε α}
    (h : Sees p ds (.stmt s k)) (d : D) (busy : L → Bool) :
    Sees p (ds ++ [d]) (k (s.exec d ∅ busy).1) := by
  generalize hq : Prog.stmt s k = q at h
  induction h with
  | nil p =>
    subst hq
    exact .cons d busy (.nil _)
  | cons d' busy' _ ih => exact .cons d' busy' (ih hq)

/-- The program is at its end. -/
def Prog.Ended : Prog D W L ε α → Prop
  | .ret _ | .raise _ => True
  | _ => False

/-- A program that has ended has made its first read. -/
theorem Sees.read [Store D W] {f : D → β} {g : β → Prog D W L ε α} {ds : List D}
    {q : Prog D W L ε α} (h : Sees ((Prog.exec (Stmt.read f)).bind g) ds q) (hq : q.Ended) :
    ∃ d ds', ds = d :: ds' ∧ Sees (g (f d)) ds' q := by
  cases h with
  | nil => exact hq.elim
  | cons d busy h => exact ⟨d, _, rfl, h⟩

/-- The call has read these stores. -/
def Status.Seen (p : Prog D W L ε ρ) (ds : List D) : Status D W L ε ρ → Prop
  | .running q σ => q.Silent ∧ σ = ∅ ∧ Sees p ds q
  | .returned (.ok a) => Sees p ds (.ret a)
  | .returned (.error e) => Sees p ds (.raise e)
  | .aborted => True

section
variable [Store D W] [DecidableEq L] {prog : C → Prog D W L ε ρ} {prog' : C' → Prog D W L ε ρ'}

variable (prog) in
/-- The run commits these stores, among others, one after another. -/
inductive Passes : Config C D W L ε ρ → List D → Config C D W L ε ρ → Prop
  | run {c c'} : Run prog c c' → Passes c [] c'
  | visit {c c' c'' ds} : Run prog c c' → Passes c' ds c'' → Passes c (c'.db :: ds) c''

namespace Passes
variable {c c' c'' : Config C D W L ε ρ} {ds : List D}

theorem trans (h : Passes prog c ds c') (r : Run prog c' c'') : Passes prog c ds c'' := by
  induction h with
  | run r' => exact .run (r'.trans r)
  | visit r' _ ih => exact .visit r' (ih r)

theorem toRun (h : Passes prog c ds c') : Run prog c c' := by
  induction h with
  | run r => exact r
  | visit r _ ih => exact r.trans ih

/-- The store at the end is one of those. -/
theorem snoc (h : Passes prog c ds c') : Passes prog c (ds ++ [c'.db]) c' := by
  induction h with
  | run r => exact .visit r (.run (.refl _))
  | visit r _ ih => exact .visit r ih

/-- The stores are committed on the way. -/
theorem mem (h : Passes prog c ds c') :
    ∀ d ∈ ds, ∃ c₁, Run prog c c₁ ∧ c₁.db = d ∧ Run prog c₁ c' := by
  induction h with
  | run => simp
  | @visit c c₁ c' ds r hp ih =>
    intro d hd
    rcases List.mem_cons.1 hd with rfl | hd
    · exact ⟨c₁, r, rfl, hp.toRun⟩
    · obtain ⟨c₂, r₂, hdb, r'⟩ := ih d hd
      exact ⟨c₂, r.trans r₂, hdb, r'⟩

theorem single (h : Passes prog c ds c') {d : D} (hd : d ∈ ds) : Passes prog c [d] c' := by
  obtain ⟨c₁, r, rfl, r'⟩ := h.mem d hd
  exact .visit r (.run r')

end Passes

variable (prog) in
/-- Call `i` has just arrived, at the store `born`. -/
structure Arrived (c₀ c : Config C D W L ε ρ) (i : ℕ) (call : C) (born : D) : Prop where
  run : Run prog c₀ c
  last : c.threads.length = i + 1
  thread : c.threads[i]? = some ⟨call, born, .running (prog call) ∅⟩
  db : c.db = born

theorem Arrived.of_arrive {c₀ c c' : Config C D W L ε ρ} {call : C} (r : Run prog c₀ c')
    (h : c.act prog (.arrive call) = some c') :
    Arrived prog c₀ c' c.threads.length call c.db := by
  cases h
  exact ⟨r, by simp, by simp, rfl⟩

variable (prog) in
/-- The run has committed the store since call `i` arrived. -/
def Since (c₀ cfg : Config C D W L ε ρ) (i : ℕ) (call : C) (born d : D) : Prop :=
  ∃ c, Arrived prog c₀ c i call born ∧ Passes prog c [d] cfg

namespace Since
variable {c₀ cfg cfg' : Config C D W L ε ρ} {i : ℕ} {call : C} {born d : D}

theorem trans (h : Since prog c₀ cfg i call born d) (r : Run prog cfg cfg') :
    Since prog c₀ cfg' i call born d := by
  obtain ⟨c, h1, h2⟩ := h
  exact ⟨c, h1, h2.trans r⟩

/-- So has a run that goes on with the store at its end. -/
theorem next (h : Since prog c₀ cfg i call born d) (r : Run prog cfg cfg') :
    Since prog c₀ cfg' i call born cfg'.db := by
  obtain ⟨c, h1, h2⟩ := h
  exact ⟨c, h1, .visit (h2.toRun.trans r) (.run (.refl _))⟩

end Since

theorem Arrived.since {c₀ c : Config C D W L ε ρ} {i : ℕ} {call : C} {born : D}
    (h : Arrived prog c₀ c i call born) : Since prog c₀ c i call born c.db :=
  ⟨c, h, .visit (.refl _) (.run (.refl _))⟩

/-- The stores that a run passes are passed without the silent calls. -/
theorem Viewers.erases_passes {V : Viewers prog prog'} {c' c'' : Config C' D W L ε ρ'} {ds : List D}
    (h : Passes prog' c' ds c'') {c : Config C D W L ε ρ} (hc : V.Erased c' c) :
    ∃ c₁, Passes prog c ds c₁ ∧ V.Erased c'' c₁ := by
  induction h generalizing c with
  | run r =>
    obtain ⟨c₁, r₁, h₁⟩ := erases_run hc r
    exact ⟨c₁, .run r₁, h₁⟩
  | visit r _ ih =>
    obtain ⟨c₁, r₁, h₁⟩ := erases_run hc r
    obtain ⟨c₂, hp, h₂⟩ := ih h₁
    exact ⟨c₂, h₁.db ▸ .visit r₁ hp, h₂⟩

/-- One step of a call that has read these stores. -/
theorem Status.Seen.progress {p : Prog D W L ε ρ} {ds : List D} {cfg : Config C D W L ε ρ} {i : ℕ}
    {s s' : Status D W L ε ρ} {d : D} (h : s.Seen p ds) (hp : Progress cfg i s s' d) :
    s'.Seen p ds ∨ s'.Seen p (ds ++ [cfg.db]) := by
  cases hp with
  | ret a σ => exact .inl h.2.2
  | raise e σ => exact .inl h.2.2
  | stmt s k σ hw =>
    obtain ⟨⟨hs, hk⟩, rfl, hsees⟩ := h
    exact .inr ⟨hk _, hs _ _, hsees.snoc _ _⟩
  | commit k σ => exact h.1.elim

/-- **A silent call has read stores that were committed one after another since it arrived.** -/
theorem sees_run {c₀ cfg : Config C D W L ε ρ} (h₀ : c₀.threads = []) (r : Run prog c₀ cfg) {i : ℕ}
    {t : Thread C D W L ε ρ} (ht : cfg.threads[i]? = some t) (hs : (prog t.call).Silent) :
    ∃ c ds, Arrived prog c₀ c i t.call t.born ∧ Passes prog c ds cfg ∧
      t.status.Seen (prog t.call) ds := by
  induction r generalizing i t with
  | refl => simp [h₀] at ht
  | @tail c c' a r _ hact ih =>
    have hlast : Run prog c c' := .tail a (.refl _) trivial hact
    have hother : ∀ {i : ℕ} {t}, c.threads[i]? = some t → (prog t.call).Silent → ∃ c₁ ds,
        Arrived prog c₀ c₁ i t.call t.born ∧ Passes prog c₁ ds c' ∧
          t.status.Seen (prog t.call) ds := by
      intro i t ht hs
      obtain ⟨c₁, ds, h1, h2, h3⟩ := ih ht hs
      exact ⟨c₁, ds, h1, h2.trans hlast, h3⟩
    cases a with
    | arrive call =>
      have hc := hact
      cases hc
      rcases arrive_cases ht with ht | ⟨rfl, rfl⟩
      · exact hother ht hs
      · exact ⟨_, [], .of_arrive (r.trans hlast) hact, .run (.refl _), hs, rfl, .nil _⟩
    | abort j =>
      obtain ⟨u, p, σ, -, -, -, hm⟩ := abort_cases hact
      by_cases hij : j = i
      · subst hij
        rw [hm.get_self] at ht
        cases ht
        obtain ⟨c₁, ds, h1, h2, -⟩ := ih hm.at_i hs
        exact ⟨c₁, ds, h1, h2.trans hlast, trivial⟩
      · exact hother (hm.get_other hij ▸ ht) hs
    | step j =>
      obtain ⟨u, s', d, hp, hm⟩ := step_cases hact
      by_cases hij : j = i
      · subst hij
        rw [hm.get_self] at ht
        cases ht
        obtain ⟨c₁, ds, h1, h2, h3⟩ := ih hm.at_i hs
        rcases h3.progress hp with h | h
        · exact ⟨c₁, ds, h1, h2.trans hlast, h⟩
        · exact ⟨c₁, _, h1, h2.snoc.trans hlast, h⟩
      · exact hother (hm.get_other hij ▸ ht) hs

end

end Txn
