/-
  The phases of a worker.

  A call of `expire_batch` selects its reservations in one statement, expires
  them one after another, commits and answers.  `Worker` says in which phase a
  call is, `Worker.progress` what one step of it does, `Worker.others` that the
  steps of other calls leave it alone: nothing that the worker does between its
  selection and its commit depends on what others commit meanwhile
  (`settled_expireEach`), and it expires all it has selected.
-/
import TicketReservation.Runs
import TicketReservation.Txn.Locking

namespace TicketReservation

open Txn ReservationLifecycleService

/-- The reservations that a call of `expire_batch` may select, with their children. -/
structure Batch (d : Database) (batchSize : ℕ) (now : Instant) (reservationIds : Option (List UUID))
    (ws : List Whole) : Prop where
  length : ws.length ≤ batchSize
  nodup : (ws.map fun w => w.reservation.id).Nodup
  mem : ∀ w ∈ ws, w.In d
  reserved : ∀ w ∈ ws, w.reservation.status = .reserved
  expired : ∀ w ∈ ws, w.reservation.expiresAt < now
  listed : ∀ w ∈ ws, ∀ ids ∈ reservationIds, w.reservation.id ∈ ids

/-- The locks that the selection takes. -/
def selectionLocks (ws : List Whole) : List Lock := ws.map fun w => .reservation w.reservation.id

/-- The session of a worker at its commit. -/
def expiredSession (ws : List Whole) : Session :=
  ⟨ws.flatMap fun w => w.writes .expired, selectionLocks ws ++ ws.flatMap Whole.locks⟩

/-- The status of a call. -/
abbrev CallStatus := Status Database Write Lock Error Response

inductive Phase where
  | arrived
  | selected (ws : List Whole)
  | expired (ws : List Whole)

/-- The reservations that a worker has selected. -/
def Phase.batch : Phase → List Whole
  | arrived => []
  | selected ws => ws
  | expired ws => ws

/-- **The call is a worker in the phase.** -/
inductive Worker (settings : Settings) (d : Database) (batchSize : ℕ) (now : Instant)
    (reservationIds : Option (List UUID)) : Phase → CallStatus → Prop
  | arrived : Worker settings d batchSize now reservationIds .arrived
      (.running ((Call.expireBatch batchSize now reservationIds).prog settings) ∅)
  | idle : Worker settings d batchSize now reservationIds (.selected [])
      (.running (Prog.rollback.bind fun _ => .ret (.count 0)) ∅)
  | busy {ws : List Whole} {p : Tx ℕ} {σ : Session} : ws ≠ [] →
      Batch d batchSize now reservationIds ws → selectionLocks ws <+: σ.locks →
      Settled (fun d => Inv d ∧ ∀ w ∈ ws, w.In d) p σ (.ok ws.length) (expiredSession ws) →
      Worker settings d batchSize now reservationIds (.selected ws)
        (.running (p.bind fun n => .commit (.ret (.count n))) σ)
  | committed {ws : List Whole} : Worker settings d batchSize now reservationIds (.expired ws)
      (.running (.ret (.count ws.length)) ∅)
  | returned {ws : List Whole} : Worker settings d batchSize now reservationIds (.expired ws)
      (.returned (.ok (.count ws.length)))

/-- **What one step of a worker does**, while others hold the locks `busy`. -/
inductive PhaseStep (d : Database) (busy : Lock → Bool) (batchSize : ℕ) (now : Instant)
    (reservationIds : Option (List UUID)) : Phase → Phase → Database → Prop
  | select {ws : List Whole} : Batch d batchSize now reservationIds ws →
      ws.map Whole.reservation = ((d.expiredReservations now reservationIds).filter fun r =>
        !busy (.reservation r.id)).take batchSize →
      PhaseStep d busy batchSize now reservationIds .arrived (.selected ws) d
  | work {ws : List Whole} :
      PhaseStep d busy batchSize now reservationIds (.selected ws) (.selected ws) d
  | commit {ws : List Whole} : Batch d batchSize now reservationIds ws →
      PhaseStep d busy batchSize now reservationIds (.selected ws) (.expired ws)
        (d.finishAll (ws.map fun w => w.reservation.id) .expired)
  | answer {ws : List Whole} :
      PhaseStep d busy batchSize now reservationIds (.expired ws) (.expired ws) d

theorem Batch.nil (d : Database) (batchSize : ℕ) (now : Instant)
    (reservationIds : Option (List UUID)) : Batch d batchSize now reservationIds [] :=
  ⟨Nat.zero_le _, List.nodup_nil, by simp, by simp, by simp, by simp⟩

section
variable {settings : Settings} {d d' : Database} {batchSize : ℕ} {now : Instant}
  {reservationIds : Option (List UUID)} {ws : List Whole}

/-- The rows that are selected are locked, and no others. -/
theorem exists_batch (hi : Inv d) (batchSize : ℕ) (now : Instant)
    (reservationIds : Option (List UUID)) (busy : Lock → Bool) :
    ∃ ws : List Whole, Batch d batchSize now reservationIds ws ∧
      ws.map Whole.reservation = ((d.expiredReservations now reservationIds).filter fun r =>
        !busy (.reservation r.id)).take batchSize ∧
      ((ws.map Whole.reservation).map fun r => Lock.reservation r.id).filter (fun l => !busy l) =
        selectionLocks ws := by
  have hpick := expirable_pick hi batchSize now reservationIds fun r => !busy (.reservation r.id)
  obtain ⟨ws, hws, hin⟩ := hpick.wholes hi
  rw [← hws] at hpick
  refine ⟨ws, ⟨?_, ?_, hin, ?_, ?_, ?_⟩, hws, ?_⟩
  · simpa using hpick.length
  · simpa [Function.comp_def] using hpick.nodup
  · exact fun w hw => (hpick.mem _ (List.mem_map_of_mem hw)).2.1
  · exact fun w hw => (hpick.mem _ (List.mem_map_of_mem hw)).2.2.1
  · exact fun w hw => (hpick.mem _ (List.mem_map_of_mem hw)).2.2.2
  · rw [List.filter_eq_self.2, List.map_map]
    · rfl
    intro l hl
    obtain ⟨x, hx, rfl⟩ := List.mem_map.1 hl
    rw [hws] at hx
    simpa using (List.mem_filter.1 (List.mem_of_mem_take hx)).2

/-- The locks of a worker on reservations are those of its selection. -/
theorem mem_expiredSession {x : UUID} (h : .reservation x ∈ (expiredSession ws).locks) :
    x ∈ ws.map fun w => w.reservation.id := by
  rcases List.mem_append.1 h with h | h
  · simpa [selectionLocks] using h
  · obtain ⟨w, hw, hl⟩ := List.mem_flatMap.1 h
    refine List.mem_map.2 ⟨w, hw, ?_⟩
    rcases List.mem_append.1 hl with hl | hl
    · cases hty : w.reservation.reservationType <;> simp [hty] at hl
    · cases List.mem_singleton.1 hl
      rfl

namespace Worker

/-- Until it commits a worker has the lock of every reservation it has selected, and of no other. -/
theorem locks {ph : Phase} {s : CallStatus}
    (h : Worker settings d batchSize now reservationIds ph s) {x : UUID} :
    .reservation x ∈ s.locks ↔ ∃ ws, ph = .selected ws ∧ x ∈ ws.map fun w => w.reservation.id := by
  cases h with
  | arrived | idle | committed | returned => simp [Status.locks]
  | busy hne hb hl hs =>
    constructor
    · intro hx
      exact ⟨_, rfl, mem_expiredSession (hs.locks.subset hx)⟩
    · rintro ⟨ws, hws, hx⟩
      cases hws
      obtain ⟨w, hw, rfl⟩ := List.mem_map.1 hx
      exact hl.subset (List.mem_map_of_mem hw)

/-- **Others leave a worker alone.** -/
theorem others {ph : Phase} {s : CallStatus} {Λ : List Lock}
    (h : Worker settings d batchSize now reservationIds ph s) (hi : Inv d)
    (hc : Relation.ReflTransGen (protocol.step Λ) d d') (hΛ : Λ.Disjoint s.locks) :
    Worker settings d' batchSize now reservationIds ph s := by
  cases h with
  | arrived => exact .arrived
  | idle => exact .idle
  | committed => exact .committed
  | returned => exact .returned
  | busy hne hb hl hs =>
    refine .busy hne { hb with mem := fun w hw => ?_ } hl hs
    have hkeep : protocol.Keeps _ w.In :=
      Whole.keeps_in (hl.subset (List.mem_map_of_mem hw))
    exact Protocol.chain_induct (P := protocol) (fun h => ⟨Λ, h⟩)
      (fun hi hk hst => hkeep hi hΛ hst hk) hi (hb.mem w hw) hc

/-- **A step of a worker.** -/
theorem progress {ph : Phase} {s s' : CallStatus} {cfg : ServiceConfig} {i : ℕ}
    (h : Worker settings cfg.db batchSize now reservationIds ph s) (hi : Inv cfg.db)
    (hp : Progress cfg i s s' d') : ∃ ph', Worker settings d' batchSize now reservationIds ph' s' ∧
      PhaseStep cfg.db (cfg.busy i) batchSize now reservationIds ph ph' d' := by
  cases h with
  | arrived =>
    obtain ⟨-, rfl, rfl⟩ := Progress.of_stmt hp
    obtain ⟨ws, hb, hws, hl⟩ := exists_batch hi batchSize now reservationIds (cfg.busy i)
    refine ⟨.selected ws, ?_, .select hb hws⟩
    simp only [Stmt.skipLocked, Session.view_empty, Session.empty_writes, Session.empty_locks,
      List.nil_append, ← hws, hl, Prog.bind]
    unfold expireLocked
    split_ifs with h0
    · obtain rfl := List.map_eq_nil_iff.1 h0
      exact .idle
    · have hne : ws ≠ [] := fun h => h0 (by rw [h]; rfl)
      have hs := settled_expireEach (σ := ⟨[], selectionLocks ws⟩)
        (K := fun d => Inv d ∧ ∀ w ∈ ws, w.In d) (fun _ h => h) ⟨_, hi, hb.mem⟩ hb.nodup hb.reserved
      rw [Prog.bind_eq, Prog.bind_assoc]
      exact .busy hne hb List.prefix_rfl hs
  | idle =>
    obtain ⟨-, rfl, rfl⟩ := Progress.of_stmt hp
    exact ⟨.expired [], .committed, .commit (Batch.nil _ _ _ _)⟩
  | busy hne hb hl hs =>
    rcases hs.progress ⟨hi, hb.mem⟩ hp with ⟨rfl, rfl⟩ | ⟨p₁, σ₁, hs₁, hpre, rfl, rfl⟩
    · obtain ⟨rfl, rfl⟩ := Progress.of_commit hp
      rw [expiredSession, view_transitions .expired _ (by simp) hi hb.mem hb.nodup hb.reserved]
      exact ⟨.expired _, .committed, .commit hb⟩
    · exact ⟨.selected _, .busy hne hb (hl.trans hpre) hs₁, .work⟩
  | committed =>
    obtain ⟨rfl, rfl⟩ := Progress.of_ret hp
    exact ⟨.expired _, .returned, .answer⟩
  | returned => cases hp.isRunning

end Worker

/-- **Every call of `expire_batch` is a worker**, unless it was aborted, in a phase that
    satisfies what all steps of a worker keep. -/
theorem worker_run_where {d₀ : Database} {cfg : ServiceConfig} {ok} {P : Phase → Prop} (h : Inv d₀)
    (harrived : P .arrived) (hstep : ∀ {d d' busy ph ph'}, Inv d →
      PhaseStep d busy batchSize now reservationIds ph ph' d' → P ph → P ph')
    (r : Run.Where (Call.prog settings) ok (start d₀) cfg) {i : ℕ} {t}
    (ht : cfg.threads[i]? = some t) (hc : t.call = .expireBatch batchSize now reservationIds) :
    t.status = .aborted ∨
      ∃ ph, Worker settings cfg.db batchSize now reservationIds ph t.status ∧ P ph := by
  refine System.threads_run (S := system settings) (A := fun c _ t =>
    t.call = .expireBatch batchSize now reservationIds → t.status = .aborted ∨
      ∃ ph, Worker settings c.db batchSize now reservationIds ph t.status ∧ P ph)
    ?_ ?_ ?_ ?_ h r i t ht hc
  · intro c c' call _ _ hact hc
    cases hact
    subst hc
    exact Or.inr ⟨.arrived, .arrived, harrived⟩
  · exact fun _ _ _ => Or.inl rfl
  · intro c c' i t s' ⟨l, hl⟩ _ hp hA hc
    rcases hA hc with hA | ⟨ph, hw, hP⟩
    · rw [hA] at hp; cases hp.isRunning
    · obtain ⟨ph', hw', hst⟩ := hw.progress hl.inv hp
      exact Or.inr ⟨ph', hw', hstep hl.inv hst hP⟩
  · intro c c' a i t Λ ⟨l, hl⟩ _ _ _ hst hΛ hA hc
    exact (hA hc).imp id fun ⟨ph, hw, hP⟩ => ⟨ph, hw.others hl.inv hst hΛ, hP⟩

/-- Every call of `expire_batch` is a worker, unless it was aborted. -/
theorem worker_run {d₀ : Database} {cfg : ServiceConfig} {ok} (h : Inv d₀)
    (r : Run.Where (Call.prog settings) ok (start d₀) cfg) {i : ℕ} {t}
    (ht : cfg.threads[i]? = some t) (hc : t.call = .expireBatch batchSize now reservationIds) :
    t.status = .aborted ∨ ∃ ph, Worker settings cfg.db batchSize now reservationIds ph t.status :=
  (worker_run_where (P := fun _ => True) h trivial (fun _ _ _ => trivial) r ht hc).imp_right
    fun ⟨ph, hw, _⟩ => ⟨ph, hw⟩

end

end TicketReservation
