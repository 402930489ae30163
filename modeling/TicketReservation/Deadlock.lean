/-
  Workers that wait for each other.

  A worker locks the ticket types of its reservations one after another, in the
  order in which it expires the reservations.  Two workers whose batches visit
  two ticket types in opposite orders can therefore wait for each other
  (`workers_deadlocked`).

  * `workers_not_deadlocked`: they cannot, as long as the batches in progress
    visit the ticket types in one common order (`Uncrossed`).
-/
import TicketReservation.Workers

namespace TicketReservation

open Txn

/-- The ticket type whose row is locked. -/
def Lock.ticketTypeId? : Lock → Option UUID
  | .ticketType t => some t
  | _ => none

/-- The lock of a row of `ticket_types`. -/
def Lock.OnTicketType (l : Lock) : Prop := ∃ t, l = .ticketType t

/-- The reservations that a worker with these locks is to expire, in its order. -/
def Call.selection (d : Database) (locks : List Lock) : Call → List Reservation
  | .expireBatch _ now reservationIds =>
    (d.expiredReservations now reservationIds).filter fun r => .reservation r.id ∈ locks
  | _ => []

/-- The ticket types whose rows the transitions of these reservations update, in order. -/
def Database.visits (d : Database) (rs : List Reservation) : List UUID :=
  rs.flatMap fun r => match r.reservationType with
    | .quantity => (orderBy ReservationItem.ticketTypeId ReservationItem.id (d.itemsOf r.id)).map
        ReservationItem.ticketTypeId
    | .seats => []

/-- Whenever a new ticket type is visited, it ranks above those visited before. -/
def Ascending (rank : UUID → ℕ) (ts : List UUID) : Prop :=
  ∀ us t vs, ts = us ++ t :: vs → t ∉ us → ∀ u ∈ us, rank u < rank t

/-- **The batches in progress visit the ticket types in one common order.**  This excludes also
    batches that cannot wait for each other since they visit a common ticket type first. -/
def Uncrossed (cfg : ServiceConfig) : Prop :=
  ∃ rank, ∀ t ∈ cfg.threads,
    Ascending rank (cfg.db.visits (t.call.selection cfg.db t.status.locks))

/-- `r` comes before `r'` in a batch. -/
def Reservation.Before (r r' : Reservation) : Prop :=
  r.expiresAt < r'.expiresAt ∨ r.expiresAt = r'.expiresAt ∧ r.id < r'.id

/-- The batch is in the order `(expires_at, id)`. -/
def Phase.Sorted (ph : Phase) : Prop := (ph.batch.map Whole.reservation).Pairwise Reservation.Before

theorem ascending_of_pairwise {rank : UUID → ℕ} {ts : List UUID}
    (h : ts.Pairwise fun u t => rank u < rank t) : Ascending rank ts := by
  rintro us t vs rfl - u hu
  exact (List.pairwise_append.1 h).2.2 u hu t List.mem_cons_self

theorem Reservation.Before.asymm {r r' : Reservation} (h : r.Before r') : ¬ r'.Before r := by
  rcases h with h | ⟨h, h'⟩ <;> rintro (g | ⟨g, g'⟩)
  · exact lt_asymm h g
  · exact h.ne g.symm
  · exact g.ne h.symm
  · exact lt_asymm h' g'

/-- The wanted ticket type ranks above those that are locked. -/
theorem Ascending.lt {rank : UUID → ℕ} {Λ₀ Λ Λ' : List Lock} {t u : UUID}
    (h : Ascending rank (Λ'.filterMap Lock.ticketTypeId?)) (hp : Λ₀ ++ Λ <+: Λ')
    (ht : .ticketType t ∈ Λ) (hn : .ticketType t ∉ Λ₀) (hu : .ticketType u ∈ Λ₀) :
    rank u < rank t := by
  have hmem : ∀ {Λ : List Lock} {x}, x ∈ Λ.filterMap Lock.ticketTypeId? ↔ .ticketType x ∈ Λ := by
    intro Λ x
    rw [List.mem_filterMap]
    constructor
    · rintro ⟨l, hl, hx⟩
      cases l <;> cases hx
      exact hl
    · exact fun hl => ⟨_, hl, rfl⟩
  obtain ⟨Λ₁, rfl⟩ := hp
  obtain ⟨us, vs, hsplit, hus⟩ := List.eq_append_cons_of_mem (hmem.2 ht)
  refine h (Λ₀.filterMap Lock.ticketTypeId? ++ us) t (vs ++ Λ₁.filterMap Lock.ticketTypeId?) ?_ ?_ u
    (List.mem_append_left _ (hmem.2 hu))
  · rw [List.filterMap_append, List.filterMap_append, hsplit]
    simp
  · rw [List.mem_append, hmem]
    exact not_or.2 ⟨hn, hus⟩

section
variable {settings : Settings} {d d' : Database} {batchSize : ℕ} {now : Instant}
  {reservationIds : Option (List UUID)} {ws : List Whole}

theorem expiredReservations_sorted (h : Schema d) (now : Instant)
    (reservationIds : Option (List UUID)) :
    (d.expiredReservations now reservationIds).Pairwise Reservation.Before :=
  orderBy_strict (h.reservationIds.sublist (List.filter_sublist.map _))

theorem PhaseStep.sorted {busy : Lock → Bool} {ph ph' : Phase} (hi : Inv d)
    (h : PhaseStep d busy batchSize now reservationIds ph ph' d') (hs : ph.Sorted) :
    ph'.Sorted := by
  cases h with
  | select hb hws =>
    rw [Phase.Sorted, Phase.batch, hws]
    exact (expiredReservations_sorted hi.toSchema now reservationIds).sublist
      ((List.take_sublist _ _).trans List.filter_sublist)
  | work | commit | answer => exact hs

/-- The ticket types that a batch visits are those that its session locks. -/
theorem visits_batch (hw : ∀ w ∈ ws, w.In d) : d.visits (ws.map Whole.reservation) =
    (expiredSession ws).locks.filterMap Lock.ticketTypeId? := by
  have hnone : (selectionLocks ws).filterMap Lock.ticketTypeId? = [] := by
    simp [selectionLocks, List.filterMap_map, Function.comp_def, Lock.ticketTypeId?]
  rw [expiredSession, List.filterMap_append, hnone, List.nil_append, List.filterMap_flatMap,
    Database.visits, List.flatMap_map]
  refine List.flatMap_congr fun w hmem => ?_
  rw [(hw w hmem).items, Whole.locks, List.filterMap_append]
  cases w.reservation.reservationType with
  | quantity =>
    simp [List.filterMap_flatMap, List.filterMap_cons, Lock.ticketTypeId?, List.map_eq_flatMap]
  | seats => simp [List.filterMap_map, Function.comp_def, Lock.ticketTypeId?]

namespace Worker

/-- The selection of a worker is its batch. -/
theorem selection {s : CallStatus} (hi : Inv d)
    (h : Worker settings d batchSize now reservationIds (.selected ws) s)
    (hs : (Phase.selected ws).Sorted) :
    (Call.expireBatch batchSize now reservationIds).selection d s.locks =
      ws.map Whole.reservation := by
  have hmem : ∀ r ∈ d.reservations, .reservation r.id ∈ s.locks ↔ r ∈ ws.map Whole.reservation := by
    intro r hr
    rw [h.locks]
    constructor
    · rintro ⟨ws', hws, hx⟩
      cases hws
      obtain ⟨w, hw, hx⟩ := List.mem_map.1 hx
      refine List.mem_map.2 ⟨w, hw, ?_⟩
      cases h with
      | idle => cases hw
      | busy hne hb => exact Table.eq_of_key hi.reservationIds (hb.mem w hw).mem hr hx
    · intro hx
      obtain ⟨w, hw, rfl⟩ := List.mem_map.1 hx
      exact ⟨ws, rfl, List.mem_map.2 ⟨w, hw, rfl⟩⟩
  have hsorted := expiredReservations_sorted hi.toSchema now reservationIds
  have hnodup : ∀ {rs : List Reservation}, rs.Pairwise Reservation.Before → rs.Nodup :=
    fun hrs => hrs.imp fun hb heq => by subst heq; exact hb.asymm hb
  -- both are sorted and have the same members
  refine List.Perm.eq_of_pairwise (fun a b _ _ hab hba => absurd hba hab.asymm)
    (hsorted.sublist List.filter_sublist) hs ((List.perm_ext_iff_of_nodup
      ((hnodup hsorted).sublist List.filter_sublist) (hnodup hs)).2 fun r => ?_)
  rw [List.mem_filter, decide_eq_true_eq]
  constructor
  · rintro ⟨hr, hl⟩
    rw [Database.expiredReservations, mem_orderBy, List.mem_filter] at hr
    exact (hmem r hr.1).1 hl
  · intro hr
    obtain ⟨w, hw, hwr⟩ := List.mem_map.1 hr
    cases h with
    | idle => cases hr
    | busy hne hb =>
      have hin : r ∈ d.reservations := hwr ▸ (hb.mem w hw).mem
      refine ⟨?_, (hmem r hin).2 hr⟩
      subst hwr
      rw [Database.expiredReservations, mem_orderBy, List.mem_filter]
      refine ⟨hin, ?_⟩
      simp only [Bool.and_eq_true, decide_eq_true_eq, Option.all_eq_true]
      exact ⟨⟨hb.reserved w hw, hb.expired w hw⟩, fun ids hids => hb.listed w hw ids hids⟩

/-- A worker that has locked a ticket type is at work on its batch. -/
theorem of_ticketType {ph : Phase} {s : CallStatus} {u : UUID}
    (h : Worker settings d batchSize now reservationIds ph s) (hu : .ticketType u ∈ s.locks) :
    ∃ ws, ph = .selected ws ∧ Batch d batchSize now reservationIds ws ∧
      ∃ p σ, s = .running (p.bind fun n => .commit (.ret (.count n))) σ ∧
        Settled (fun d => Inv d ∧ ∀ w ∈ ws, w.In d) p σ (.ok ws.length) (expiredSession ws) := by
  cases h with
  | arrived | idle | committed | returned => simp [Status.locks] at hu
  | busy hne hb hl hs => exact ⟨_, rfl, hb, _, _, rfl, hs⟩

/-- The selection locks no ticket type. -/
theorem no_ticketType_selected {s s' : CallStatus} {cfg : ServiceConfig} {i : ℕ} {u : UUID}
    (h : Worker settings cfg.db batchSize now reservationIds .arrived s)
    (hp : Progress cfg i s s' d') : .ticketType u ∉ s'.locks := by
  cases h with
  | arrived =>
    obtain ⟨-, rfl, -⟩ := Progress.of_stmt hp
    intro hu
    rcases List.mem_append.1 hu with hu | hu
    · cases hu
    · obtain ⟨r, -, hr⟩ := List.mem_map.1 (List.mem_filter.1 hu).1
      cases hr

/-- What a worker visits are the ticket types that it will have locked at its commit. -/
theorem visits {s : CallStatus} (hi : Inv d)
    (h : Worker settings d batchSize now reservationIds (.selected ws) s)
    (hs : (Phase.selected ws).Sorted) :
    d.visits ((Call.expireBatch batchSize now reservationIds).selection d s.locks) =
      (expiredSession ws).locks.filterMap Lock.ticketTypeId? := by
  rw [h.selection hi hs]
  refine visits_batch fun w hw => ?_
  cases h with
  | idle => cases hw
  | busy hne hb => exact hb.mem w hw

/-- **A worker wants ticket types that rank above those it has locked.** -/
theorem wants_lt {rank : UUID → ℕ} {ph : Phase} {s : CallStatus} {t u : UUID} (hi : Inv d)
    (h : Worker settings d batchSize now reservationIds ph s) (hs : ph.Sorted)
    (hr : Ascending rank (d.visits ((Call.expireBatch batchSize now reservationIds).selection d
      s.locks))) (ht : .ticketType t ∈ s.wants d) (hn : .ticketType t ∉ s.locks)
    (hu : .ticketType u ∈ s.locks) : rank u < rank t := by
  obtain ⟨ws, rfl, hb, p, σ, rfl, hset⟩ := h.of_ticketType hu
  rw [h.visits hi hs] at hr
  rcases hset.wants (f := fun n => .commit (.ret (Response.count n))) ⟨hi, hb.mem⟩ with
    ⟨rfl, -⟩ | ⟨Λ, hsub, hpre⟩
  · cases ht
  · exact hr.lt hpre ((List.mem_append.1 (hsub ht)).resolve_left hn) hn hu

end Worker

/-- A call that has locked a ticket type visits in ascending order. -/
def Ranked (rank : UUID → ℕ) (d : Database) (t : Thread Call Database Write Lock Error Response) :
    Prop :=
  (∃ u, .ticketType u ∈ t.status.locks) →
    Ascending rank (d.visits (t.call.selection d t.status.locks))

/-- Every worker of a run works through its batch in order. -/
theorem sorted_worker {ok} {cfg : ServiceConfig} (h : Inv d)
    (r : Run.Where (Call.prog settings) ok (start d) cfg) {i : ℕ} {t}
    (ht : cfg.threads[i]? = some t) (hc : t.call = .expireBatch batchSize now reservationIds) :
    t.status = .aborted ∨ ∃ ph,
      Worker settings cfg.db batchSize now reservationIds ph t.status ∧ ph.Sorted :=
  worker_run_where (P := Phase.Sorted) h List.Pairwise.nil (fun hi hst hs => hst.sorted hi hs) r ht hc

section
variable {ok : ServiceConfig → Action Call → Prop} {cfg cfg' : ServiceConfig} {rank : UUID → ℕ}
  {i j : ℕ} {t : Thread Call Database Write Lock Error Response}

/-- The worker that moves: one with a ticket type has selected its batch before. -/
theorem ranked_self {s' : CallStatus} (h : Inv d)
    (r : Run.Where (Call.prog settings) ok (start d) cfg)
    (hrank : ∀ t ∈ cfg.threads,
      Ascending rank (cfg.db.visits (t.call.selection cfg.db t.status.locks)))
    (hm : Moves cfg cfg' i t s' cfg'.db) (hp : Progress cfg i t.status s' cfg'.db)
    (hc : t.call = .expireBatch batchSize now reservationIds) :
    Ranked rank cfg'.db { t with status := s' } := by
  have hinv : Inv cfg.db := ServiceRun.inv h r
  rintro ⟨u, hlock⟩
  rcases sorted_worker h r hm.at_i hc with ha | ⟨ph, hw, hs⟩
  · rw [ha] at hp
    cases hp.isRunning
  obtain ⟨ph', hw', hst⟩ := hw.progress hinv hp
  obtain ⟨ws, rfl, -⟩ := hw'.of_ticketType hlock
  generalize hdb : cfg'.db = db' at hw' hst ⊢
  cases hst with
  | select => exact absurd hlock (hw.no_ticketType_selected hp)
  | work =>
    have := hrank t (List.mem_of_getElem? hm.at_i)
    rw [hc] at this ⊢
    rwa [hw.visits hinv hs, ← hw'.visits hinv hs] at this

/-- The other workers keep their batches. -/
theorem ranked_other (h : Inv d) (r : Run.Where (Call.prog settings) ok (start d) cfg)
    (hrank : ∀ t ∈ cfg.threads,
      Ascending rank (cfg.db.visits (t.call.selection cfg.db t.status.locks)))
    (hact : cfg.act (Call.prog settings) (.step i) = some cfg')
    (hij : i ≠ j) (hj : cfg.threads[j]? = some t)
    (hc : t.call = .expireBatch batchSize now reservationIds) : Ranked rank cfg'.db t := by
  have hinv : Inv cfg.db := ServiceRun.inv h r
  obtain ⟨l, hl⟩ := System.tracks_run (S := system settings) h r
  rintro ⟨u, hlock⟩
  rcases sorted_worker h r hj hc with ha | ⟨ph, hw, hs⟩
  · rw [ha] at hlock
    cases hlock
  obtain ⟨ws, rfl, -⟩ := hw.of_ticketType hlock
  have hothers : Inv cfg'.db ∧
      Worker settings cfg'.db batchSize now reservationIds (.selected ws) t.status := by
    rcases hl.commit hact with heq | ⟨ti, -, hti, -, hsteps⟩
    · rw [heq]
      exact ⟨hinv, hw⟩
    · refine ⟨(Protocol.Leads.of_steps hsteps).inv hinv, hw.others hinv hsteps ?_⟩
      exact hl.locks i j ti t hij hti hj
  have := hrank t (List.mem_of_getElem? hj)
  rw [hc] at this ⊢
  rwa [hw.visits hinv hs, ← hothers.2.visits hothers.1 hs] at this

end

/-- **After an action from uncrossed batches the calls that have locked a ticket type visit in
    ascending order.** -/
theorem ranked_act {ok} {cfg cfg' : ServiceConfig} {a : Action Call} (h : Inv d)
    (r : Run.Where (Call.prog settings) ok (start d) cfg) (hu : Uncrossed cfg)
    (hact : cfg.act (Call.prog settings) a = some cfg') :
    ∃ rank, ∀ t ∈ cfg'.threads, Ranked rank cfg'.db t := by
  obtain ⟨rank, hrank⟩ := hu
  refine ⟨rank, fun t ht => ?_⟩
  obtain ⟨j, hj⟩ := List.getElem?_of_mem ht
  cases a with
  | arrive c =>
    cases hact
    rcases List.mem_append.1 ht with ht | ht
    · exact fun _ => hrank t ht
    · obtain rfl := List.mem_singleton.1 ht
      rintro ⟨u, hlock⟩
      cases hlock
  | abort i =>
    obtain ⟨ti, p, σ, -, -, -, hm⟩ := abort_cases hact
    rw [hm.db]
    by_cases hij : i = j
    · subst hij
      rw [hm.get_self] at hj
      cases hj
      rintro ⟨u, hlock⟩
      cases hlock
    · rw [hm.get_other hij] at hj
      exact fun _ => hrank t (List.mem_of_getElem? hj)
  | step i =>
    obtain ⟨ti, s', d', hp, hm⟩ := step_cases hact
    obtain rfl := hm.db
    rcases hc : t.call with _ | _ | _ | _ | _ | ⟨batchSize, now, reservationIds⟩
    case expireBatch =>
      by_cases hij : i = j
      · subst hij
        rw [hm.get_self] at hj
        cases hj
        exact ranked_self h r hrank hm hp hc
      · rw [hm.get_other hij] at hj
        exact ranked_other h r hrank hact hij hj hc
    all_goals
      rintro - us x vs hsplit
      simp [hc, Call.selection, Database.visits] at hsplit

/-- **Workers whose batches do not cross do not deadlock.** -/
theorem workers_not_deadlocked {cfg : ServiceConfig} {workers : Set ℕ} (h : Reachable settings d)
    (r : Run.Where (Call.prog settings) (fun cfg _ => Uncrossed cfg) (start d) cfg)
    (hw : ∀ i ∈ workers, ∀ t, cfg.threads[i]? = some t →
      ∃ batchSize now reservationIds, t.call = .expireBatch batchSize now reservationIds) :
    ¬ Deadlocked Lock.OnTicketType cfg workers := by
  have hinv : Inv cfg.db := ServiceRun.inv h.inv r
  obtain ⟨l, hl⟩ := System.tracks_run (S := system settings) h.inv r
  have hranked : ∃ rank, ∀ t ∈ cfg.threads, Ranked rank cfg.db t := by
    cases r with
    | refl => exact ⟨fun _ => 0, by simp⟩
    | tail a r' hu hact => exact ranked_act h.inv r' hu hact
  obtain ⟨rank, hrank⟩ := hranked
  refine not_deadlocked (fun l => (l.ticketTypeId?.map rank).getD 0) ?_
  rintro i hi t ht _ hwant ⟨x, rfl⟩ ⟨j, hj, hwait⟩ _ hlock ⟨u, rfl⟩
  obtain ⟨batchSize, now, reservationIds, hc⟩ := hw i hi t ht
  rcases sorted_worker h.inv r ht hc with ha | ⟨ph, hwk, hs⟩
  · rw [ha] at hlock; cases hlock
  obtain ⟨tj, htj, hheld⟩ := hwait.holds
  have hfree : .ticketType x ∉ t.status.locks := fun hx =>
    hl.locks i j t tj hwait.ne ht htj hx hheld
  have hr := hrank t (List.mem_of_getElem? ht) ⟨u, hlock⟩
  rw [hc] at hr
  exact hwk.wants_lt hinv hs hr hwant hfree hlock

end

/-! ## A deadlock -/

namespace Sample

/-- The event 10 with tickets of the types 20 and 21. -/
def twoTypes : Database := ((EventService.createTicketType 10 "Balcony" 5 21).alone inventory).2

theorem twoTypes_inventory : Inventory twoTypes := .createTicketType _ _ _ _ inventory_inventory

def oneTicket (ticketTypeId : UUID) (key : String) (h : 1 ≤ key.length ∧ key.length ≤ 255) :
    QuantityReservationCreate := ⟨10, ticketTypeId, 1, key, by decide, h⟩

/-- Four reservations, which expire one after another: of the types 20, 21, 21 and 20. -/
def fourHeld : Database :=
  ((start twoTypes).after (Call.prog settings)
    (alone 0 6 (.reserveQuantity alice (oneTicket 20 "a" (by decide)) (uuid4 100) 5) ++
      alone 1 6 (.reserveQuantity alice (oneTicket 21 "b" (by decide)) (uuid4 200) 6) ++
      alone 2 6 (.reserveQuantity bob (oneTicket 21 "a" (by decide)) (uuid4 300) 7) ++
      alone 3 6 (.reserveQuantity bob (oneTicket 20 "b" (by decide)) (uuid4 400) 8))).db

theorem fourHeld_reachable : Reachable settings fourHeld :=
  .of_run twoTypes_inventory (run_after (by decide))

/-- Two workers that select two reservations each and have expired the first one. -/
def crosses : List (Action Call) :=
  [.arrive (.expireBatch 2 900000009 none), .arrive (.expireBatch 2 900000009 none),
    .step 0, .step 1] ++ (List.replicate 7 (.step 0) ++ List.replicate 7 (.step 1))

end Sample

/-- **Two workers wait for each other.** -/
theorem workers_deadlocked : Reachable Sample.settings Sample.fourHeld ∧
    ServiceRun Sample.settings (start Sample.fourHeld)
      ((start Sample.fourHeld).after (Call.prog Sample.settings) Sample.crosses) ∧
    ((start Sample.fourHeld).after (Call.prog Sample.settings) Sample.crosses).threads.map
      Thread.call = [.expireBatch 2 900000009 none, .expireBatch 2 900000009 none] ∧
    Deadlocked Lock.OnTicketType
      ((start Sample.fourHeld).after (Call.prog Sample.settings) Sample.crosses) {0, 1} := by
  refine ⟨Sample.fourHeld_reachable, run_after (by decide), rfl, ⟨0, Set.mem_insert _ _⟩, ?_⟩
  rintro i (rfl | rfl)
  · exact ⟨.ticketType 21, ⟨_, rfl⟩, 1, by simp, by decide⟩
  · exact ⟨.ticketType 20, ⟨_, rfl⟩, 0, by simp, by decide⟩

/-- The first worker has locked both ticket types, the second waits for one of them. -/
def Sample.follows : List (Action Call) :=
  [.arrive (.expireBatch 2 900000009 none), .arrive (.expireBatch 1 900000009 none),
    .step 0, .step 1] ++ (List.replicate 8 (.step 0) ++ List.replicate 2 (.step 1))

theorem workers_not_deadlocked_follows : ¬ Deadlocked Lock.OnTicketType
    ((start Sample.fourHeld).after (Call.prog Sample.settings) Sample.follows) {0, 1} := by
  have r : Run.Where (Call.prog Sample.settings) (fun cfg _ => ∀ t ∈ cfg.threads,
      (cfg.db.visits (t.call.selection cfg.db t.status.locks)).Pairwise (· < ·))
      (start Sample.fourHeld)
      ((start Sample.fourHeld).after (Call.prog Sample.settings) Sample.follows) :=
    Config.Meets.run (by decide) (by decide)
  refine workers_not_deadlocked Sample.fourHeld_reachable
    (r.mono fun cfg _ h => ⟨id, fun t ht => ascending_of_pairwise (h t ht)⟩) ?_
  intro i hi t ht
  have hcalls : ((start Sample.fourHeld).after (Call.prog Sample.settings)
      Sample.follows).threads.map Thread.call =
        [.expireBatch 2 900000009 none, .expireBatch 1 900000009 none] := rfl
  have hmem := List.mem_map_of_mem (f := Thread.call) (List.mem_of_getElem? ht)
  rw [hcalls, List.mem_cons, List.mem_singleton] at hmem
  rcases hmem with hc | hc <;> exact ⟨_, _, _, hc⟩

end TicketReservation
