/-
  Workers share the work.

  Several calls of `expire_batch` with the same clock reading run together and
  all of them finish.  `SharedExactly` says what they achieve: each expires
  what it counts, no reservation is expired twice, and together they expire
  every stale reservation or as many as their batch sizes allow.  The invariant
  (`Sharing`) is about the phases of the workers: their batches are disjoint,
  the database is what the committed batches leave, and once a worker has
  selected fewer than it wanted, every stale reservation is in some batch.
-/
import TicketReservation.Workers
import TicketReservation.Commute
import TicketReservation.Starvation
import TicketReservation.Txn.History
import Mathlib.Algebra.Order.BigOperators.Group.List

namespace TicketReservation

open Txn

/-! ## What steps expire -/

/-- The reservations that go from RESERVED to EXPIRED between two databases. -/
def Database.expiredSince (d d' : Database) : List UUID :=
  (d.reservations.filter fun r => r.status = .reserved &&
    d'.reservations.any fun r' => r'.id = r.id && r'.status = .expired).map Reservation.id

/-- The reservations that the steps of call `i` expire. -/
def expiredBy (steps : List (StepRecord Database)) (i : ℕ) : List UUID :=
  (steps.filter fun s => s.call = i).flatMap fun s => s.pre.expiredSince s.post

/-- The stale reservations. -/
def Database.stale (d : Database) (now : Instant) : List UUID :=
  (d.reservations.filter fun r => r.Stale now).map Reservation.id

section
variable {d d' : Database} {xs : List UUID} {x : UUID} {now : Instant}

theorem mem_expiredSince : x ∈ d.expiredSince d' ↔ ∃ r ∈ d.reservations, r.id = x ∧
    r.status = .reserved ∧ ∃ r' ∈ d'.reservations, r'.id = x ∧ r'.status = .expired := by
  simp only [Database.expiredSince, List.mem_map, List.mem_filter, Bool.and_eq_true,
    decide_eq_true_eq, List.any_eq_true]
  constructor
  · rintro ⟨r, ⟨hr, hs, r', hr', hid, hs'⟩, rfl⟩
    exact ⟨r, hr, rfl, hs, r', hr', hid, hs'⟩
  · rintro ⟨r, hr, rfl, hs, r', hr', hid, hs'⟩
    exact ⟨r, ⟨hr, hs, r', hr', hid, hs'⟩, rfl⟩

theorem nodup_expiredSince (hd : Inv d) (d' : Database) : (d.expiredSince d').Nodup :=
  hd.reservationIds.sublist (List.filter_sublist.map _)

theorem expiredBy_snoc (steps : List (StepRecord Database)) (d d' : Database) (i j : ℕ) :
    expiredBy (steps ++ [⟨i, d, d'⟩]) j =
      expiredBy steps j ++ if i = j then d.expiredSince d' else [] := by
  unfold expiredBy
  rw [List.filter_append, List.flatMap_append]
  by_cases hij : i = j <;> simp [hij]

theorem mem_stale : x ∈ d.stale now ↔ ∃ r ∈ d.reservations, r.id = x ∧ r.Stale now := by
  simp only [Database.stale, List.mem_map, List.mem_filter, decide_eq_true_eq]
  constructor
  · rintro ⟨r, ⟨hr, hs⟩, rfl⟩
    exact ⟨r, hr, rfl, hs⟩
  · rintro ⟨r, hr, rfl, hs⟩
    exact ⟨r, ⟨hr, hs⟩, rfl⟩

theorem nodup_stale (hd : Inv d) (now : Instant) : (d.stale now).Nodup :=
  hd.reservationIds.sublist (List.filter_sublist.map _)

theorem Database.finishAll_append (d : Database) (xs ys : List UUID) (s : ReservationStatus) :
    d.finishAll (xs ++ ys) s = (d.finishAll xs s).finishAll ys s :=
  List.foldl_append

/-- Those that a batch leaves RESERVED. -/
theorem reserved_finishAll {r : Reservation} :
    r ∈ (d.finishAll xs .expired).reservations ∧ r.status = .reserved ↔
      r ∈ d.reservations ∧ r.status = .reserved ∧ r.id ∉ xs := by
  rw [Database.finishAll_reservations, List.mem_map]
  constructor
  · rintro ⟨⟨r', hr', rfl⟩, hs⟩
    split_ifs at hs ⊢ with h
    exact ⟨hr', hs, h⟩
  · rintro ⟨hr, hs, h⟩
    exact ⟨⟨r, hr, if_neg h⟩, hs⟩

/-- A batch expires its reservations. -/
theorem mem_expiredSince_finishAll (hd : Inv d)
    (h : ∀ x ∈ xs, ∃ r ∈ d.reservations, r.id = x ∧ r.status = .reserved) :
    x ∈ d.expiredSince (d.finishAll xs .expired) ↔ x ∈ xs := by
  rw [mem_expiredSince]
  constructor
  · rintro ⟨r, hr, rfl, hs, r', hr', hid, hs'⟩
    by_contra hx
    have hmem := reserved_finishAll.2 ⟨hr, hs, hx⟩
    rw [Database.finishAll_reservations] at hmem hr'
    have hn := Table.nodup_map_key (g := fun r => if r.id ∈ xs then { r with status := .expired }
      else r) (by intro r; split_ifs <;> rfl) hd.reservationIds
    obtain rfl := Table.eq_of_key hn hr' hmem.1 hid
    rw [hs] at hs'
    cases hs'
  · intro hx
    obtain ⟨r, hr, rfl, hs⟩ := h x hx
    refine ⟨r, hr, rfl, hs, { r with status := .expired }, ?_, rfl, rfl⟩
    rw [Database.finishAll_reservations]
    exact List.mem_map.2 ⟨r, hr, if_pos hx⟩

/-- A batch of stale reservations expires just these. -/
theorem expiredSince_finishAll (hd : Inv d) (hxs : xs.Nodup) (h : xs ⊆ d.stale now) :
    (d.expiredSince (d.finishAll xs .expired)).Perm xs := by
  refine (List.perm_ext_iff_of_nodup (nodup_expiredSince hd _) hxs).2 fun x => ?_
  refine mem_expiredSince_finishAll hd fun x hx => ?_
  obtain ⟨r, hr, hid, hst⟩ := mem_stale.1 (h hx)
  exact ⟨r, hr, hid, hst.1⟩

/-- **A batch gives back what its reservations hold.** -/
theorem ticketTypes_finishAll (d : Database) (xs : List UUID) :
    (d.finishAll xs .expired).ticketTypes =
      d.ticketTypes.map fun t => t.add (-(xs.map fun x => d.held x t.id).sum) 0 := by
  induction xs generalizing d with
  | nil => simp [Database.finishAll]
  | cons x xs ih =>
    show ((d.finish x .expired).finishAll xs .expired).ticketTypes = _
    rw [ih]
    show (d.ticketTypes.map _).map _ = _
    simp only [Database.held_finish, List.map_map]
    refine List.map_congr_left fun t _ => ?_
    simp [TicketType.add]
    omega

end

/-! ## The workers of a run -/

/-- The ids of the reservations of a batch. -/
def batchIds (ws : List Whole) : List UUID := ws.map fun w => w.reservation.id

/-- The reservations that a worker has expired. -/
def Phase.done : Phase → List UUID
  | .expired ws => batchIds ws
  | _ => []

/-- **Workers at work**: `ph i` is the phase of call `i`. -/
structure Sharing (settings : Settings) (d₀ : Database) (now : Instant) (cfg : ServiceConfig)
    (steps : List (StepRecord Database)) (ph : ℕ → Phase) : Prop where
  worker : ∀ i t, cfg.threads[i]? = some t → ∃ batchSize,
    t.call = .expireBatch batchSize now none ∧
    Worker settings cfg.db batchSize now none (ph i) t.status ∧
    (ph i ≠ .arrived → (ph i).batch.length ≤ batchSize ∧ ((ph i).batch.length = batchSize ∨
      ∀ x ∈ d₀.stale now, ∃ j, x ∈ batchIds (ph j).batch))
  later : ∀ i, cfg.threads.length ≤ i → ph i = .arrived
  nodup : ∀ i, (batchIds (ph i).batch).Nodup
  disjoint : ∀ i j, i ≠ j → (batchIds (ph i).batch).Disjoint (batchIds (ph j).batch)
  stale : ∀ i, batchIds (ph i).batch ⊆ d₀.stale now
  db : ∃ xs : List UUID, cfg.db = d₀.finishAll xs .expired ∧ xs.Nodup ∧
    ∀ x, x ∈ xs ↔ ∃ i, x ∈ (ph i).done
  expired : ∀ i, (expiredBy steps i).Perm (ph i).done

section
variable {settings : Settings} {d₀ : Database} {now : Instant} {cfg cfg' : ServiceConfig}
  {steps : List (StepRecord Database)} {ph : ℕ → Phase}

theorem Phase.done_sublist (p : Phase) : p.done.Sublist (batchIds p.batch) := by
  cases p with
  | arrived | selected => exact List.nil_sublist _
  | expired ws => exact List.Sublist.refl _

theorem Phase.done_subset (p : Phase) : p.done ⊆ batchIds p.batch := p.done_sublist.subset

theorem sharing_start (settings : Settings) (d₀ : Database) (now : Instant) :
    Sharing settings d₀ now (start d₀) [] fun _ => .arrived where
  worker i t ht := by simp at ht
  later _ _ := rfl
  nodup _ := List.nodup_nil
  disjoint _ _ _ := List.disjoint_nil_left _
  stale _ := List.nil_subset _
  db := ⟨[], rfl, List.nodup_nil, by simp [Phase.done]⟩
  expired _ := .refl _

namespace Sharing

/-- A reservation that is stale and still RESERVED was so at the start, and nobody has expired it. -/
theorem mem_stale (h : Sharing settings d₀ now cfg steps ph) {x : UUID} :
    x ∈ cfg.db.stale now ↔ x ∈ d₀.stale now ∧ ∀ i, x ∉ (ph i).done := by
  obtain ⟨xs, hdb, -, hxs⟩ := h.db
  rw [TicketReservation.mem_stale, TicketReservation.mem_stale, hdb]
  constructor
  · rintro ⟨r, hr, rfl, hst, he⟩
    obtain ⟨hr, hst, hx⟩ := reserved_finishAll.1 ⟨hr, hst⟩
    exact ⟨⟨r, hr, rfl, hst, he⟩, fun i hi => hx ((hxs _).2 ⟨i, hi⟩)⟩
  · rintro ⟨⟨r, hr, rfl, hst, he⟩, hx⟩
    obtain ⟨hr, hst⟩ := reserved_finishAll.2 ⟨hr, hst, fun h => by
      obtain ⟨i, hi⟩ := (hxs _).1 h
      exact hx i hi⟩
    exact ⟨r, hr, rfl, hst, he⟩

/-- The lock of a reservation is held by the worker that has selected it. -/
theorem busy_iff (h : Sharing settings d₀ now cfg steps ph) {i : ℕ} {x : UUID} :
    cfg.busy i (.reservation x) = true ↔ ∃ j ≠ i, ∃ ws, ph j = .selected ws ∧ x ∈ batchIds ws := by
  rw [Config.busy_eq_true]
  constructor
  · rintro ⟨j, t, hj, ht, hl⟩
    obtain ⟨b, -, hw, -⟩ := h.worker j t ht
    exact ⟨j, hj, hw.locks.1 hl⟩
  · rintro ⟨j, hj, ws, hph, hx⟩
    have hlt : j < cfg.threads.length := by
      by_contra hge
      rw [h.later j (not_lt.1 hge)] at hph
      cases hph
    obtain ⟨b, -, hw, -⟩ := h.worker j _ (List.getElem?_eq_getElem hlt)
    exact ⟨j, _, hj, List.getElem?_eq_getElem hlt, hw.locks.2 ⟨ws, hph, hx⟩⟩

/-- Every reservation has been selected, or is still free. -/
theorem taken_or_free (h : Sharing settings d₀ now cfg steps ph) (i : ℕ) {x : UUID}
    (hx : x ∈ d₀.stale now) : (∃ j, x ∈ batchIds (ph j).batch) ∨
      (x ∈ cfg.db.stale now ∧ cfg.busy i (.reservation x) = false) := by
  by_cases hdone : ∃ j, x ∈ (ph j).done
  · obtain ⟨j, hj⟩ := hdone
    exact Or.inl ⟨j, Phase.done_subset _ hj⟩
  · cases hb : cfg.busy i (.reservation x) with
    | false => exact Or.inr ⟨h.mem_stale.2 ⟨hx, fun j hj => hdone ⟨j, hj⟩⟩, rfl⟩
    | true =>
      obtain ⟨j, -, ws, hph, hx⟩ := h.busy_iff.1 hb
      exact Or.inl ⟨j, by rw [hph]; exact hx⟩

/-! ### One step -/

section
variable {i batchSize : ℕ} {p : Phase} {ys : List UUID} {x : UUID}

/-- What was selected stays selected. -/
theorem mem_batch_update (hgrow : batchIds (ph i).batch ⊆ batchIds p.batch)
    (hx : x ∈ batchIds p.batch ∨ ∃ j, x ∈ batchIds (ph j).batch) :
    ∃ j, x ∈ batchIds (Function.update ph i p j).batch := by
  refine (Function.exists_update_iff ph fun _ q => x ∈ batchIds q.batch).2 ?_
  rcases hx with hx | ⟨j, hx⟩
  · exact Or.inl hx
  · rcases eq_or_ne j i with rfl | hne
    · exact Or.inl (hgrow hx)
    · exact Or.inr ⟨j, hne, hx⟩

theorem mem_done_update (hdone : p.done = (ph i).done ++ ys) :
    (∃ j, x ∈ (Function.update ph i p j).done) ↔ (∃ j, x ∈ (ph j).done) ∨ x ∈ ys := by
  refine (Function.exists_update_iff ph fun _ q => x ∈ q.done).trans ?_
  rw [hdone, List.mem_append]
  constructor
  · rintro ((hx | hx) | ⟨j, -, hx⟩)
    · exact Or.inl ⟨i, hx⟩
    · exact Or.inr hx
    · exact Or.inl ⟨j, hx⟩
  · rintro (⟨j, hx⟩ | hx)
    · rcases eq_or_ne j i with rfl | hne
      · exact Or.inl (Or.inl hx)
      · exact Or.inr ⟨j, hne, hx⟩
    · exact Or.inl (Or.inr hx)

/-- Batches stay disjoint when one of them is replaced. -/
theorem disjoint_update
    (h : ∀ j k, j ≠ k → (batchIds (ph j).batch).Disjoint (batchIds (ph k).batch))
    (hp : ∀ j, i ≠ j → (batchIds p.batch).Disjoint (batchIds (ph j).batch)) {j k : ℕ} (hjk : j ≠ k) :
    (batchIds (Function.update ph i p j).batch).Disjoint
      (batchIds (Function.update ph i p k).batch) := by
  rcases eq_or_ne j i with rfl | hj
  · rw [Function.update_self, Function.update_of_ne hjk.symm]
    exact hp k hjk
  · rw [Function.update_of_ne hj]
    rcases eq_or_ne k i with rfl | hk
    · rw [Function.update_self]
      exact (hp j hj.symm).symm
    · rw [Function.update_of_ne hk]
      exact h j k hjk

/-- The database is what the committed batches leave. -/
theorem db_update (h : Sharing settings d₀ now cfg steps ph)
    (hdb : cfg'.db = cfg.db.finishAll ys .expired) (hdone : p.done = (ph i).done ++ ys)
    (hys : ys.Nodup) (hstale : ys ⊆ cfg.db.stale now) :
    ∃ xs : List UUID, cfg'.db = d₀.finishAll xs .expired ∧ xs.Nodup ∧
      ∀ x, x ∈ xs ↔ ∃ j, x ∈ (Function.update ph i p j).done := by
  obtain ⟨xs, hxdb, hxn, hxs⟩ := h.db
  have hnew : xs.Disjoint ys := by
    intro x hx hy
    obtain ⟨j, hj⟩ := (hxs x).1 hx
    exact (h.mem_stale.1 (hstale hy)).2 j hj
  refine ⟨xs ++ ys, by rw [hdb, hxdb, Database.finishAll_append], hxn.append hys hnew, fun x => ?_⟩
  rw [List.mem_append, hxs, mem_done_update hdone]

/-- The steps of call `i` have expired `ys` too. -/
theorem expired_update (h : Sharing settings d₀ now cfg steps ph) (hi : Inv cfg.db)
    (hdb : cfg'.db = cfg.db.finishAll ys .expired) (hdone : p.done = (ph i).done ++ ys)
    (hys : ys.Nodup) (hstale : ys ⊆ cfg.db.stale now) (j : ℕ) :
    (expiredBy (steps ++ [⟨i, cfg.db, cfg'.db⟩]) j).Perm (Function.update ph i p j).done := by
  rw [expiredBy_snoc]
  rcases eq_or_ne j i with rfl | hne
  · rw [Function.update_self, hdone, if_pos rfl, hdb]
    exact (h.expired j).append (expiredSince_finishAll hi hys hstale)
  · rw [Function.update_of_ne hne, if_neg hne.symm, List.append_nil]
    exact h.expired j

/-- Call `i` goes on to the phase `p` of a worker, and the other calls stay what they are. -/
structure Goes (settings : Settings) (now : Instant) (cfg cfg' : ServiceConfig) (i batchSize : ℕ)
    (p : Phase) : Prop where
  inv : Inv cfg.db
  moves : ∃ t s', Moves cfg cfg' i t s' cfg'.db ∧ t.call = .expireBatch batchSize now none ∧
    Worker settings cfg'.db batchSize now none p s'
  others : ∀ j t, i ≠ j → cfg.threads[j]? = some t → ∀ b q,
    Worker settings cfg.db b now none q t.status → Worker settings cfg'.db b now none q t.status

/-- **One worker goes on** to the phase `p`, and expires `ys`. -/
theorem update (h : Sharing settings d₀ now cfg steps ph)
    (hg : Goes settings now cfg cfg' i batchSize p)
    (hdb : cfg'.db = cfg.db.finishAll ys .expired) (hdone : p.done = (ph i).done ++ ys)
    (hys : ys.Nodup) (hstale : ys ⊆ cfg.db.stale now)
    (hgrow : batchIds (ph i).batch ⊆ batchIds p.batch) (hn : (batchIds p.batch).Nodup)
    (hsub : batchIds p.batch ⊆ d₀.stale now)
    (hdisj : ∀ j, i ≠ j → (batchIds p.batch).Disjoint (batchIds (ph j).batch))
    (hfull : p.batch.length ≤ batchSize ∧ (p.batch.length = batchSize ∨ ∀ x ∈ d₀.stale now,
      x ∈ batchIds p.batch ∨ ∃ j, x ∈ batchIds (ph j).batch)) :
    Sharing settings d₀ now cfg' (steps ++ [⟨i, cfg.db, cfg'.db⟩]) (Function.update ph i p) := by
  obtain ⟨t, s', hm, hc, hw⟩ := hg.moves
  exact
    { worker := fun j tj hj => by
        by_cases hij : i = j
        · subst hij
          rw [hm.get_self] at hj
          cases hj
          rw [Function.update_self]
          exact ⟨batchSize, hc, hw, fun _ => ⟨hfull.1, hfull.2.imp_right fun hall x hx =>
            mem_batch_update hgrow (hall x hx)⟩⟩
        · have hj' := (hm.get_other hij).symm.trans hj
          obtain ⟨b, hcall, hwork, hrest⟩ := h.worker j tj hj'
          rw [Function.update_of_ne (Ne.symm hij)]
          exact ⟨b, hcall, hg.others j tj hij hj' b _ hwork, fun ha => ⟨(hrest ha).1,
            (hrest ha).2.imp_right fun hall x hx => mem_batch_update hgrow (Or.inr (hall x hx))⟩⟩
      later := fun j hj => by
        rw [hm.length] at hj
        have hlt := (List.getElem?_eq_some_iff.1 hm.at_i).1
        rw [Function.update_of_ne (by omega), h.later j hj]
      nodup := (Function.forall_update_iff ph fun _ q => (batchIds q.batch).Nodup).2
        ⟨hn, fun j _ => h.nodup j⟩
      disjoint := fun j k hjk => disjoint_update h.disjoint hdisj hjk
      stale := (Function.forall_update_iff ph fun _ q => batchIds q.batch ⊆ d₀.stale now).2
        ⟨hsub, fun j _ => h.stale j⟩
      db := h.db_update hdb hdone hys hstale
      expired := h.expired_update hg.inv hdb hdone hys hstale }

/-- The worker keeps its batch and expires nothing. -/
theorem keep (h : Sharing settings d₀ now cfg steps ph)
    (hg : Goes settings now cfg cfg' i batchSize p) (hb : p.batch = (ph i).batch)
    (hdone : p.done = (ph i).done) (hdb : cfg'.db = cfg.db)
    (hfull : (ph i).batch.length ≤ batchSize ∧ ((ph i).batch.length = batchSize ∨
      ∀ x ∈ d₀.stale now, ∃ j, x ∈ batchIds (ph j).batch)) :
    Sharing settings d₀ now cfg' (steps ++ [⟨i, cfg.db, cfg'.db⟩]) (Function.update ph i p) := by
  have hdb' : cfg'.db = cfg.db.finishAll [] .expired := hdb
  have hdone' : p.done = (ph i).done ++ [] := by rw [hdone, List.append_nil]
  refine h.update hg hdb' hdone' List.nodup_nil (List.nil_subset _) ?_ ?_ ?_ ?_ ?_ <;> rw [hb]
  · exact List.Subset.refl _
  · exact h.nodup i
  · exact h.stale i
  · exact h.disjoint i
  · exact ⟨hfull.1, hfull.2.imp_right fun hall x hx => Or.inr (hall x hx)⟩

/-- The reservations of a batch are stale. -/
theorem stale_of_batch {d : Database} {ws : List Whole} (hb : Batch d batchSize now none ws) :
    batchIds ws ⊆ d.stale now := by
  intro x hx
  obtain ⟨w, hw, rfl⟩ := List.mem_map.1 hx
  exact TicketReservation.mem_stale.2
    ⟨_, (hb.mem w hw).mem, rfl, hb.reserved w hw, hb.expired w hw⟩

/-- The worker expires its batch. -/
theorem commit {ws : List Whole} (h : Sharing settings d₀ now cfg steps ph)
    (hg : Goes settings now cfg cfg' i batchSize (.expired ws)) (hph : ph i = .selected ws)
    (hb : Batch cfg.db batchSize now none ws) (hdb : cfg'.db = cfg.db.finishAll (batchIds ws) .expired)
    (hfull : (ph i).batch.length ≤ batchSize ∧ ((ph i).batch.length = batchSize ∨
      ∀ x ∈ d₀.stale now, ∃ j, x ∈ batchIds (ph j).batch)) :
    Sharing settings d₀ now cfg' (steps ++ [⟨i, cfg.db, cfg'.db⟩])
      (Function.update ph i (.expired ws)) := by
  have hbatch : (ph i).batch = ws := by rw [hph]; rfl
  rw [hbatch] at hfull
  have hdone : Phase.done (.expired ws) = (ph i).done ++ batchIds ws := by rw [hph]; rfl
  refine h.update hg hdb hdone hb.nodup (stale_of_batch hb) ?_ hb.nodup ?_ ?_ ?_
  · rw [hbatch]
    exact List.Subset.refl _
  · exact hbatch ▸ h.stale i
  · exact hbatch ▸ h.disjoint i
  · exact ⟨hfull.1, hfull.2.imp_right fun hall x hx => Or.inr (hall x hx)⟩

/-- **A selection takes free reservations only**: what another worker has selected is locked, what
    one has expired is not RESERVED. -/
theorem disjoint_of_free (h : Sharing settings d₀ now cfg steps ph) {xs : List UUID}
    (hfree : ∀ x ∈ xs, x ∈ cfg.db.stale now ∧ cfg.busy i (.reservation x) = false) (j : ℕ)
    (hij : i ≠ j) : xs.Disjoint (batchIds (ph j).batch) := by
  intro x hx hj
  obtain ⟨hst, hbusy⟩ := hfree x hx
  cases hph : ph j with
  | arrived =>
    rw [hph] at hj
    cases hj
  | selected ws =>
    rw [hph] at hj
    rw [h.busy_iff.2 ⟨j, hij.symm, ws, hph, hj⟩] at hbusy
    cases hbusy
  | expired ws =>
    rw [hph] at hj
    exact (h.mem_stale.1 hst).2 j (by rw [hph]; exact hj)

/-- A worker that gets fewer than it wants has taken all that were free. -/
theorem mem_of_short {ws : List Whole}
    (hws : ws.map Whole.reservation = ((cfg.db.expiredReservations now none).filter fun r =>
      !cfg.busy i (.reservation r.id)).take batchSize)
    (hlen : ws.length < batchSize) (hst : x ∈ cfg.db.stale now)
    (hfree : cfg.busy i (.reservation x) = false) : x ∈ batchIds ws := by
  have hall : ws.map Whole.reservation = (cfg.db.expiredReservations now none).filter fun r =>
      !cfg.busy i (.reservation r.id) := by
    rw [hws]
    refine List.take_of_length_le ?_
    have := congrArg List.length hws
    rw [List.length_map, List.length_take] at this
    omega
  obtain ⟨r, hr, rfl, hrs, hre⟩ := TicketReservation.mem_stale.1 hst
  have hmem : r ∈ ws.map Whole.reservation := by
    rw [hall, List.mem_filter, Database.expiredReservations, mem_orderBy, List.mem_filter]
    exact ⟨⟨hr, by simp [hrs, hre]⟩, by simp [hfree]⟩
  obtain ⟨w, hw, rfl⟩ := List.mem_map.1 hmem
  exact List.mem_map_of_mem hw

/-- The worker selects its batch. -/
theorem select {ws : List Whole} (h : Sharing settings d₀ now cfg steps ph)
    (hg : Goes settings now cfg cfg' i batchSize (.selected ws)) (hph : ph i = .arrived)
    (hb : Batch cfg.db batchSize now none ws) (hdb : cfg'.db = cfg.db)
    (hws : ws.map Whole.reservation = ((cfg.db.expiredReservations now none).filter fun r =>
      !cfg.busy i (.reservation r.id)).take batchSize) :
    Sharing settings d₀ now cfg' (steps ++ [⟨i, cfg.db, cfg'.db⟩])
      (Function.update ph i (.selected ws)) := by
  have hnone : (ph i).batch = [] := by rw [hph]; rfl
  have hdb' : cfg'.db = cfg.db.finishAll [] .expired := hdb
  have hdone : Phase.done (.selected ws) = (ph i).done ++ [] := by rw [hph]; rfl
  have hfree : ∀ x ∈ batchIds ws, x ∈ cfg.db.stale now ∧ cfg.busy i (.reservation x) = false := by
    intro x hx
    refine ⟨stale_of_batch hb hx, ?_⟩
    obtain ⟨w, hw, rfl⟩ := List.mem_map.1 hx
    have hmem := List.mem_map_of_mem (f := Whole.reservation) hw
    rw [hws] at hmem
    simpa using (List.mem_filter.1 (List.mem_of_mem_take hmem)).2
  refine h.update hg hdb' hdone List.nodup_nil (List.nil_subset _) ?_ hb.nodup ?_
    (h.disjoint_of_free hfree) ⟨hb.length, ?_⟩
  · rw [hnone]
    exact List.nil_subset _
  · exact fun x hx => (h.mem_stale.1 (hfree x hx).1).1
  · refine hb.length.eq_or_lt.imp_right fun hlen x hx => ?_
    rcases h.taken_or_free i hx with hx | ⟨hst, hbusy⟩
    · exact Or.inr hx
    · exact Or.inl (mem_of_short hws hlen hst hbusy)

/-- A step of a call is a step of a worker. -/
theorem goes_of_step {l : List (Entry Call Database (Except Error Response))}
    (h : Sharing settings d₀ now cfg steps ph) (hl : (system settings).Tracks d₀ cfg l)
    (hact : cfg.act (Call.prog settings) (.step i) = some cfg') :
    ∃ batchSize p, Goes settings now cfg cfg' i batchSize p ∧
      PhaseStep cfg.db (cfg.busy i) batchSize now none (ph i) p cfg'.db ∧
      (ph i ≠ .arrived → (ph i).batch.length ≤ batchSize ∧ ((ph i).batch.length = batchSize ∨
        ∀ x ∈ d₀.stale now, ∃ j, x ∈ batchIds (ph j).batch)) := by
  obtain ⟨t, s', d, hp, hm⟩ := step_cases hact
  obtain rfl := hm.db
  obtain ⟨b, hc, hw, hfull⟩ := h.worker i t hm.at_i
  obtain ⟨p, hw', hstep⟩ := hw.progress hl.inv hp
  refine ⟨b, p, ⟨hl.inv, ⟨t, s', hm, hc, hw'⟩, fun j tj hij hj b q hq => ?_⟩, hstep, hfull⟩
  rcases hl.commit hact with hdb | ⟨v, r, hv, -, hch⟩
  · rw [hdb]
    exact hq
  · exact hq.others hl.inv hch (hl.locks i j v tj hij hv hj)

end

/-- **One action.** -/
theorem act {a : Action Call} {l : List (Entry Call Database (Except Error Response))}
    (h : Sharing settings d₀ now cfg steps ph) (hl : (system settings).Tracks d₀ cfg l)
    (hact : cfg.act (Call.prog settings) a = some cfg')
    (hcalls : ∀ t ∈ cfg'.threads, (∃ b, t.call = .expireBatch b now none) ∧ t.status ≠ .aborted) :
    ∃ ph, Sharing settings d₀ now cfg' (steps ++ a.record cfg.db cfg'.db) ph := by
  cases a with
  | arrive c =>
    cases hact
    refine ⟨ph, fun i t ht => ?_, fun i hi => ?_, h.nodup, h.disjoint, h.stale, h.db, fun i => ?_⟩
    · rcases arrive_cases ht with ht | ⟨rfl, rfl⟩
      · exact h.worker i t ht
      · obtain ⟨⟨b, rfl⟩, -⟩ := hcalls _ (List.mem_append_right _ List.mem_cons_self)
        rw [h.later _ le_rfl]
        exact ⟨b, rfl, .arrived, fun ha => absurd rfl ha⟩
    · rw [List.length_append, List.length_singleton] at hi
      exact h.later i (by omega)
    · simpa [Action.record] using h.expired i
  | abort i =>
    obtain ⟨t, p, σ, -, -, -, hm⟩ := abort_cases hact
    exact absurd rfl (hcalls _ (List.mem_of_getElem? hm.get_self)).2
  | step i =>
    obtain ⟨b, p, hg, hstep, hfull⟩ := h.goes_of_step hl hact
    refine ⟨Function.update ph i p, ?_⟩
    generalize hph : ph i = q at hstep
    obtain ⟨db', hdb⟩ : ∃ db', cfg'.db = db' := ⟨_, rfl⟩
    rw [hdb] at hstep
    cases hstep with
    | select hb hws => exact h.select hg hph hb hdb hws
    | work => exact h.keep hg (by rw [hph]) (by rw [hph]) hdb (hfull (by simp [hph]))
    | commit hb => exact h.commit hg hph hb hdb (hfull (by simp [hph]))
    | answer => exact h.keep hg (by rw [hph]) (by rw [hph]) hdb (hfull (by simp [hph]))

end Sharing

end

/-! ## A finished run -/

/-- The count that a worker has answered. -/
def processed (t : Thread Call Database Write Lock Error Response) : ℕ :=
  match t.status with
  | .returned (.ok (.count n)) => n
  | _ => 0

def Call.batchSize : Call → ℕ
  | .expireBatch batchSize _ _ => batchSize
  | _ => 0

/-- **The workers of the run have shared the work exactly.** -/
structure SharedExactly (d : Database) (now : Instant) (cfg : ServiceConfig)
    (steps : List (StepRecord Database)) : Prop where
  /-- no reservation is expired by two calls -/
  disjoint : ∀ i j, i ≠ j → (expiredBy steps i).Disjoint (expiredBy steps j)
  /-- each call answers how many it has expired -/
  counted : ∀ (i : ℕ) t, cfg.threads[i]? = some t →
    t.status = .returned (.ok (.count (expiredBy steps i).length))
  sum : (cfg.threads.map processed).sum = (d.expiredSince cfg.db).length
  number : (d.expiredSince cfg.db).length =
    min (d.stale now).length (cfg.threads.map fun t => t.call.batchSize).sum
  stale : d.expiredSince cfg.db ⊆ d.stale now
  /-- each of them is expired once, and gives back once what it holds -/
  once : ∃ xs, xs.Perm (d.expiredSince cfg.db) ∧ cfg.db = d.finishAll xs .expired
  released : cfg.db.ticketTypes = d.ticketTypes.map fun t =>
    t.add (-((d.expiredSince cfg.db).map fun x => d.held x t.id).sum) 0

section
variable {settings : Settings} {d : Database} {now : Instant} {cfg cfg' : ServiceConfig}
  {steps : List (StepRecord Database)}

/-- Calls keep their data, and an aborted call stays aborted. -/
theorem calls_of_act {a : Action Call} {P : Call → Prop}
    (hact : cfg.act (Call.prog settings) a = some cfg')
    (h : ∀ t ∈ cfg'.threads, P t.call ∧ t.status ≠ .aborted) :
    ∀ t ∈ cfg.threads, P t.call ∧ t.status ≠ .aborted := by
  intro t ht
  cases a with
  | arrive c =>
    cases hact
    exact h t (List.mem_append_left _ ht)
  | abort i =>
    obtain ⟨u, p, σ, -, -, -, hm⟩ := abort_cases hact
    exact absurd rfl (h _ (List.mem_of_getElem? hm.get_self)).2
  | step i =>
    obtain ⟨u, s', db, hp, hm⟩ := step_cases hact
    obtain ⟨j, hj⟩ := List.mem_iff_getElem?.1 ht
    by_cases hij : i = j
    · subst hij
      rw [hm.at_i] at hj
      cases hj
      refine ⟨(h _ (List.mem_of_getElem? hm.get_self)).1, fun ha => ?_⟩
      rw [ha] at hp
      cases hp.isRunning
    · exact h t (List.mem_of_getElem? ((hm.get_other hij).trans hj))

theorem sharing_run (now : Instant) (hd : Inv d) (r : History (Call.prog settings) (start d) steps cfg)
    (hcalls : ∀ t ∈ cfg.threads, (∃ b, t.call = .expireBatch b now none) ∧ t.status ≠ .aborted) :
    ∃ ph, Sharing settings d now cfg steps ph := by
  generalize h₀ : start d = cfg₀ at r
  induction r with
  | refl =>
    subst h₀
    exact ⟨_, sharing_start settings d now⟩
  | tail a r hact ih =>
    subst h₀
    obtain ⟨ph, h⟩ := ih (calls_of_act (P := fun call => ∃ b, call = .expireBatch b now none) hact
      hcalls)
    obtain ⟨l, hl⟩ := System.tracks_run (S := system settings) hd r.run
    exact h.act hl hact hcalls

theorem map_eq_range {α β : Type*} {l : List α} {f : α → β} {g : ℕ → β}
    (h : ∀ i a, l[i]? = some a → f a = g i) : l.map f = (List.range l.length).map g := by
  refine List.ext_getElem (by simp) fun i hi _ => ?_
  rw [List.length_map] at hi
  simpa using h i _ (List.getElem?_eq_getElem hi)

namespace Sharing
variable {ph : ℕ → Phase} {xs : List UUID}

/-- A worker that has answered has expired its batch and counted it. -/
theorem finished (hs : Sharing settings d now cfg steps ph) {i : ℕ}
    {t : Thread Call Database Write Lock Error Response} (ht : cfg.threads[i]? = some t)
    (ha : ∃ a, t.status = .returned a) :
    (ph i).done = batchIds (ph i).batch ∧
      t.status = .returned (.ok (.count (ph i).done.length)) ∧
      ((ph i).batch.length ≤ t.call.batchSize ∧ ((ph i).batch.length = t.call.batchSize ∨
        ∀ x ∈ d.stale now, ∃ j, x ∈ batchIds (ph j).batch)) := by
  obtain ⟨b, hc, hw, hfull⟩ := hs.worker i t ht
  obtain ⟨a, ha⟩ := ha
  rw [ha] at hw ⊢
  generalize hph : ph i = p at hw hfull ⊢
  cases hw with
  | returned =>
    refine ⟨rfl, by simp [Phase.done, batchIds], ?_⟩
    rw [hc]
    exact hfull (by simp)

/-- The batches of the workers add up. -/
theorem length_done (hs : Sharing settings d now cfg steps ph) (hn : xs.Nodup)
    (hxs : ∀ x, x ∈ xs ↔ ∃ i, x ∈ (ph i).done) :
    xs.length = ((List.range cfg.threads.length).map fun i => (ph i).done.length).sum := by
  rw [← List.length_flatMap]
  refine List.Perm.length_eq ((List.perm_ext_iff_of_nodup hn ?_).2 fun x => ?_)
  · refine List.nodup_flatMap.2 ⟨fun i _ => (hs.nodup i).sublist (ph i).done_sublist, ?_⟩
    refine List.Pairwise.imp (fun {i j} hij x hi hj => ?_) (List.nodup_range (n := _))
    exact hs.disjoint i j hij (Phase.done_subset _ hi) (Phase.done_subset _ hj)
  · rw [hxs, List.mem_flatMap]
    constructor
    · rintro ⟨i, hi⟩
      refine ⟨i, List.mem_range.2 ?_, hi⟩
      by_contra hge
      rw [hs.later i (not_lt.1 hge)] at hi
      cases hi
    · rintro ⟨i, -, hi⟩
      exact ⟨i, hi⟩

theorem sum_processed (hs : Sharing settings d now cfg steps ph)
    (hfinished : ∀ t ∈ cfg.threads, ∃ a, t.status = .returned a) (hn : xs.Nodup)
    (hxs : ∀ x, x ∈ xs ↔ ∃ i, x ∈ (ph i).done) : (cfg.threads.map processed).sum = xs.length := by
  rw [hs.length_done hn hxs, map_eq_range fun i t ht => ?_]
  rw [processed, (hs.finished ht (hfinished t (List.mem_of_getElem? ht))).2.1]

/-- The workers expire no more than they want. -/
theorem length_le_batchSizes (hs : Sharing settings d now cfg steps ph)
    (hfinished : ∀ t ∈ cfg.threads, ∃ a, t.status = .returned a) (hn : xs.Nodup)
    (hxs : ∀ x, x ∈ xs ↔ ∃ i, x ∈ (ph i).done) :
    xs.length ≤ (cfg.threads.map fun t => t.call.batchSize).sum := by
  rw [← hs.sum_processed hfinished hn hxs]
  refine List.sum_le_sum fun t ht => ?_
  obtain ⟨j, hj⟩ := List.mem_iff_getElem?.1 ht
  obtain ⟨hdone, hstatus, hle, -⟩ := hs.finished hj (hfinished t ht)
  rw [processed, hstatus]
  simp only
  rw [hdone, batchIds, List.length_map]
  exact hle

/-- When every stale reservation is in a batch, all of them have been expired. -/
theorem stale_le_length (hd : Inv d) (hs : Sharing settings d now cfg steps ph)
    (hfinished : ∀ t ∈ cfg.threads, ∃ a, t.status = .returned a)
    (hxs : ∀ x, x ∈ xs ↔ ∃ i, x ∈ (ph i).done)
    (htaken : ∀ x ∈ d.stale now, ∃ j, x ∈ batchIds (ph j).batch) :
    (d.stale now).length ≤ xs.length := by
  refine ((nodup_stale hd now).subperm fun x hx => ?_).length_le
  obtain ⟨j, hj⟩ := htaken x hx
  refine (hxs x).2 ⟨j, ?_⟩
  rcases hjt : cfg.threads[j]? with _ | u
  · rw [hs.later j (List.getElem?_eq_none_iff.1 hjt)] at hj
    cases hj
  · rw [(hs.finished hjt (hfinished u (List.mem_of_getElem? hjt))).1]
    exact hj

/-- The workers have expired all that were stale, or as many as they wanted. -/
theorem length_eq_min (hd : Inv d) (hs : Sharing settings d now cfg steps ph)
    (hfinished : ∀ t ∈ cfg.threads, ∃ a, t.status = .returned a) (hn : xs.Nodup)
    (hxs : ∀ x, x ∈ xs ↔ ∃ i, x ∈ (ph i).done) (hstale : xs ⊆ d.stale now) :
    xs.length = min (d.stale now).length (cfg.threads.map fun t => t.call.batchSize).sum := by
  have hle : xs.length ≤ (d.stale now).length := (hn.subperm hstale).length_le
  by_cases hall : ∀ i t, cfg.threads[i]? = some t → (ph i).batch.length = t.call.batchSize
  · -- every worker has got as many as it wanted
    have heq : (cfg.threads.map fun t => t.call.batchSize).sum = xs.length := by
      rw [hs.length_done hn hxs, map_eq_range fun i t ht => ?_]
      rw [← hall i t ht, (hs.finished ht (hfinished t (List.mem_of_getElem? ht))).1, batchIds,
        List.length_map]
    omega
  · -- one has not, so nothing is left
    push Not at hall
    obtain ⟨i, t, ht, hne⟩ := hall
    obtain ⟨-, -, -, hrest⟩ := hs.finished ht (hfinished t (List.mem_of_getElem? ht))
    have hge := hs.stale_le_length hd hfinished hxs (hrest.resolve_left hne)
    have hsizes := hs.length_le_batchSizes hfinished hn hxs
    omega

end Sharing

/-- **Workers share the work exactly.** -/
theorem workers_share (h : Reachable settings d)
    (r : History (Call.prog settings) (start d) steps cfg)
    (hcalls : ∀ t ∈ cfg.threads, ∃ batchSize, t.call = .expireBatch batchSize now none)
    (hfinished : ∀ t ∈ cfg.threads, ∃ a, t.status = .returned a) :
    SharedExactly d now cfg steps := by
  have hd := h.inv
  obtain ⟨ph, hs⟩ := sharing_run now hd r fun t ht => ⟨hcalls t ht, by
    obtain ⟨a, ha⟩ := hfinished t ht
    rw [ha]
    simp⟩
  obtain ⟨xs, hdb, hxn, hxs⟩ := hs.db
  have hstale : xs ⊆ d.stale now := by
    intro x hx
    obtain ⟨i, hi⟩ := (hxs x).1 hx
    exact hs.stale i (Phase.done_subset _ hi)
  have hexp : (d.expiredSince cfg.db).Perm xs := by
    rw [hdb]
    exact expiredSince_finishAll hd hxn hstale
  exact
    { disjoint := fun i j hij x hi hj =>
        hs.disjoint i j hij (Phase.done_subset _ ((hs.expired i).mem_iff.1 hi))
          (Phase.done_subset _ ((hs.expired j).mem_iff.1 hj))
      counted := fun i t ht => by
        rw [(hs.expired i).length_eq]
        exact (hs.finished ht (hfinished t (List.mem_of_getElem? ht))).2.1
      sum := (hs.sum_processed hfinished hxn hxs).trans hexp.length_eq.symm
      number := hexp.length_eq.trans (hs.length_eq_min hd hfinished hxn hxs hstale)
      stale := fun x hx => hstale (hexp.mem_iff.1 hx)
      once := ⟨xs, hexp.symm, hdb⟩
      released := by
        rw [hdb, ticketTypes_finishAll, ← hdb]
        refine List.map_congr_left fun t _ => ?_
        rw [(hexp.map _).sum_eq] }

end

/-- Two workers, the second of which selects while the first is still at work. -/
def Sample.shares : List (Action Call) :=
  [.arrive (.expireBatch 1 900000006 none), .arrive (.expireBatch 5 900000006 none)] ++
    [0, 0, 1, 1, 0, 0, 1, 0, 0, 0, 0, 1, 1, 1, 1, 1].map .step

theorem workers_share_held : ∃ steps, History (Call.prog Sample.settings) (start Sample.bothHeld) steps
      ((start Sample.bothHeld).after (Call.prog Sample.settings) Sample.shares) ∧
    SharedExactly Sample.bothHeld 900000006
      ((start Sample.bothHeld).after (Call.prog Sample.settings) Sample.shares) steps := by
  have hrun : ServiceRun Sample.settings (start Sample.bothHeld)
      ((start Sample.bothHeld).after (Call.prog Sample.settings) Sample.shares) :=
    run_after (by decide)
  obtain ⟨steps, h⟩ := hrun.history
  refine ⟨steps, h, workers_share Sample.bothHeld_reachable h (fun t ht => ?_) fun t ht => ?_⟩
  · have hcalls : ((start Sample.bothHeld).after (Call.prog Sample.settings) Sample.shares).threads.map
        Thread.call = [.expireBatch 1 900000006 none, .expireBatch 5 900000006 none] := rfl
    have hmem := List.mem_map_of_mem (f := Thread.call) ht
    rw [hcalls] at hmem
    rcases List.mem_cons.1 hmem with h | h
    · exact ⟨1, h⟩
    · exact ⟨5, List.mem_singleton.1 h⟩
  · have hall : ∀ t ∈ ((start Sample.bothHeld).after (Call.prog Sample.settings) Sample.shares).threads,
        t.answer.isSome := by decide
    obtain ⟨⟨c, r⟩, hr⟩ := Option.isSome_iff_exists.1 (hall t ht)
    exact ⟨r, (Thread.answer_eq_some.1 hr).1⟩

end TicketReservation
