/-
  The worker and the audit.

  In a reachable database a worker that runs again and again expires every
  stale reservation, a full batch at a time, and then the audit finds nothing.

  * `stale_expireBatch`: a batch takes the first stale reservations and leaves
    the others;
  * `audit_inv`: the invariant implies every rule of the audit but the one
    about stale reservations;
  * `worker_audit_agree`: the two together.
-/
import TicketReservation.Sharing
import TicketReservation.StressAdmin.Audit

namespace TicketReservation

open Txn ReservationLifecycleService StressAdminService

/-- The database after `k` runs of `expire_batch(now = t)` with nothing else running. -/
def Database.afterBatches (d : Database) (batchSize : ℕ) (t : Instant) : ℕ → Database
  | 0 => d
  | k + 1 => ((expireBatch batchSize t none).alone (d.afterBatches batchSize t k)).2

section
variable {settings : Settings} {d : Database} {t now : Instant} {b : ℕ}
  {eventIds : Option (List UUID)}

/-! ## The worker -/

theorem inv_expireBatch (hd : Inv d) : Inv ((expireBatch b t none).alone d).2 := by
  have h := (Call.alone_leads ⟨0⟩ (.expireBatch b t none) hd).inv hd
  rwa [Call.prog, Prog.alone_map rfl] at h

/-- What a batch leaves: the stale reservations that it has not taken. -/
theorem stale_finishAll {xs : List UUID} : (d.finishAll xs .expired).stale t =
    (d.stale t).filter fun x => x ∉ xs := by
  rw [Database.stale, Database.stale, Database.finishAll_reservations]
  induction d.reservations with
  | nil => rfl
  | cons r rows ih =>
    have hexpired : ¬ Reservation.Stale t { r with status := .expired } := by
      rintro ⟨h, -⟩
      cases h
    by_cases hx : r.id ∈ xs <;> by_cases hs : r.Stale t <;>
      simp only [List.map_cons, List.filter_cons, hx, hs, hexpired, ih, if_true, if_false, decide_true,
        decide_false, not_true_eq_false, not_false_eq_true, Bool.false_eq_true]

/-- What `take` leaves of a list without repetitions. -/
theorem filter_notMem_take {α : Type} [DecidableEq α] {l : List α} (h : l.Nodup) (n : ℕ) :
    (l.filter fun x => x ∉ l.take n) = l.drop n := by
  conv_lhs => rw [← List.take_append_drop n l, List.filter_append]
  rw [← List.take_append_drop n l, List.nodup_append] at h
  have hfirst : ((l.take n).filter fun x => x ∉ l.take n) = [] := by
    rw [List.filter_eq_nil_iff]
    intro x hx
    simpa using hx
  have hrest : ((l.drop n).filter fun x => x ∉ l.take n) = l.drop n := by
    rw [List.filter_eq_self]
    intro x hx
    simpa using fun hx' => h.2.2 x hx' x hx rfl
  rw [List.take_append_drop, hfirst, hrest, List.nil_append]

/-- A batch takes as many as there are, up to its size, and leaves the others. -/
theorem stale_expireBatch (hd : Inv d) :
    ((expireBatch b t none).alone d).1 = .ok (min b (d.stale t).length) ∧
      (((expireBatch b t none).alone d).2.stale t).length = (d.stale t).length - b := by
  rw [alone_expireBatch_inv hd, stale_finishAll]
  have hperm : ((d.expiredReservations t none).map Reservation.id).Perm (d.stale t) := by
    rw [expiredReservations_none, Database.stale]
    exact (orderBy_perm _).map _
  have hlength : (d.expiredReservations t none).length = (d.stale t).length := by
    rw [← hperm.length_eq, List.length_map]
  refine ⟨by rw [List.length_take, hlength], ?_⟩
  rw [List.map_take, ← (hperm.filter _).length_eq,
    filter_notMem_take (hperm.nodup_iff.2 (nodup_stale hd t)), List.length_drop, hperm.length_eq]

/-- The repeated batches keep the invariant and expire `batchSize` reservations each. -/
theorem afterBatches_spec (hd : Inv d) (k : ℕ) : Inv (d.afterBatches b t k) ∧
    ((d.afterBatches b t k).stale t).length = (d.stale t).length - k * b := by
  induction k with
  | zero => exact ⟨hd, by simp [Database.afterBatches]⟩
  | succ k ih =>
    obtain ⟨hi, hlen⟩ := ih
    refine ⟨inv_expireBatch hi, ?_⟩
    rw [Database.afterBatches, (stale_expireBatch hi).2, hlen, Nat.succ_mul]
    omega

/-- `k` batches are enough iff `k` is at least `⌈n / b⌉`. -/
theorem sub_mul_eq_zero_iff {n k : ℕ} (hb : 1 ≤ b) : n - k * b = 0 ↔ (n + b - 1) / b ≤ k := by
  rw [Nat.sub_eq_zero_iff_le, Nat.div_le_iff_le_mul_add_pred hb, Nat.mul_comm k b]
  omega

/-! ## The audit -/

theorem integers_inv (hd : Inv d) : d.Integers := by
  intro t ht
  have hint := hd.ticketTypeInts t ht
  have hc := hd.ticketTypeChecks t ht
  have h1 := hc.sold
  have h2 := hc.reserved
  have h3 := hc.allocated
  refine ⟨hint, ⟨?_, ?_⟩, ⟨?_, ?_⟩⟩ <;> omega

theorem activeRows_le_one (hd : Inv d) (s : UUID) : d.activeRows s ≤ 1 := by
  have h := List.nodup_iff_count_le_one.1 hd.activeSeats s
  rw [List.count, List.countP_map, List.countP_filter] at h
  refine le_trans (le_of_eq (List.countP_congr fun q _ => ?_)) h
  simp only [Bool.and_eq_true, decide_eq_true_eq, Function.comp_apply, beq_iff_eq]
  exact and_comm

theorem seatCount_le_one (hd : Inv d) (s : UUID) : d.seatCount eventIds s ≤ 1 := by
  have h := List.nodup_iff_count_le_one.1 hd.seatIds s
  rw [List.count, List.countP_map] at h
  refine le_trans (List.countP_mono_left fun c _ hc => ?_) h
  simp only [Bool.and_eq_true, decide_eq_true_eq] at hc
  exact beq_iff_eq.2 hc.1

/-- **In a committed database the audit finds stale reservations at most.** -/
theorem audit_inv (hd : Inv d) : d.audit now eventIds = .ok (consistencyResponse now [] [] [] [] []
    (d.staleActiveReservations eventIds 100 (now - 60 * 1000000))) := by
  have hnegative : d.negativeTicketQuantities eventIds 100 = [] :=
    (negativeTicketQuantities_eq_nil (by decide)).2 fun t ht _ =>
      have hc := hd.ticketTypeChecks t ht
      ⟨hc.total, hc.sold, hc.reserved⟩
  have hoversold : d.oversoldTicketQuantities eventIds 100 = .ok [] :=
    (oversoldTicketQuantities_eq_nil (by decide) (integers_inv hd) hnegative).2 fun t ht _ =>
      (hd.ticketTypeChecks t ht).allocated
  have hduplicate : d.duplicateActiveSeats eventIds 100 = [] :=
    (duplicateActiveSeats_eq_nil (by decide)).2 fun s =>
      Nat.mul_le_mul (activeRows_le_one hd s) (seatCount_le_one hd s)
  have hitems : d.orphanReservationItems 100 = [] :=
    (orphanReservationItems_eq_nil (by decide)).2 hd.itemReservations
  have hseats : d.orphanReservationSeats 100 = [] :=
    (orphanReservationSeats_eq_nil (by decide)).2 hd.seatRowReservations
  rw [Database.audit, hnegative, hoversold, hduplicate, hitems, hseats]
  rfl

/-- Within the tolerance, nothing is found once no reservation is stale at `t`. -/
theorem staleActiveReservations_inv (h : (d.stale t).length = 0) (hnow : now ≤ t + 60 * 1000000) :
    d.staleActiveReservations eventIds 100 (now - 60 * 1000000) = [] := by
  refine (staleActiveReservations_eq_nil (by decide)).2 fun r hr _ hst => ?_
  by_contra hlt
  have hlt' : r.expiresAt < t := lt_of_lt_of_le (not_le.1 hlt) (sub_le_iff_le_add.2 hnow)
  have hmem : r.id ∈ d.stale t := mem_stale.2 ⟨r, hr, rfl, hst, hlt'⟩
  rw [List.length_eq_zero_iff.1 h] at hmem
  cases hmem

/-- **Worker and audit agree.**  Every batch is full until no stale reservation is left, which
    takes `⌈n / b⌉` batches; from then on the audit finds nothing up to a minute later; and in
    every state it finds stale reservations at most. -/
theorem worker_audit_agree (h : Reachable settings d) (hb : 1 ≤ b) (t : Instant) :
    (∀ k, ((expireBatch b t none).alone (d.afterBatches b t k)).1 =
        .ok (min b ((d.afterBatches b t k).stale t).length) ∧
      ((d.afterBatches b t k).stale t).length = (d.stale t).length - k * b) ∧
    (∀ k, ((expireBatch b t none).alone (d.afterBatches b t k)).1 = .ok 0 ↔
      ((d.stale t).length + b - 1) / b ≤ k) ∧
    (∀ k, ((d.stale t).length + b - 1) / b ≤ k → ∀ now ≤ t + 60 * 1000000, ∀ eventIds,
      ∃ response, (assertConsistency now eventIds).alone (d.afterBatches b t k) =
        (.ok response, d.afterBatches b t k) ∧ response.ok = true ∧ response.details = []) ∧
    ∀ k now eventIds, ∃ response, (assertConsistency now eventIds).alone (d.afterBatches b t k) =
      (.ok response, d.afterBatches b t k) ∧ ∀ check, response.checks.get check = false →
        check = .noStaleActiveReservations := by
  have hspec := fun k => afterBatches_spec (b := b) (t := t) h.inv k
  refine ⟨fun k => ⟨(stale_expireBatch (hspec k).1).1, (hspec k).2⟩, fun k => ?_,
    fun k hk now hnow eventIds => ?_, fun k now eventIds => ?_⟩
  · rw [(stale_expireBatch (hspec k).1).1, (hspec k).2, ← sub_mul_eq_zero_iff hb, Except.ok.injEq]
    omega
  · have hzero : ((d.afterBatches b t k).stale t).length = 0 :=
      (hspec k).2.trans ((sub_mul_eq_zero_iff hb).2 hk)
    rw [alone_assertConsistency, audit_inv (hspec k).1, staleActiveReservations_inv hzero hnow]
    exact ⟨_, rfl, rfl, rfl⟩
  · rw [alone_assertConsistency, audit_inv (hspec k).1]
    refine ⟨_, rfl, fun check hfalse => ?_⟩
    cases check with
    | noStaleActiveReservations => rfl
    | _ => cases hfalse

end

/-- Alice's hold is the one reservation that is stale at 900000006. -/
theorem worker_audit_agree_held : ((∀ k,
      ((expireBatch 3 900000006 none).alone (Sample.seatHeld.afterBatches 3 900000006 k)).1 =
        .ok (min 3 ((Sample.seatHeld.afterBatches 3 900000006 k).stale 900000006).length) ∧
      ((Sample.seatHeld.afterBatches 3 900000006 k).stale 900000006).length = 1 - k * 3) ∧
    ∀ k, ((expireBatch 3 900000006 none).alone (Sample.seatHeld.afterBatches 3 900000006 k)).1 =
      .ok 0 ↔ 1 ≤ k) :=
  have h := worker_audit_agree Sample.seatHeld_reachable (b := 3) (by decide) 900000006
  ⟨h.1, h.2.1⟩

end TicketReservation
