/-
  Lifecycle operations on different reservations commute.

  An operation on the reservation `x` answers by the row of `x` and its
  children, and changes the database by `finish x` or not at all (`ActsOn`).
  Transitions of different reservations leave each other's rows alone and
  shift the counters of a ticket type independently (`Database.finish_comm`);
  that no guard is decided differently is part of the closed form of the
  operations, which rests on the ledger.
-/
import TicketReservation.Runs
import TicketReservation.Outcomes

namespace TicketReservation

open Txn ReservationLifecycleService

variable {settings : Settings} {d : Database} {x y : UUID} {s s' : ReservationStatus}

/-! ## Transitions of different reservations -/

@[simp] theorem Database.held_finish (z t : UUID) : (d.finish x s).held z t = d.held z t := by
  rw [Whole.held_eq, Whole.held_eq, Database.itemsOf_finish, Table.filter_map_comm (by simp),
    List.map_map]
  congr 1
  exact List.map_congr_left fun i _ => ReservationItem.finish_quantity x s i

theorem Database.finish_comm (h : x ≠ y) :
    (d.finish x s).finish y s' = (d.finish y s').finish x s := by
  refine Database.ext rfl rfl rfl ?_ rfl ?_ ?_ ?_
  · -- the counters move by what each reservation holds, which the other does not change
    have hmap : ∀ x y s s', ((d.finish x s).finish y s').ticketTypes = d.ticketTypes.map fun t =>
        (t.add (-d.held x t.id) (if s = .confirmed then d.held x t.id else 0)).add (-d.held y t.id)
          (if s' = .confirmed then d.held y t.id else 0) := by
      intro x y s s'
      show (List.map _ (d.finish x s).ticketTypes) = _
      simp only [Database.held_finish]
      exact List.map_map
    rw [hmap, hmap]
    refine List.map_congr_left fun t _ => ?_
    simp only [TicketType.add, add_right_comm]
  · simp only [finish_reservations, List.map_map]
    refine List.map_congr_left fun r _ => ?_
    by_cases h1 : r.id = x <;> by_cases h2 : r.id = y <;> simp_all [Reservation.finish]
  · simp only [finish_reservationItems, List.map_map]
    refine List.map_congr_left fun i _ => ?_
    by_cases h1 : i.reservationId = x <;> by_cases h2 : i.reservationId = y <;>
      simp_all [ReservationItem.finish]
  · simp only [finish_reservationSeats, List.map_map]
    refine List.map_congr_left fun q _ => ?_
    by_cases h1 : q.reservationId = x <;> by_cases h2 : q.reservationId = y <;>
      simp_all [ReservationSeat.finish]

theorem Database.finishAll_finish_comm {ids : List UUID} (h : y ∉ ids) :
    (d.finish y s').finishAll ids s = (d.finishAll ids s).finish y s' := by
  induction ids generalizing d with
  | nil => rfl
  | cons x ids ih =>
    rw [List.mem_cons, not_or] at h
    show ((d.finish y s').finish x s).finishAll ids s = ((d.finish x s).finishAll ids s).finish y s'
    rw [finish_comm h.1, ih h.2]

/-! ## What an operation depends on and changes -/

/-- **The program acts on the reservation `x` only**: it moves it out of RESERVED
    or changes nothing, and does the same after the transition of another
    reservation. -/
structure ActsOn (x : UUID) (p : Tx Response) : Prop where
  moves : ∀ d, Inv d → (p.alone d).2 = d ∨ ∃ r ∈ d.reservations, ∃ s, r.id = x ∧
    r.status = .reserved ∧ s ≠ .reserved ∧ (p.alone d).2 = d.finish x s
  other : ∀ d y s, Inv d → Inv (d.finish y s) → x ≠ y →
    p.alone (d.finish y s) = ((p.alone d).1, (p.alone d).2.finish y s)

/-- **Two programs that act on different reservations commute.** -/
theorem ActsOn.commute {p q : Tx Response} (hp : ActsOn x p) (hq : ActsOn y q) (hd : Inv d)
    (h : x ≠ y) : (p.alone (q.alone d).2).1 = (p.alone d).1 ∧
      (p.alone (q.alone d).2).2 = (q.alone (p.alone d).2).2 := by
  rcases hq.moves d hd with hqd | ⟨r, hr, s, rfl, hst, hs, hqd⟩
  · -- `q` changes nothing, also after `p`
    rw [hqd]
    refine ⟨rfl, ?_⟩
    rcases hp.moves d hd with hpd | ⟨r, hr, s, rfl, hst, hs, hpd⟩
    · rw [hpd, hqd]
    · rw [hpd, hq.other d r.id s hd (hd.finish hr hst hs) (Ne.symm h), hqd]
  · rw [hqd, hp.other d r.id s hd (hd.finish hr hst hs) h]
    refine ⟨rfl, ?_⟩
    rcases hp.moves d hd with hpd | ⟨r', hr', s', rfl, hst', hs', hpd⟩
    · rw [hpd, hqd]
    · rw [hpd, hq.other d r'.id s' hd (hd.finish hr' hst' hs') (Ne.symm h), hqd]
      exact Database.finish_comm h

/-- Either order gives the same database and the same answers. -/
theorem ActsOn.diamond {p q : Tx Response} (hp : ActsOn x p) (hq : ActsOn y q) (hd : Inv d)
    (h : x ≠ y) : ∃ r r' d₁ d₁' d₂, p.alone d = (r, d₁) ∧ q.alone d₁ = (r', d₂) ∧
      q.alone d = (r', d₁') ∧ p.alone d₁' = (r, d₂) := by
  obtain ⟨hp', hdb⟩ := hp.commute hq hd h
  obtain ⟨hq', -⟩ := hq.commute hp hd (Ne.symm h)
  exact ⟨(p.alone d).1, (q.alone d).1, (p.alone d).2, (q.alone d).2, (q.alone (p.alone d).2).2,
    rfl, Prod.ext hq' rfl, rfl, Prod.ext hp' hdb⟩

theorem ActsOn.map {α : Type} {p : Tx α} {f : α → Response}
    (hm : ∀ d, Inv d → (p.alone d).2 = d ∨ ∃ r ∈ d.reservations, ∃ s, r.id = x ∧
      r.status = .reserved ∧ s ≠ .reserved ∧ (p.alone d).2 = d.finish x s)
    (ho : ∀ d y s, Inv d → Inv (d.finish y s) → x ≠ y →
      p.alone (d.finish y s) = ((p.alone d).1, (p.alone d).2.finish y s)) : ActsOn x (Prog.map f p) := by
  have halone : ∀ d, (Prog.map f p).alone d = ((p.alone d).1.map f, (p.alone d).2) := fun d =>
    Prog.alone_map rfl
  refine ⟨fun d hd => ?_, fun d y s hd hd' h => ?_⟩
  · rw [halone]
    exact hm d hd
  · rw [halone, halone, ho d y s hd hd' h]

/-! ## The lifecycle operations -/

theorem mem_reservations_finish (h : x ≠ y) {r : Reservation} (hr : r.id = x) :
    r ∈ (d.finish y s).reservations ↔ r ∈ d.reservations := by
  rw [Database.finish_reservations, List.mem_map]
  constructor
  · rintro ⟨r', hr', rfl⟩
    rw [Reservation.finish_id] at hr
    rwa [Reservation.finish, if_neg (hr ▸ h)]
  · exact fun hrd => ⟨r, hrd, if_neg (hr ▸ h)⟩

theorem moveOutcome_other (hd : Inv d) {r : Reservation} (hr : r ∈ d.reservations) (h : r.id ≠ y)
    (now : Instant) : moveOutcome s' now (.of (d.finish y s) r) (d.finish y s) =
      ((moveOutcome s' now (.of d r) d).1, (moveOutcome s' now (.of d r) d).2.finish y s) := by
  have hof : Whole.of (d.finish y s) r = Whole.of d r :=
    ((Whole.of_in hd hr).finish_other h s).eq_of
  rw [hof]
  unfold moveOutcome
  have hid : (Whole.of d r).reservation.id ≠ y := h
  split_ifs
  · rfl
  · rfl
  · rw [Database.finish_comm hid]
  · rw [Database.finish_comm hid]

theorem actsOn_moveTo (hs : s ≠ .reserved) (reservationId : UUID) (visitorSession : VisitorSession)
    (now : Instant) : ActsOn reservationId
      (Prog.map .detail (moveTo s reservationId visitorSession now)) := by
  have halone : ∀ d, Inv d → (moveTo s reservationId visitorSession now).alone d =
      moveToOutcome s reservationId visitorSession now d := fun d hd =>
    (atomically_moveTo hs now Response.detail).alone (fun _ _ h => by cases h; rfl) hd
  refine .map (fun d hd => ?_) fun d y s₁ hd hd' hne => ?_
  · rw [halone d hd, moveToOutcome]
    cases hx : d.ownedReservation reservationId visitorSession.id visitorSession.userId with
    | none => exact Or.inl rfl
    | some r =>
      obtain ⟨hr, hid, -⟩ := (ownedReservation_eq_some hd).1 hx
      simp only [moveOutcome]
      split_ifs with h1 h2 h3
      · exact Or.inl rfl
      · exact Or.inl rfl
      · exact Or.inr ⟨r, hr, .expired, hid, not_not.1 h2, by simp, hid ▸ rfl⟩
      · exact Or.inr ⟨r, hr, s, hid, not_not.1 h2, hs, hid ▸ rfl⟩
  · have howned : (d.finish y s₁).ownedReservation reservationId visitorSession.id visitorSession.userId =
        d.ownedReservation reservationId visitorSession.id visitorSession.userId := by
      refine Option.ext fun r => ?_
      rw [ownedReservation_eq_some hd', ownedReservation_eq_some hd]
      refine and_congr_left fun hr => ?_
      exact mem_reservations_finish hne hr.1
    rw [halone _ hd', halone d hd, moveToOutcome, moveToOutcome, howned]
    cases hx : d.ownedReservation reservationId visitorSession.id visitorSession.userId with
    | none => rfl
    | some r =>
      obtain ⟨hr, hid, -⟩ := (ownedReservation_eq_some hd).1 hx
      exact moveOutcome_other hd hr (hid ▸ hne) now

/-- A batch that is asked for one reservation takes it or nothing. -/
theorem batch_of_one (hd : Inv d) (batchSize : ℕ) (now : Instant) :
    (d.expiredReservations now (some [x])).take batchSize = [] ∨
      ∃ r ∈ d.reservations, r.id = x ∧ r.status = .reserved ∧
        (d.expiredReservations now (some [x])).take batchSize = [r] := by
  have hx := expirable_pick hd batchSize now (some [x]) fun _ => true
  rw [List.filter_true] at hx
  generalize (d.expiredReservations now (some [x])).take batchSize = xs at hx ⊢
  have hid : ∀ r ∈ xs, r.id = x := fun r hr => by simpa using (hx.mem r hr).2.2.2 [x] rfl
  rcases xs with _ | ⟨r, _ | ⟨r', xs⟩⟩
  · exact Or.inl rfl
  · have hr := hx.mem r (by simp)
    exact Or.inr ⟨r, hr.1, hid r (by simp), hr.2.1, rfl⟩
  · have hn := hx.nodup
    simp [hid r (by simp), hid r' (by simp)] at hn

theorem actsOn_expireBatch (reservationId : UUID) (batchSize : ℕ) (now : Instant) :
    ActsOn reservationId (Prog.map .count (expireBatch batchSize now (some [reservationId]))) := by
  refine .map (fun d hd => ?_) fun d y s hd hd' hne => ?_
  · rw [alone_expireBatch_inv hd]
    rcases batch_of_one (x := reservationId) hd batchSize now with hnil | ⟨r, hr, hid, hst, hone⟩
    · rw [hnil]
      exact Or.inl rfl
    · rw [hone]
      exact Or.inr ⟨r, hr, .expired, hid, hst, by simp, hid ▸ rfl⟩
  · -- the other reservation is not among those looked through
    have hrows : (d.finish y s).expiredReservations now (some [reservationId]) =
        d.expiredReservations now (some [reservationId]) := by
      unfold Database.expiredReservations
      congr 1
      rw [Database.finish_reservations]
      have hself : ∀ r : Reservation, r.id ≠ y → r.finish y s = r := fun r hr => if_neg hr
      refine Table.filter_map_eq (fun r _ => ?_) fun r _ hr => hself r ?_
      · by_cases hr : r.id = y
        · simp [hr, hne.symm]
        · rw [hself r hr]
      · simp only [Option.all_some, List.mem_singleton, Bool.and_eq_true, decide_eq_true_eq] at hr
        exact hr.2 ▸ hne
    rw [alone_expireBatch_inv hd', alone_expireBatch_inv hd, hrows]
    refine Prod.ext rfl (Database.finishAll_finish_comm fun hy => ?_)
    rcases batch_of_one (x := reservationId) hd batchSize now with hnil | ⟨r, -, hid, -, hone⟩
    · rw [hnil] at hy
      cases hy
    · rw [hone, List.map_singleton, List.mem_singleton, hid] at hy
      exact hne hy.symm

/-- An operation on one reservation, with its caller and clock reading. -/
inductive LifecycleOp where
  | confirm (visitorSession : VisitorSession) (now : Instant)
  | cancel (visitorSession : VisitorSession) (now : Instant)
  | expire (batchSize : ℕ) (now : Instant)

/-- The call that applies the operation to a reservation. -/
def LifecycleOp.call (reservationId : UUID) : LifecycleOp → Call
  | .confirm visitorSession now => .confirm reservationId visitorSession now
  | .cancel visitorSession now => .cancel reservationId visitorSession now
  | .expire batchSize now => .expireBatch batchSize now (some [reservationId])

theorem LifecycleOp.actsOn (op : LifecycleOp) (reservationId : UUID) :
    ActsOn reservationId ((op.call reservationId).prog settings) := by
  cases op with
  | confirm visitorSession now => exact actsOn_moveTo (by simp) _ _ _
  | cancel visitorSession now => exact actsOn_moveTo (by simp) _ _ _
  | expire batchSize now => exact actsOn_expireBatch _ _ _

/-- **Lifecycle operations on different reservations commute**: either order
    gives the same tables and the same answers. -/
theorem lifecycle_commute (h : Reachable settings d) (op op' : LifecycleOp) (hne : x ≠ y) :
    ∃ r r' d₁ d₁' d₂, ((op.call x).prog settings).alone d = (r, d₁) ∧
      ((op'.call y).prog settings).alone d₁ = (r', d₂) ∧
      ((op'.call y).prog settings).alone d = (r', d₁') ∧
      ((op.call x).prog settings).alone d₁' = (r, d₂) :=
  (op.actsOn x).diamond (op'.actsOn y) h.inv hne

/-- Alice and Bob hold two tickets each. -/
def Sample.bothHeld : Database :=
  ((start Sample.inventory).after (Call.prog Sample.settings)
    (Sample.alone 0 6 (.reserveQuantity Sample.alice Sample.twoTickets (Sample.uuid4 100) 5) ++
      Sample.alone 1 6 (.reserveQuantity Sample.bob Sample.twoTickets (Sample.uuid4 200) 5))).db

theorem Sample.bothHeld_reachable : Reachable Sample.settings Sample.bothHeld :=
  .of_run Sample.inventory_inventory (run_after (by decide))

/-- Alice confirms, and a worker expires Bob's reservation. -/
theorem lifecycle_commute_held :
    ∃ r r' d₁ d₁' d₂,
      (Call.prog Sample.settings (.confirm 100 Sample.alice 6)).alone Sample.bothHeld = (r, d₁) ∧
      (Call.prog Sample.settings (.expireBatch 1 1000000000 (some [200]))).alone d₁ = (r', d₂) ∧
      (Call.prog Sample.settings (.expireBatch 1 1000000000 (some [200]))).alone Sample.bothHeld =
        (r', d₁') ∧
      (Call.prog Sample.settings (.confirm 100 Sample.alice 6)).alone d₁' = (r, d₂) :=
  lifecycle_commute (x := 100) (y := 200) Sample.bothHeld_reachable (.confirm Sample.alice 6)
    (.expire 1 1000000000) (by decide)

end TicketReservation
