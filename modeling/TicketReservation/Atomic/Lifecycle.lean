/-
  `cancel`, `confirm` and `expire_batch` take effect atomically.

  Once the reservation is locked nothing that the call reads can change
  (`keeps_in`), so each of its ways out is the way it would take alone in the
  database at that moment.  A call that only answers takes effect when it has
  read; a call that commits, at its commit.  `expire_batch` takes effect at its
  commit on the rows it has locked.
-/
import TicketReservation.Calls

namespace TicketReservation

open Txn ReservationLifecycleService

/-- A point of a call of the service. -/
abbrev CallPoint := Point protocol Write (Except Error Response)

section
variable {α : Type} {p : Tx α} {f : α → Response}

theorem wp_map {spec : Database → Except Error Response → Database → Prop} {v : CallPoint}
    (h : wp spec p (fun r => Answers spec (r.map f)) v) : wp spec (Prog.map f p) (Answers spec) v :=
  wp_bind (wp_mono (fun r _ h => by cases r <;> exact h) h)

/-- What the program `p` does alone, with its answer in the form `f`. -/
abbrev Solo (p : Tx α) (f : α → Response) (d : Database) (r : Except Error Response)
    (d' : Database) : Prop :=
  (Prog.map f p).alone d = (r, d')

theorem Solo.of_run {d d' : Database} {a : Except Error α} {σ : Session}
    (h : p.run d ∅ = (a, d', σ)) : Solo p f d (a.map f) d' :=
  Prog.alone_map (by rw [Prog.alone, h])

/-- The answer and the database that `outcome` says. -/
def Gives (outcome : Database → Except Error α × Database) (f : α → Response) (d : Database)
    (r : Except Error Response) (d' : Database) : Prop :=
  Inv d ∧ r = (outcome d).1.map f ∧ d' = (outcome d).2

/-- The program `p` does atomically what `outcome` says. -/
def Atomically (p : Tx α) (outcome : Database → Except Error α × Database) (f : α → Response) :
    Prop :=
  ∀ d (hd : Inv d), wp (Gives outcome f) (Prog.map f p) (Answers (Gives outcome f))
    (Point.start Write (Except Error Response) (P := protocol) d hd)

variable {outcome : Database → Except Error α × Database}

theorem gives_of_outcome {r : Except Error α} {d d' : Database} (hi : Inv d)
    (h : outcome d = (r, d')) : Gives outcome f d (r.map f) d' :=
  ⟨hi, by rw [h], by rw [h]⟩

theorem could_of_outcome {r : Except Error α} {v : CallPoint} (hp : v.promise = none)
    (h : outcome v.db = (r, v.db)) : Could (Gives outcome f) (r.map f) v :=
  Could.here hp (gives_of_outcome v.inv h)

theorem except_map_injective {f : α → Response} (hf : Function.Injective f) :
    Function.Injective (Except.map f : Except Error α → Except Error Response) := by
  rintro (e | a) (e' | a') h <;> simp only [Except.map, Except.error.injEq, Except.ok.injEq,
    reduceCtorEq] at h ⊢
  · exact h
  · exact hf h

/-- **What is done atomically is done alone.** -/
theorem Atomically.alone (h : Atomically p outcome f) (hf : Function.Injective f) {d : Database}
    (hd : Inv d) : p.alone d = outcome d := by
  obtain ⟨-, h1, h2⟩ := wp_alone (h d hd)
  rw [Prog.alone_map (rfl : p.alone d = ((p.alone d).1, (p.alone d).2))] at h1 h2
  exact Prod.ext (except_map_injective hf h1) h2

theorem Atomically.solo (h : Atomically p outcome f) (hf : Function.Injective f) (d : Database)
    (hd : Inv d) : wp (Solo p f) (Prog.map f p) (Answers (Solo p f))
      (Point.start Write (Except Error Response) (P := protocol) d hd) := by
  have hspec : ∀ d r d', Gives outcome f d r d' → Solo p f d r d' := by
    rintro d r d' ⟨hi, rfl, rfl⟩
    exact Prog.alone_map (h.alone hf hi)
  refine wp_mono (fun r v hv => ?_) (wp_mono_spec hspec (h d hd))
  exact hv.imp id fun ⟨hp, d, hd, hs⟩ => ⟨hp, d, hd, hspec _ _ _ hs⟩

end

/-! ## `cancel` and `confirm` -/

/-- What `cancel` and `confirm` answer and leave when they find the reservation. -/
def moveOutcome (s : ReservationStatus) (now : Instant) (w : Whole) (d : Database) :
    Except Error ReservationDetailResponse × Database :=
  if w.reservation.status = s then (.ok w.detail, d)
  else if w.reservation.status ≠ .reserved then (.error .reservationTransitionConflictError, d)
  else if w.reservation.expiresAt < now then
    (.error .reservationTransitionConflictError, d.finish w.reservation.id .expired)
  else (.ok (w.finish s).detail, d.finish w.reservation.id s)

section
variable {s : ReservationStatus} {now : Instant} {w : Whole} {σ : Session} {d : Database}

/-- The guarded transition of a locked reservation. -/
theorem settled_transition (s : ReservationStatus) {K : Database → Prop} (hσ : σ.writes = [])
    (hK : ∀ d, K d → Inv d ∧ w.In d) (hd : ∃ d, K d) (hr : w.reservation.status = .reserved) :
    Settled K (rollbackOnInventoryConflict (transitionReserved w.reservation s)) σ (.ok ())
      ⟨w.writes s, σ.locks ++ w.locks⟩ := by
  have hview : ∀ d : Database, σ.view d = d := σ.view_of_no_writes hσ
  have := settled_transitionReserved (σ := σ) s (fun d hd => (hview d).symm ▸ hK d hd) hd hr
  rw [hσ, List.nil_append] at this
  exact Settled.tryCatch_ok this

theorem settled_detail_after (s : ReservationStatus) {K : Database → Prop} {Λ : List Lock}
    (hK : ∀ d, K d → Inv d ∧ w.In d) :
    Settled K (toDetailResponse { w.reservation with status := s }) ⟨w.writes s, Λ⟩
      (.ok (w.finish s).detail) ⟨w.writes s, Λ⟩ :=
  settled_toDetailResponse (w := w.finish s) fun d hd => by
    rw [Whole.view_writes (hK d hd).1 (hK d hd).2 s Λ]
    exact (hK d hd).2.finish_self s

/-- **Once the reservation is locked, `cancel` and `confirm` do what they would
    do alone.** -/
theorem wp_moveLocked {spec : Database → Except Error Response → Database → Prop}
    {f : ReservationDetailResponse → Response} (hs : s ≠ .reserved) (hσ : σ.writes = [])
    (hl : .reservation w.reservation.id ∈ σ.locks)
    (hspec : ∀ d, Inv d → w.In d →
      spec d ((moveOutcome s now w d).1.map f) (moveOutcome s now w d).2)
    {v : CallPoint} (hv : v.At σ w.In) :
    wp spec (moveLocked s now w.reservation) (fun r => Answers spec (r.map f)) v := by
  have hkeep : protocol.Keeps σ.locks fun d => Inv d ∧ w.In d :=
    Protocol.Keeps.inv.and (Whole.keeps_in hl)
  have hview : ∀ d : Database, σ.view d = d := σ.view_of_no_writes hσ
  have hv' : v.At σ fun d => Inv d ∧ w.In d := ⟨hv.promise, hv.session, v.inv, hv.known⟩
  have hd : ∃ d, Inv d ∧ w.In d := ⟨v.db, v.inv, hv.known⟩
  unfold moveLocked moveOutcome at *
  split_ifs at hspec ⊢ with h1 h2 h3
  · refine wp_bind (Settled.wp (settled_toDetailResponse fun d hd => (hview d).symm ▸ hd.2) hkeep
      (fun v hv => ?_) hv')
    refine wp_rollback ?_ (Could.here hv.promise (hspec v.db hv.known.1 hv.known.2))
    exact fun v hv => hv.answers
  · refine wp_rollback ?_ (Could.here hv.promise (hspec v.db v.inv hv.known))
    exact fun v hv => hv.answers
  · have hr : w.reservation.status = .reserved := by simpa using h2
    refine wp_bind (Settled.wp (settled_transition .expired hσ (fun _ h => h) hd hr) hkeep
      (fun v hv => ?_) hv')
    have hkeep' := hkeep.mono (List.subset_append_left σ.locks w.locks)
    refine wp_bind (wp_commitTx_at hkeep' ?_ (fun v hv => Or.inl hv) hv)
    rintro d - ⟨hi, hw⟩
    rw [Whole.view_writes hi hw]
    exact ⟨.single (Whole.effect hi hw hr (by simp) (List.subset_append_right _ _)), hspec d hi hw⟩
  · have hr : w.reservation.status = .reserved := by simpa using h2
    refine wp_bind (Settled.wp (settled_transition s hσ (fun _ h => h) hd hr) hkeep
      (fun v hv => ?_) hv')
    have hkeep' := hkeep.mono (List.subset_append_left σ.locks w.locks)
    refine wp_bind (Settled.wp (settled_detail_after s fun _ h => h) hkeep' (fun v hv => ?_) hv)
    refine wp_bind (wp_commitTx_at hkeep' ?_ (fun v hv => Or.inl hv) hv)
    rintro d - ⟨hi, hw⟩
    rw [Whole.view_writes hi hw]
    exact ⟨.single (Whole.effect hi hw hr hs (List.subset_append_right _ _)), hspec d hi hw⟩

end

section
variable {reservationId : UUID} {visitorSession : VisitorSession}

theorem ownedReservation_eq_some {d : Database} (hi : Inv d) {u : UUID} {o : Option UUID}
    {x : Reservation} : d.ownedReservation reservationId u o = some x ↔
      x ∈ d.reservations ∧ x.id = reservationId ∧ x.ownedBy u o := by
  rw [Database.ownedReservation,
    Table.find?_eq_some_iff hi.reservationIds (k := reservationId) (by simp +contextual)]
  simp

/-- What `cancel` and `confirm` answer and leave. -/
def moveToOutcome (s : ReservationStatus) (reservationId : UUID) (visitorSession : VisitorSession)
    (now : Instant) (d : Database) : Except Error ReservationDetailResponse × Database :=
  match d.ownedReservation reservationId visitorSession.id visitorSession.userId with
  | none => (.error .reservationNotFoundError, d)
  | some x => moveOutcome s now (.of d x) d

/-- **`cancel` and `confirm` take effect atomically.** -/
theorem atomically_moveTo {s : ReservationStatus} (hs : s ≠ .reserved) (now : Instant)
    (f : ReservationDetailResponse → Response) :
    Atomically (moveTo s reservationId visitorSession now)
      (moveToOutcome s reservationId visitorSession now) f := by
  intro d hd
  refine wp_map (wp_bind (wp_bind (wp_exec (A := Point.At ∅ fun _ => True) (Point.At.stable .const)
    (fun v hv => hv.promise) (fun v _ hv _ => ?_) ⟨rfl, rfl, trivial⟩)))
  obtain ⟨hp, hσ, -⟩ := hv
  have hi : Inv v.db := v.inv
  simp only [Stmt.ofPlan, hσ, Session.view_empty]
  cases h : v.db.ownedReservation reservationId visitorSession.id visitorSession.userId with
  | none =>
    refine wp_rollback ?_ (could_of_outcome (r := .error Error.reservationNotFoundError) hp
      (by simp only [moveToOutcome, Point.goto_db, h]))
    exact fun v hv => hv.answers
  | some x =>
    obtain ⟨hx, hid, hown⟩ := (ownedReservation_eq_some hi).1 h
    refine wp_moveLocked (w := .of v.db x) hs rfl List.mem_cons_self (fun d hi hw => ?_)
      ⟨hp, rfl, Whole.of_in hi hx⟩
    have hd : d.ownedReservation reservationId visitorSession.id visitorSession.userId = some x :=
      (ownedReservation_eq_some hi).2 ⟨hw.mem, hid, hown⟩
    have hof : Whole.of d x = .of v.db x := hw.eq_of
    refine ⟨hi, ?_, ?_⟩ <;> simp only [moveToOutcome, hd, hof]

end

/-! ## `expire_batch` -/

/-- The writes of a batch, and that it returns how many it has processed. -/
theorem run_expireLocked {d : Database} {σ : Session} {ws : List Whole} (hσ : σ.writes = [])
    (hi : Inv d) (hw : ∀ w ∈ ws, w.In d) (hn : (ws.map fun w => w.reservation.id).Nodup)
    (hr : ∀ w ∈ ws, w.reservation.status = .reserved) :
    ∃ σ', (expireLocked (ws.map Whole.reservation)).run d σ =
      (.ok ws.length, d.finishAll (ws.map fun w => w.reservation.id) .expired, σ') := by
  have hview : ∀ d : Database, σ.view d = d := σ.view_of_no_writes hσ
  unfold expireLocked
  split_ifs with h
  · obtain rfl := List.map_eq_nil_iff.1 h
    exact ⟨_, rfl⟩
  · have := (settled_expireEach (K := (d = ·)) (σ := σ)
      (by rintro _ rfl; rw [hview]; exact ⟨hi, hw⟩) ⟨d, rfl⟩ hn hr).run rfl
    simp [Prog.run_bind, this, hσ, view_transitions .expired _ (by simp) hi hw hn hr]

/-- **Once its rows are locked, a batch does what it would do alone.** -/
theorem wp_expireLocked {spec : Database → Except Error Response → Database → Prop} {f : ℕ → Response}
    {σ : Session} {ws : List Whole} (hσ : σ.writes = [])
    (hl : ∀ w ∈ ws, .reservation w.reservation.id ∈ σ.locks)
    (hn : (ws.map fun w => w.reservation.id).Nodup)
    (hr : ∀ w ∈ ws, w.reservation.status = .reserved)
    (hspec : ∀ d, Inv d → (∀ w ∈ ws, w.In d) → spec d (.ok (f ws.length))
      (d.finishAll (ws.map fun w => w.reservation.id) .expired))
    {v : CallPoint} (hv : v.At σ fun d => ∀ w ∈ ws, w.In d) :
    wp spec (expireLocked (ws.map Whole.reservation)) (fun r => Answers spec (r.map f)) v := by
  have hin : protocol.Keeps σ.locks fun d => ∀ w ∈ ws, w.In d :=
    Protocol.Keeps.all fun w hw => Whole.keeps_in (hl w hw)
  have hkeep := Protocol.Keeps.inv.and hin
  have hview : ∀ d : Database, σ.view d = d := σ.view_of_no_writes hσ
  unfold expireLocked
  split_ifs with h
  · obtain rfl := List.map_eq_nil_iff.1 h
    refine wp_rollback ?_ (Could.here hv.promise (hspec v.db v.inv hv.known))
    exact fun v hv => hv.answers
  · refine wp_bind (Settled.wp (settled_expireEach (fun d hd => (hview d).symm ▸ hd)
      ⟨v.db, v.inv, hv.known⟩ hn hr) hkeep (fun v hv => ?_)
      ⟨hv.promise, hv.session, v.inv, hv.known⟩)
    refine wp_bind (wp_commitTx_at (hkeep.mono (List.subset_append_left _ _)) ?_
      (fun v hv => Or.inl hv) hv)
    rintro d - ⟨hi, hw⟩
    rw [hσ, List.nil_append, view_transitions .expired _ (by simp) hi hw hn hr]
    exact ⟨effects_finishAll (by simp) hi hw hn hr (List.subset_append_right _ _), hspec d hi hw⟩

/-- The rows that `lock_expired_reservations` picks when some are locked. -/
theorem expirable_pick {d : Database} (hi : Inv d) (batchSize : ℕ) (now : Instant)
    (reservationIds : Option (List UUID)) (free : Reservation → Bool) :
    Expirable d batchSize now reservationIds
      (((d.expiredReservations now reservationIds).filter free).take batchSize) := by
  refine ⟨List.length_take_le _ _, ?_, fun x hx => ?_⟩
  · have hsub : (((d.expiredReservations now reservationIds).filter free).take batchSize).Sublist
        (d.expiredReservations now reservationIds) :=
      (List.take_sublist _ _).trans List.filter_sublist
    refine List.Nodup.sublist (hsub.map _) ?_
    rw [Database.expiredReservations, ((orderBy_perm _).map _).nodup_iff]
    exact hi.reservationIds.sublist (List.filter_sublist.map _)
  · have hx := List.mem_of_mem_filter (List.mem_of_mem_take hx)
    rw [Database.expiredReservations, mem_orderBy, List.mem_filter] at hx
    obtain ⟨hmem, hp⟩ := hx
    simp only [Bool.and_eq_true, decide_eq_true_eq, Option.all_eq_true] at hp
    exact ⟨hmem, hp.1.1, hp.1.2, fun ids hids => by simpa using hp.2 ids hids⟩

theorem Expirable.wholes {d : Database} (hi : Inv d) {batchSize : ℕ} {now : Instant}
    {reservationIds : Option (List UUID)} {xs : List Reservation}
    (h : Expirable d batchSize now reservationIds xs) :
    ∃ ws : List Whole, ws.map Whole.reservation = xs ∧ (∀ w ∈ ws, w.In d) := by
  refine ⟨xs.map (Whole.of d), by simp [Whole.of, Function.comp_def], ?_⟩
  simp only [List.mem_map]
  rintro _ ⟨x, hx, rfl⟩
  exact Whole.of_in hi (h.mem x hx).1

/-- **`expire_batch` takes effect atomically on the rows it has locked.** -/
theorem sound_expireBatch {settings : Settings} {batchSize : ℕ} {now : Instant}
    {reservationIds : Option (List UUID)} (d : Database) (hd : Inv d) :
    wp ((Call.expireBatch batchSize now reservationIds).spec settings)
      ((Call.expireBatch batchSize now reservationIds).prog settings)
      (Answers ((Call.expireBatch batchSize now reservationIds).spec settings))
      (Point.start Write (Except Error Response) (P := protocol) d hd) := by
  refine wp_map (wp_bind (wp_exec (A := Point.At ∅ fun _ => True) (Point.At.stable .const)
    (fun v hv => hv.promise) (fun v busy hv _ => ?_) ⟨rfl, rfl, trivial⟩))
  obtain ⟨hp, hσ, -⟩ := hv
  have hi : Inv v.db := v.inv
  simp only [Stmt.skipLocked, hσ, Session.view_empty, Session.empty_writes, Session.empty_locks,
    List.nil_append]
  have hpick := expirable_pick hi batchSize now reservationIds fun r => !busy (.reservation r.id)
  have hfree : ∀ x ∈ ((v.db.expiredReservations now reservationIds).filter fun r =>
      !busy (.reservation r.id)).take batchSize, busy (.reservation x.id) = false := fun x hx => by
    simpa using (List.mem_filter.1 (List.mem_of_mem_take hx)).2
  generalize ((v.db.expiredReservations now reservationIds).filter fun r =>
    !busy (.reservation r.id)).take batchSize = xs at hpick hfree ⊢
  have hlocks : (xs.map fun r => Lock.reservation r.id).filter (fun l => !busy l) =
      xs.map fun r => Lock.reservation r.id := by
    refine List.filter_eq_self.2 fun l hl => ?_
    obtain ⟨x, hx, rfl⟩ := List.mem_map.1 hl
    simpa using hfree x hx
  obtain ⟨ws, rfl, hw⟩ := hpick.wholes hi
  have hn : (ws.map fun w => w.reservation.id).Nodup := by
    simpa [Function.comp_def] using hpick.nodup
  have hr : ∀ w ∈ ws, w.reservation.status = .reserved := fun w hw =>
    (hpick.mem _ (List.mem_map_of_mem hw)).2.1
  rw [hlocks]
  refine wp_expireLocked rfl (fun w hw => ?_) hn hr (fun d hi hw => ?_) ⟨hp, rfl, hw⟩
  · exact List.mem_map_of_mem (List.mem_map_of_mem hw)
  obtain ⟨σ', hrun⟩ := run_expireLocked (σ := ∅) rfl hi hw hn hr
  refine ⟨ws.map Whole.reservation, ⟨hpick.length, hpick.nodup, fun x hx => ?_⟩, Solo.of_run hrun⟩
  obtain ⟨w, hwm, rfl⟩ := List.mem_map.1 hx
  exact ⟨(hw w hwm).mem, (hpick.mem _ hx).2⟩

end TicketReservation
