/-
  The two ways in which the hold of a seat reservation expires.

  `expire_reservations_for_seats` expires, set-wise, the reservations with a
  lapsed hold on some seats; `_transition_reserved` expires one reservation
  with its children.

  * `expirations_agree`: on the reservations whose holds expired before the
    instant, both do the same, whatever the order of the transitions;
  * `decisions_agree_iff`: the code decides whether a hold has lapsed in three
    places; they agree at every instant but `expires_at` itself, where
    `expire_reservations_for_seats` compares with `<=` and the others with `<`.
-/
import TicketReservation.Conflicts

namespace TicketReservation

open Txn ReservationLifecycleService

variable {settings : Settings} {d : Database} {seatIds : List UUID} {t : Instant}

/-- What `expire_reservations_for_seats` writes when nothing else runs. -/
theorem run_expireReservationsForSeats (hd : Inv d) (seatIds : List UUID) (t : Instant) :
    ∃ σ, (expireReservationsForSeats seatIds t).run d ∅ = (.ok (), d, σ) ∧
      σ.view d = d.expireSeats (d.staleHolders seatIds t) := by
  set ids := d.staleHolders seatIds t with hids
  have hread : (execute fun d : Database => { result := d.staleHolders seatIds t }).run d
      (∅ : Session) = ((.ok ids : Except Error _), d, ∅) :=
    (settled_read (K := (d = ·)) ids (by rintro _ rfl; rfl)).run rfl
  rw [expireReservationsForSeats, Prog.bind_eq, Prog.run_bind_ok hread]
  split_ifs with hnil
  · refine ⟨∅, rfl, ?_⟩
    rw [hnil, Database.expireSeats_nil]
    rfl
  · have hlapsed : Lapsed seatIds t ids d := lapsed_staleHolders seatIds t d
    have hlock : Settled (d = ·) (lockEach .reservation (fun d id => d.reservations.any fun r =>
        r.id = id) ids) ∅ (.ok ids) ⟨[], [] ++ ids.map .reservation⟩ := by
      refine settled_lockEach ?_
      rintro _ rfl x hx
      obtain ⟨r, hr, hrx, -⟩ := hlapsed.parent hd hx
      exact List.any_eq_true.2 ⟨r, hr, by simpa using hrx⟩
    have hexpire := settled_expireHolds (σ := ⟨[], [] ++ ids.map .reservation⟩) (K := (d = ·)) rfl
      (show ∀ d', d = d' → d'.heldRows ids = d.heldRows ids ∧
        d'.heldReservations ids = d.heldReservations ids by rintro _ rfl; exact ⟨rfl, rfl⟩)
    refine ⟨_, (hlock.bind hexpire).run rfl, ?_⟩
    rw [view_expireHolds hd]
    exact Database.expireSeats_congr fun x => hlapsed.mem_heldReservations hd

/-! ## The two ways agree -/

/-- The lifecycle transition of each reservation to EXPIRED, one after another. -/
def expireInTurn : List Reservation → Tx Unit
  | [] => return ()
  | reservation :: reservations => do
    transitionReserved reservation .expired
    Prog.commitTx
    expireInTurn reservations

/-- The reservations with a RESERVED hold on one of the seats that expired before `t`. -/
def Database.lapsedHolders (d : Database) (seatIds : List UUID) (t : Instant) : List Reservation :=
  d.reservations.filter fun r =>
    (d.seatsOf r.id).any fun q => q.seatId ∈ seatIds && q.status = .reserved && q.expiresAt < t

/-- Exactly the reservations `H` have expired, each with all its seats. -/
structure Expires (H : List Reservation) (d d' : Database) : Prop where
  reservations : d'.reservations =
    d.reservations.map fun r => if r ∈ H then { r with status := .expired } else r
  seats : d'.reservationSeats = d.reservationSeats.map fun q =>
    if q.reservationId ∈ H.map Reservation.id then { q with status := .expired } else q
  items : d'.reservationItems = d.reservationItems
  ticketTypes : d'.ticketTypes = d.ticketTypes

/-- One transition in a transaction of its own. -/
theorem run_expire (hd : Inv d) {x : Reservation} (hx : x ∈ d.reservations)
    (hr : x.status = .reserved) : ∃ σ, (transitionReserved x .expired).run d ∅ = (.ok (), d, σ) ∧
      σ.view d = d.finish x.id .expired := by
  have hw := Whole.of_in hd hx
  have hrun := (settled_transitionReserved (σ := (∅ : Session)) (K := (d = ·)) (w := .of d x) .expired
    (by rintro _ rfl; exact ⟨hd, hw⟩) ⟨d, rfl⟩ hr).run rfl
  exact ⟨_, hrun, Whole.view_writes hd hw .expired _⟩

theorem run_expireInTurn (hd : Inv d) {H : List Reservation} (hH : ∀ x ∈ H, x ∈ d.reservations)
    (hn : H.Nodup) (hr : ∀ x ∈ H, x.status = .reserved) :
    (expireInTurn H).run d ∅ = (.ok (), d.finishAll (H.map Reservation.id) .expired, ∅) := by
  induction H generalizing d with
  | nil => rfl
  | cons x H ih =>
    have hx := hH x List.mem_cons_self
    obtain ⟨hxH, hn⟩ := List.nodup_cons.1 hn
    obtain ⟨σ, hrun, hview⟩ := run_expire hd hx (hr x List.mem_cons_self)
    rw [expireInTurn, Prog.bind_eq, Prog.run_bind_ok hrun, Prog.bind_eq,
      Prog.run_bind_ok (Prog.run_commitTx d σ), hview]
    refine ih (hd.finish hx (hr x List.mem_cons_self) (by simp)) (fun y hy => ?_) hn
      fun y hy => hr y (List.mem_cons_of_mem _ hy)
    -- the others are still there as they were
    have hyd := hH y (List.mem_cons_of_mem _ hy)
    refine List.mem_map.2 ⟨y, hyd, if_neg fun hid => hxH ?_⟩
    exact hd.eq_of_id hyd hx hid ▸ hy

theorem mem_lapsedHolders {r : Reservation} :
    r ∈ d.lapsedHolders seatIds t ↔ r ∈ d.reservations ∧ ∃ q ∈ d.reservationSeats,
      q.reservationId = r.id ∧ q.seatId ∈ seatIds ∧ q.status = .reserved ∧ q.expiresAt < t := by
  simp only [Database.lapsedHolders, List.mem_filter, List.any_eq_true, Database.seatsOf,
    Bool.and_eq_true, decide_eq_true_eq, and_assoc]

/-- **The two ways to expire holds are the same.** -/
theorem expirations_agree (h : Reachable settings d)
    (hb : ∀ q ∈ d.reservationSeats, q.seatId ∈ seatIds → q.status = .reserved → q.expiresAt ≠ t)
    {H : List Reservation} (hH : H.Perm (d.lapsedHolders seatIds t)) :
    ∃ d', Prog.alone (do expireReservationsForSeats seatIds t; Prog.commitTx) d = (.ok (), d') ∧
      (expireInTurn H).alone d = (.ok (), d') ∧ Expires H d d' := by
  have hd := h.inv
  have hmem : ∀ {r : Reservation}, r ∈ H ↔ r ∈ d.lapsedHolders seatIds t := hH.mem_iff
  have hn : (H.map Reservation.id).Nodup :=
    (hH.map _).nodup_iff.2 (hd.reservationIds.sublist (List.filter_sublist.map _))
  have hholds : ∀ x ∈ H, x ∈ d.reservations ∧ x.status = .reserved ∧ x.reservationType = .seats := by
    intro x hx
    obtain ⟨hxd, q, hq, hqx, -, hst, -⟩ := mem_lapsedHolders.1 (hmem.1 hx)
    obtain ⟨r, hr, hrq, hty, hst', -⟩ := hd.seat q hq
    obtain rfl := hd.eq_of_id hr hxd (hrq.trans hqx)
    exact ⟨hxd, hst' ▸ hst, hty⟩
  have hstale : ∀ x, x ∈ H.map Reservation.id ↔ x ∈ d.staleHolders seatIds t := by
    intro x
    rw [mem_staleHolders, List.mem_map]
    constructor
    · rintro ⟨r, hr, rfl⟩
      obtain ⟨-, q, hq, hqr, hs, hst, hlt⟩ := mem_lapsedHolders.1 (hmem.1 hr)
      exact ⟨q, hq, hqr, hs, hst, hlt.le⟩
    · -- no hold expires exactly at `t`
      rintro ⟨q, hq, rfl, hs, hst, hle⟩
      obtain ⟨r, hr, hrq, -⟩ := hd.seat q hq
      refine ⟨r, hmem.2 (mem_lapsedHolders.2 ⟨hr, q, hq, hrq.symm, hs, hst, ?_⟩), hrq⟩
      exact lt_of_le_of_ne hle (hb q hq hs hst)
  obtain ⟨σ, hrun, hview⟩ := run_expireReservationsForSeats hd seatIds t
  refine ⟨d.expireSeats (H.map Reservation.id), ?_, ?_, ?_⟩
  · rw [Database.expireSeats_congr hstale, ← hview, Prog.alone, Prog.bind_eq, Prog.run_bind_ok hrun,
      Prog.run_commitTx]
  · rw [Prog.alone, run_expireInTurn hd (fun x hx => (hholds x hx).1) hn.of_map
      fun x hx => (hholds x hx).2.1, finishAll_eq_expireSeats hd ?_ hn]
    intro x hx
    obtain ⟨r, hr, rfl⟩ := List.mem_map.1 hx
    exact ⟨r, (hholds r hr).1, rfl, (hholds r hr).2⟩
  · refine ⟨List.map_congr_left fun r hr => ?_, rfl, rfl, rfl⟩
    have : r.id ∈ H.map Reservation.id ↔ r ∈ H := by
      refine ⟨fun hid => ?_, List.mem_map_of_mem⟩
      obtain ⟨x, hx, hxr⟩ := List.mem_map.1 hid
      exact hd.eq_of_id (hholds x hx).1 hr hxr ▸ hx
    simp only [this]

theorem expirations_agree_held :
    ∃ d', Prog.alone (do expireReservationsForSeats [30, 31] 1000000000; Prog.commitTx)
        Sample.seatHeld = (.ok (), d') ∧
      (expireInTurn [Sample.seatReservation]).alone Sample.seatHeld = (.ok (), d') ∧
      Expires [Sample.seatReservation] Sample.seatHeld d' :=
  expirations_agree Sample.seatHeld_reachable (by decide) (.of_eq (by decide))

/-! ## One instant? -/

/-- The reservation is EXPIRED. -/
def Database.HasExpired (d : Database) (R : Reservation) : Prop :=
  ∃ r ∈ d.reservations, r.id = R.id ∧ r.status = .expired

instance (d : Database) (R : Reservation) : Decidable (d.HasExpired R) :=
  inferInstanceAs (Decidable (∃ r ∈ d.reservations, _))

/-- One of the seats is a seat of `R`. -/
def Database.Touches (d : Database) (R : Reservation) (seatIds : List UUID) : Prop :=
  ∃ q ∈ d.seatsOf R.id, q.seatId ∈ seatIds

instance (d : Database) (R : Reservation) (seatIds : List UUID) : Decidable (d.Touches R seatIds) :=
  inferInstanceAs (Decidable (∃ q ∈ d.seatsOf R.id, _))

/-- Another visitor asks for seats of `R`, and nothing but `R` is in the way: the key is fresh and can
    be stored, the seats exist, and every other hold on them has lapsed or is over. -/
structure Competes (d : Database) (R : Reservation) (t : Instant) (visitorSession : VisitorSession)
    (payload : SeatReservationCreate) (uuid4 : ℕ → UUID) : Prop where
  session : visitorSession ∈ d.visitorSessions
  other : visitorSession.id ≠ R.visitorSessionId
  storable : Storable payload.idempotencyKey
  fresh : ∀ kind, ¬ d.KeyUsed visitorSession.id payload.idempotencyKey kind
  ids : FreshIds d uuid4
  seats : d.HasSeats payload.eventId payload.seatIds
  touches : d.Touches R payload.seatIds
  free : ∀ q ∈ d.reservationSeats, q.seatId ∈ payload.seatIds → q.status.active →
    q.reservationId = R.id ∨ (q.status = .reserved ∧ q.expiresAt ≤ t)

/-- **The decisions of the code whether the hold of `R` has lapsed at `t`.** -/
inductive Decision (settings : Settings) (d : Database) (R : Reservation) (t : Instant) : Prop → Prop
  /-- in a transaction that reserves seats of `R`, before its `INSERT`s -/
  | seize (seatIds : List UUID) : d.Touches R seatIds → Decision settings d R t
      ((((expireReservationsForSeats seatIds t).run d ∅).2.2.view d).HasExpired R)
  /-- in a whole call of `reserve` -/
  | reserve (visitorSession : VisitorSession) (payload : SeatReservationCreate) (uuid4 : ℕ → UUID) :
      Competes d R t visitorSession payload uuid4 → Decision settings d R t
      (∃ a d', (SeatReservationService.reserve settings visitorSession payload.eventId payload.seatIds
        payload.idempotencyKey uuid4 t).alone d = (.ok a, d') ∧ d'.HasExpired R)
  /-- in a call of its owner -/
  | confirm (visitorSession : VisitorSession) : R.ownedBy visitorSession.id visitorSession.userId →
      Decision settings d R t (∃ d', (confirm R.id visitorSession t).alone d =
        (.error .reservationTransitionConflictError, d') ∧ d'.HasExpired R)
  | cancel (visitorSession : VisitorSession) : R.ownedBy visitorSession.id visitorSession.userId →
      Decision settings d R t (∃ d', (cancel R.id visitorSession t).alone d =
        (.error .reservationTransitionConflictError, d') ∧ d'.HasExpired R)
  /-- in a worker whose batch is large enough -/
  | worker (batchSize : ℕ) : d.reservations.length ≤ batchSize → Decision settings d R t
      (∃ xs, ((lockExpiredReservations t batchSize none).run d ∅).1 = .ok xs ∧ R ∈ xs)

/-- Any two decisions agree. -/
def DecisionsAgree (settings : Settings) (d : Database) (R : Reservation) (t : Instant) : Prop :=
  ∀ P Q, Decision settings d R t P → Decision settings d R t Q → (P ↔ Q)

section
variable {R : Reservation} (hd : Inv d) (hR : R ∈ d.reservations) (hst : R.status = .reserved)
include hd hR hst

/-- The copies of `expires_at` agree, so any touched seat tells whether the hold has lapsed. -/
theorem mem_staleHolders_of_touches (h : d.Touches R seatIds) :
    R.id ∈ d.staleHolders seatIds t ↔ R.expiresAt ≤ t := by
  have hex : ∀ q ∈ d.reservationSeats, q.reservationId = R.id → q.expiresAt = R.expiresAt := by
    intro q hq hqR
    obtain ⟨r, hr, hrq, -, -, hex, -⟩ := hd.seat q hq
    rw [hex, hd.eq_of_id hr hR (hrq.trans hqR)]
  rw [mem_staleHolders]
  constructor
  · rintro ⟨q, hq, hqR, -, -, hle⟩
    rwa [← hex q hq hqR]
  · intro hle
    obtain ⟨q, hq, hs⟩ := h
    rw [Database.seatsOf, List.mem_filter, decide_eq_true_eq] at hq
    exact ⟨q, hq.1, hq.2, hs, (hd.seat_status hR q hq.1 hq.2).trans hst, by rwa [hex q hq.1 hq.2]⟩

theorem hasExpired_expireSeats {xs : List UUID} : (d.expireSeats xs).HasExpired R ↔ R.id ∈ xs := by
  constructor
  · rintro ⟨r', hr', hid, hex⟩
    obtain ⟨r, hr, rfl⟩ := List.mem_map.1 hr'
    by_contra hnot
    split_ifs at hid hex with hx
    · exact hnot (hid ▸ hx)
    · rw [hd.eq_of_id hr hR hid, hst] at hex
      cases hex
  · intro hx
    exact ⟨_, List.mem_map_of_mem hR, by rw [if_pos hx], by rw [if_pos hx]⟩

theorem seize_iff (h : d.Touches R seatIds) :
    (((expireReservationsForSeats seatIds t).run d ∅).2.2.view d).HasExpired R ↔ R.expiresAt ≤ t := by
  obtain ⟨σ, hrun, hview⟩ := run_expireReservationsForSeats hd seatIds t
  rw [hrun, hview, hasExpired_expireSeats hd hR hst, mem_staleHolders_of_touches hd hR hst h]

theorem reserve_iff {visitorSession : VisitorSession} {payload : SeatReservationCreate}
    {uuid4 : ℕ → UUID} (h : Competes d R t visitorSession payload uuid4) :
    (∃ a d', (SeatReservationService.reserve settings visitorSession payload.eventId payload.seatIds
      payload.idempotencyKey uuid4 t).alone d = (.ok a, d') ∧ d'.HasExpired R) ↔
      R.expiresAt ≤ t := by
  rw [(SeatReservationService.atomically_reserve payload.seatIds_ne_nil payload.seats_unique
      Response.seats).alone (fun _ _ h => by cases h; rfl) hd,
    SeatReservationService.reserveOutcome_fresh hd h.session h.ids h.storable h.fresh
      payload.seatIds_ne_nil payload.seats_unique h.seats]
  have htaken : d.SeatTaken payload.seatIds t ↔ ¬ R.expiresAt ≤ t := by
    rw [← mem_staleHolders_of_touches hd hR hst h.touches, ← not_iff_not, not_seatTaken_iff hd, not_not]
    constructor
    · intro hfree
      obtain ⟨q, hq, hs⟩ := h.touches
      rw [Database.seatsOf, List.mem_filter, decide_eq_true_eq] at hq
      have := hfree q hq.1 hs (by rw [hd.seat_status hR q hq.1 hq.2, hst]; rfl)
      rwa [hq.2] at this
    · intro hstale q hq hs ha
      rcases h.free q hq hs ha with hqR | ⟨hqst, hle⟩
      · exact hqR ▸ hstale
      · exact mem_staleHolders.2 ⟨q, hq, rfl, hs, hqst, hle⟩
  split_ifs with ht
  · exact iff_of_false (by simp) (htaken.1 ht)
  · refine iff_of_true ⟨_, _, rfl, ?_⟩ (not_not.1 (mt htaken.2 ht))
    have hle : R.expiresAt ≤ t := not_not.1 (mt htaken.2 ht)
    obtain ⟨q, hq, hs⟩ := h.touches
    have hmem := (mem_staleHolders_of_touches hd hR hst
      ⟨q, hq, (List.mem_insertionSort (· ≤ ·)).2 hs⟩).2 hle
    obtain ⟨r, hr, hid, hex⟩ := (hasExpired_expireSeats hd hR hst).2 hmem
    exact ⟨r, List.mem_append_left _ hr, hid, hex⟩

theorem moveTo_iff {s : ReservationStatus} (hs : s = .confirmed ∨ s = .cancelled)
    {visitorSession : VisitorSession} (ho : R.ownedBy visitorSession.id visitorSession.userId) :
    (∃ d', (moveTo s R.id visitorSession t).alone d = (.error .reservationTransitionConflictError, d') ∧
      d'.HasExpired R) ↔ R.expiresAt < t := by
  have hne : s ≠ .reserved := by rcases hs with rfl | rfl <;> simp
  rw [(atomically_moveTo hne t Response.detail).alone (fun _ _ h => by cases h; rfl) hd]
  rw [moveToOutcome_reserved hd hR hst hne ho]
  split_ifs with hlt
  · refine iff_of_true ⟨_, rfl, _, List.mem_map_of_mem hR, by simp, ?_⟩ hlt
    rw [Reservation.finish_status, if_pos rfl]
  · exact iff_of_false (by simp) hlt

omit hd in
theorem worker_iff {batchSize : ℕ} (h : d.reservations.length ≤ batchSize) :
    (∃ xs, ((lockExpiredReservations t batchSize none).run d ∅).1 = .ok xs ∧ R ∈ xs) ↔
      R.expiresAt < t := by
  have hall : (d.expiredReservations t none).take batchSize = d.expiredReservations t none := by
    refine List.take_of_length_le (le_trans ?_ h)
    rw [Database.expiredReservations, (orderBy_perm _).length_eq]
    exact List.length_filter_le _ _
  obtain ⟨Λ, hlock⟩ := run_lockExpiredReservations d t batchSize none
  have hmem : R ∈ d.expiredReservations t none ↔ R.expiresAt < t := by
    simp [Database.expiredReservations, hR, hst]
  rw [hlock, hall, ← hmem]
  constructor
  · rintro ⟨xs, hxs, hmem⟩
    cases hxs
    exact hmem
  · exact fun hmem => ⟨_, rfl, hmem⟩

/-- **When each decision is that the hold has lapsed**: from `expires_at` on where seats are
    reserved, after it elsewhere. -/
theorem Decision.iff {P : Prop} (h : Decision settings d R t P) :
    (P ↔ R.expiresAt ≤ t) ∨ (P ↔ R.expiresAt < t) := by
  cases h with
  | seize seatIds htouch => exact Or.inl (seize_iff hd hR hst htouch)
  | reserve visitorSession payload uuid4 hc => exact Or.inl (reserve_iff hd hR hst hc)
  | confirm visitorSession ho => exact Or.inr (moveTo_iff hd hR hst (Or.inl rfl) ho)
  | cancel visitorSession ho => exact Or.inr (moveTo_iff hd hR hst (Or.inr rfl) ho)
  | worker batchSize hb => exact Or.inr (worker_iff hR hst hb)

end

/-- **The decisions agree at every instant but `expires_at`.** -/
theorem decisions_agree_iff (h : Reachable settings d) {R : Reservation} (hR : R ∈ d.reservations)
    (hty : R.reservationType = .seats) (hst : R.status = .reserved) :
    DecisionsAgree settings d R t ↔ t ≠ R.expiresAt := by
  have hd := h.inv
  constructor
  · -- at `expires_at` a transaction that reserves the seats decides otherwise than a worker
    rintro hagree rfl
    obtain ⟨q, hq⟩ := List.exists_mem_of_ne_nil _ (hd.someSeats R hR hty)
    have htouch : d.Touches R [q.seatId] := ⟨q, hq, by simp⟩
    have hiff := hagree _ _ (.seize _ htouch) (.worker _ le_rfl)
    rw [seize_iff hd hR hst htouch, worker_iff hR hst le_rfl] at hiff
    exact lt_irrefl _ (hiff.1 le_rfl)
  · intro hne P Q hP hQ
    have hlt : R.expiresAt ≤ t ↔ R.expiresAt < t := ⟨fun hle => lt_of_le_of_ne hle hne.symm, le_of_lt⟩
    have key : ∀ {P}, Decision settings d R t P → (P ↔ R.expiresAt < t) := fun hP =>
      (hP.iff hd hR hst).elim (·.trans hlt) id
    exact (key hP).trans (key hQ).symm

theorem decisions_agree_held :
    DecisionsAgree Sample.settings Sample.seatHeld Sample.seatReservation 900000006 ↔
      (900000006 : Instant) ≠ Sample.seatReservation.expiresAt :=
  decisions_agree_iff Sample.seatHeld_reachable (by decide) rfl rfl

/-- At the instant `expires_at` Bob can take Alice's seat, and Alice can confirm it. -/
theorem decisions_disagree : Reachable Sample.settings Sample.seatHeld ∧
    Sample.seatReservation ∈ Sample.seatHeld.reservations ∧
    (∃ a d', (SeatReservationService.reserve Sample.settings Sample.bob 10 [30] "k"
      (Sample.uuid4 200) 900000005).alone Sample.seatHeld = (.ok a, d') ∧
        d'.HasExpired Sample.seatReservation) ∧
    (∃ a d', (confirm 100 Sample.alice 900000005).alone Sample.seatHeld = (.ok a, d')) ∧
    ¬ DecisionsAgree Sample.settings Sample.seatHeld Sample.seatReservation 900000005 := by
  have hd := Sample.seatHeld_reachable.inv
  have hR : Sample.seatReservation ∈ Sample.seatHeld.reservations := by decide
  refine ⟨Sample.seatHeld_reachable, hR, ?_, ?_, fun hagree => ?_⟩
  · exact ⟨⟨200, .reserved, .seats, 1800000005, [30]⟩, _, Prod.ext (by decide) rfl, by decide⟩
  · exact ⟨⟨100, 10, .confirmed, .seats, 900000005, [], [⟨30, .confirmed⟩]⟩, _,
      Prod.ext (by decide) rfl⟩
  · have htouch : Sample.seatHeld.Touches Sample.seatReservation [30] := by decide
    have hiff := hagree _ _ (.seize _ htouch) (.worker _ le_rfl)
    rw [seize_iff hd hR rfl htouch, worker_iff hR rfl le_rfl] at hiff
    exact lt_irrefl _ (hiff.1 le_rfl)

end TicketReservation
