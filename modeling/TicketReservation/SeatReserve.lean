/-
  What `SeatReservationService.reserve` does with a new key.

  The service compares two sorted lists, expires what has lapsed and lets the
  constraints decide.  `ReserveSpec` says the same in terms of the rows: which
  of the three answers is given, and which rows change.

  * `reserve_spec_iff`: this is what the service does, unless the key cannot be
    stored; then the look-up raises `DataError`.
-/
import TicketReservation.Conflicts

namespace TicketReservation

open Txn

/-- The reservation has a RESERVED hold on one of the seats that has lapsed at `t`. -/
def Database.HasLapsed (d : Database) (seatIds : List UUID) (t : Instant) (reservationId : UUID) :
    Prop :=
  ∃ q ∈ d.reservationSeats, q.reservationId = reservationId ∧ q.seatId ∈ seatIds ∧
    q.status = .reserved ∧ q.expiresAt ≤ t

instance (d : Database) (seatIds : List UUID) (t : Instant) (reservationId : UUID) :
    Decidable (d.HasLapsed seatIds t reservationId) :=
  inferInstanceAs (Decidable (∃ q ∈ d.reservationSeats, _))

/-- The keys that the payloads admit. -/
abbrev IdempotencyKey := { key : String // 1 ≤ key.length ∧ key.length ≤ 255 }

namespace SeatReservationService

/-- **The seats are reserved**: the reservations with a lapsed hold have expired with all their
    seats, there is one new reservation with the listed seats, and nothing else has changed. -/
structure Reserved (settings : Settings) (visitorSession : VisitorSession) (eventId : UUID)
    (seatIds : List UUID) (idempotencyKey : String) (uuid4 : ℕ → UUID) (t : Instant)
    (d d' : Database) : Prop where
  reservations : d'.reservations = (d.reservations.map fun r =>
      if d.HasLapsed seatIds t r.id then { r with status := .expired } else r) ++
    [⟨uuid4 0, eventId, visitorSession.id, visitorSession.userId, .reserved, .seats, idempotencyKey,
      t + settings.reservationTtlSeconds * 1000000⟩]
  reservationSeats : ∃ rows, d'.reservationSeats = (d.reservationSeats.map fun q =>
      if d.HasLapsed seatIds t q.reservationId then { q with status := .expired } else q) ++ rows ∧
    (rows.map ReservationSeat.seatId).Perm seatIds ∧ ∀ q ∈ rows, q.reservationId = uuid4 0 ∧
      q.status = .reserved ∧ q.expiresAt = t + settings.reservationTtlSeconds * 1000000
  others : d' = { d with
    reservations := d'.reservations, reservationSeats := d'.reservationSeats }

/-- **What `reserve` does with a new key.** -/
structure ReserveSpec (settings : Settings) (visitorSession : VisitorSession) (eventId : UUID)
    (seatIds : List UUID) (idempotencyKey : String) (uuid4 : ℕ → UUID) (t : Instant)
    (d : Database) (answer : Except Error SeatReservationResponse × Database) : Prop where
  notFound : answer.1 = .error .seatsNotFoundError ↔
    ∃ s ∈ seatIds, ∀ c ∈ d.seats, c.id = s → c.eventId ≠ eventId
  success : (∀ s ∈ seatIds, ∃ c ∈ d.seats, c.id = s ∧ c.eventId = eventId) →
    ((∃ a, answer.1 = .ok a) ↔ ∀ q ∈ d.reservationSeats, q.seatId ∈ seatIds → q.status.active →
      q.status = .reserved ∧ q.expiresAt ≤ t)
  conflict : (∀ s ∈ seatIds, ∃ c ∈ d.seats, c.id = s ∧ c.eventId = eventId) →
    (¬ ∃ a, answer.1 = .ok a) → answer.1 = .error .seatReservationConflictError
  reserved : ∀ a, answer.1 = .ok a →
    Reserved settings visitorSession eventId seatIds idempotencyKey uuid4 t d answer.2
  unchanged : ∀ e, answer.1 = .error e → answer.2 = d
  /-- the order of the list does not matter -/
  order : ∀ seatIds' : List UUID, seatIds'.Perm seatIds →
    (reserve settings visitorSession eventId seatIds' idempotencyKey uuid4 t).alone d = answer

section
variable {settings : Settings} {visitorSession : VisitorSession} {eventId : UUID}
  {seatIds seatIds' : List UUID} {idempotencyKey : String} {uuid4 : ℕ → UUID} {t : Instant}
  {d : Database}

/-- No seat is taken iff every active hold is RESERVED and has lapsed. -/
theorem not_seatTaken : ¬ d.SeatTaken seatIds t ↔ ∀ q ∈ d.reservationSeats, q.seatId ∈ seatIds →
    q.status.active → q.status = .reserved ∧ q.expiresAt ≤ t := by
  constructor
  · intro h q hq hs hact
    cases hst : q.status with
    | reserved => exact ⟨rfl, not_lt.1 fun hlt => h ⟨q, hq, hs, Or.inr ⟨hst, hlt⟩⟩⟩
    | confirmed => exact absurd ⟨q, hq, hs, Or.inl hst⟩ h
    | cancelled | expired => rw [hst] at hact; cases hact
  · rintro h ⟨q, hq, hs, hst | ⟨hst, hlt⟩⟩
    · have := (h q hq hs (by rw [hst]; rfl)).1
      rw [hst] at this
      cases this
    · exact absurd hlt (not_lt.2 (h q hq hs (by rw [hst]; rfl)).2)

/-- **What a new reservation leaves.** -/
theorem reserved_afterCreate :
    Reserved settings visitorSession eventId seatIds idempotencyKey uuid4 t d
      (afterCreate settings visitorSession eventId (seatIds.insertionSort (· ≤ ·)) idempotencyKey uuid4
        t d) := by
  have hiff : ∀ x, x ∈ d.staleHolders (seatIds.insertionSort (· ≤ ·)) t ↔ d.HasLapsed seatIds t x := by
    intro x
    simp only [mem_staleHolders, Database.HasLapsed, List.mem_insertionSort]
  refine ⟨?_, ⟨newSeats settings (seatIds.insertionSort (· ≤ ·)) uuid4 t, ?_, ?_, fun q hq => ?_⟩, rfl⟩
  · simp only [afterCreate, Database.addSeats, Database.expireSeats, hiff]
    rfl
  · simp only [afterCreate, Database.addSeats, Database.expireSeats, hiff]
  · rw [newSeats_seatIds]
    exact List.perm_insertionSort _ _
  · obtain ⟨h1, h2, h3, -⟩ := newSeats_mem hq
    exact ⟨h1, h2, h3⟩

/-- The service sorts the list first. -/
theorem reserve_perm (h : seatIds'.Perm seatIds) :
    reserve settings visitorSession eventId seatIds' idempotencyKey uuid4 t =
      reserve settings visitorSession eventId seatIds idempotencyKey uuid4 t := by
  have hsort : seatIds'.insertionSort (· ≤ ·) = seatIds.insertionSort (· ≤ ·) :=
    List.Perm.eq_of_pairwise' (List.pairwise_insertionSort _ _) (List.pairwise_insertionSort _ _)
      ((List.perm_insertionSort _ _).trans (h.trans (List.perm_insertionSort _ _).symm))
  simp only [reserve, hsort]

/-- A seat that is not one of the event is missed by `HasSeats`. -/
theorem not_hasSeats : ¬ d.HasSeats eventId seatIds ↔
    ∃ s ∈ seatIds, ∀ c ∈ d.seats, c.id = s → c.eventId ≠ eventId := by
  simp only [Database.HasSeats, not_forall, not_exists, not_and, exists_prop]

/-- `DataError` is none of the answers. -/
theorem not_reserveSpec_dataError : ¬ ReserveSpec settings visitorSession eventId seatIds
    idempotencyKey uuid4 t d (.error .dataError, d) := by
  intro hs
  have hseats : ∀ s ∈ seatIds, ∃ c ∈ d.seats, c.id = s ∧ c.eventId = eventId := by
    by_contra hno
    cases hs.notFound.2 (not_hasSeats.1 hno)
  cases hs.conflict hseats fun ⟨_, ha⟩ => nomatch ha

theorem alone_reserve (hd : Inv d) (hne : seatIds ≠ []) (hn : seatIds.Nodup) :
    (reserve settings visitorSession eventId seatIds idempotencyKey uuid4 t).alone d =
      reserveOutcome settings visitorSession eventId seatIds idempotencyKey uuid4 t d :=
  (atomically_reserve hne hn Response.seats).alone (fun _ _ h => Response.seats.inj h) hd

/-- With a new key that can be stored. -/
theorem reserveSpec_outcome (hd : Inv d) (hv : visitorSession ∈ d.visitorSessions)
    (hids : FreshIds d uuid4) (hne : seatIds ≠ []) (hn : seatIds.Nodup)
    (hkey : ∀ kind, ¬ d.KeyUsed visitorSession.id idempotencyKey kind)
    (hk : Storable idempotencyKey) :
    ReserveSpec settings visitorSession eventId seatIds idempotencyKey uuid4 t d
      (reserveOutcome settings visitorSession eventId seatIds idempotencyKey uuid4 t d) := by
  have horder : ∀ seatIds' : List UUID, seatIds'.Perm seatIds →
      (reserve settings visitorSession eventId seatIds' idempotencyKey uuid4 t).alone d =
        reserveOutcome settings visitorSession eventId seatIds idempotencyKey uuid4 t d :=
    fun seatIds' h => by rw [reserve_perm h, alone_reserve hd hne hn]
  by_cases hseats : d.HasSeats eventId seatIds
  · have hfound : ¬ ∃ s ∈ seatIds, ∀ c ∈ d.seats, c.id = s → c.eventId ≠ eventId :=
      fun h => not_hasSeats.2 h hseats
    have heq : reserveOutcome settings visitorSession eventId seatIds idempotencyKey uuid4 t d = _ :=
      reserveOutcome_fresh hd hv hids hk hkey hne hn hseats
    by_cases ht : d.SeatTaken seatIds t
    · simp only [ht, if_true] at heq
      rw [heq] at horder ⊢
      refine ⟨⟨by simp, fun h => absurd h hfound⟩, fun _ => ?_, fun _ _ => rfl, by simp,
        fun _ _ => rfl, horder⟩
      exact ⟨fun ⟨a, ha⟩ => (by cases ha), fun h => absurd ht (not_seatTaken.2 h)⟩
    · simp only [ht, if_false] at heq
      rw [heq] at horder ⊢
      refine ⟨⟨by simp, fun h => absurd h hfound⟩, fun _ => ?_, fun _ h => absurd ⟨_, rfl⟩ h,
        fun _ _ => reserved_afterCreate, by simp, horder⟩
      exact ⟨fun _ => not_seatTaken.1 ht, fun _ => ⟨_, rfl⟩⟩
  · have heq : reserveOutcome settings visitorSession eventId seatIds idempotencyKey uuid4 t d =
        (.error .seatsNotFoundError, d) := by
      have hne' := mt (eventSeats_eq_iff hd hn).1 hseats
      simp only [reserveOutcome, (seatLookup_eq_none hd).2 ⟨hk, hkey _⟩, ne_eq, hne',
        not_false_eq_true, if_true]
    rw [heq] at horder ⊢
    exact ⟨⟨fun _ => not_hasSeats.1 hseats, fun _ => rfl⟩, fun h => absurd h hseats,
      fun h => absurd h hseats, by simp, fun _ _ => rfl, horder⟩

/-- **With a new key `reserve` does what `ReserveSpec` says iff the key can be stored.** -/
theorem reserve_spec_iff (key : IdempotencyKey) (h : Reachable settings d)
    (hv : visitorSession ∈ d.visitorSessions) (hids : FreshIds d uuid4) (hne : seatIds ≠ [])
    (hn : seatIds.Nodup) (hkey : ∀ kind, ¬ d.KeyUsed visitorSession.id key.1 kind) :
    ReserveSpec settings visitorSession eventId seatIds key.1 uuid4 t d
        ((reserve settings visitorSession eventId seatIds key.1 uuid4 t).alone d) ↔
      Storable key.1 := by
  rw [alone_reserve h.inv hne hn]
  refine ⟨fun hs => ?_, reserveSpec_outcome h.inv hv hids hne hn hkey⟩
  by_cases hk : Storable key.1
  · exact hk
  · rw [reserveOutcome_unstorable hk] at hs
    exact absurd hs not_reserveSpec_dataError

end

end SeatReservationService

/-! ## Samples -/

open SeatReservationService

/-- Bob reserves both seats when Alice's hold on the first one has lapsed. -/
theorem reserve_spec_held : ReserveSpec Sample.settings Sample.bob 10 [31, 30] "k" (Sample.uuid4 200)
    900000005 Sample.seatHeld ((reserve Sample.settings Sample.bob 10 [31, 30] "k" (Sample.uuid4 200)
      900000005).alone Sample.seatHeld) ↔ Storable "k" :=
  reserve_spec_iff ⟨"k", by decide⟩ Sample.seatHeld_reachable (by decide)
    (Sample.freshIds (by decide) (by decide) (by decide)) (by decide) (by decide)
    (by rintro (_ | _) <;> simp only [Database.KeyUsed] <;> decide)

/-- With a key that contains U+0000 a free seat is not reserved. -/
theorem reserve_spec_unstorable : Reachable Sample.settings Sample.seatHeld ∧
    Sample.bob ∈ Sample.seatHeld.visitorSessions ∧ FreshIds Sample.seatHeld (Sample.uuid4 200) ∧
    (∀ kind, ¬ Sample.seatHeld.KeyUsed Sample.bob.id "\x00" kind) ∧
    (reserve Sample.settings Sample.bob 10 [31] "\x00" (Sample.uuid4 200) 6).alone Sample.seatHeld =
      (.error .dataError, Sample.seatHeld) ∧
    ¬ ReserveSpec Sample.settings Sample.bob 10 [31] "\x00" (Sample.uuid4 200) 6 Sample.seatHeld
      ((reserve Sample.settings Sample.bob 10 [31] "\x00" (Sample.uuid4 200) 6).alone
        Sample.seatHeld) := by
  have heq : (reserve Sample.settings Sample.bob 10 [31] "\x00" (Sample.uuid4 200) 6).alone
      Sample.seatHeld = (.error .dataError, Sample.seatHeld) := by
    rw [alone_reserve Sample.seatHeld_reachable.inv (by decide) (by decide)]
    exact reserveOutcome_unstorable (by decide)
  refine ⟨Sample.seatHeld_reachable, by decide,
    Sample.freshIds (by decide) (by decide) (by decide),
    by rintro (_ | _) <;> simp only [Database.KeyUsed] <;> decide, heq, ?_⟩
  rw [heq]
  exact not_reserveSpec_dataError

end TicketReservation
