/-
  Lapsed holds on seats.

  `expire_reservations_for_seats` expires the reservations that have a lapsed
  hold on one of the seats, and all their seats.  `Database.expireSeats` is
  this change, and a chain of effects (`effects_expireSeats`).  The service
  finds the reservations before it locks them; `Lapsed` is what stays true of
  the list it has found, whatever others do to these reservations meanwhile.
-/
import TicketReservation.Lifecycle

namespace TicketReservation

open Txn Relation

/-- The reservations `xs` expire with their seats. -/
def Database.expireSeats (d : Database) (xs : List UUID) : Database :=
  { d with
    reservations := d.reservations.map fun r =>
      if r.id ∈ xs then { r with status := .expired } else r
    reservationSeats := d.reservationSeats.map fun r =>
      if r.reservationId ∈ xs then { r with status := .expired } else r }

section
variable {d : Database} {xs ys : List UUID} {x : UUID}

@[simp] theorem Database.expireSeats_nil (d : Database) : d.expireSeats [] = d := by
  simp [Database.expireSeats]

theorem Database.expireSeats_congr (h : ∀ x, x ∈ xs ↔ x ∈ ys) : d.expireSeats xs = d.expireSeats ys := by
  simp only [Database.expireSeats, h]

/-- One reservation after another. -/
theorem Database.expireSeats_cons (h : d.itemsOf x = []) :
    d.expireSeats (x :: xs) = (d.finish x .expired).expireSeats xs := by
  refine Database.ext rfl rfl rfl (Whole.ticketTypes_finish h _).symm rfl ?_
    (Whole.map_finish_items h _).symm ?_
  · simp only [Database.expireSeats, Database.finish_reservations, List.map_map]
    refine List.map_congr_left fun r _ => ?_
    by_cases h1 : r.id = x <;> by_cases h2 : r.id ∈ xs <;> simp_all [Reservation.finish]
  · simp only [Database.expireSeats, Database.finish_reservationSeats, List.map_map]
    refine List.map_congr_left fun r _ => ?_
    by_cases h1 : r.reservationId = x <;> by_cases h2 : r.reservationId ∈ xs <;>
      simp_all [ReservationSeat.finish]

/-- The reservation is RESERVED and of kind SEATS. -/
def Database.HoldsSeats (d : Database) (x : UUID) : Prop :=
  ∃ r ∈ d.reservations, r.id = x ∧ r.status = .reserved ∧ r.reservationType = .seats

/-- Another reservation still does when one has left RESERVED. -/
theorem Database.HoldsSeats.finish {y : UUID} (h : d.HoldsSeats y) (hne : y ≠ x)
    (s : ReservationStatus) : (d.finish x s).HoldsSeats y := by
  obtain ⟨q, hq, rfl, h1, h2⟩ := h
  refine ⟨q.finish x s, List.mem_map_of_mem hq, by simp, ?_, by simpa using h2⟩
  rw [Reservation.finish_status, if_neg hne, h1]

/-- **The expiration of seat reservations is a chain of effects.** -/
theorem effects_expireSeats {Λ : List Lock} (hi : Inv d) (hx : ∀ x ∈ xs, d.HoldsSeats x)
    (hn : xs.Nodup) (hl : ∀ x ∈ xs, .reservation x ∈ Λ) :
    ReflTransGen (Effect Λ) d (d.expireSeats xs) := by
  induction xs generalizing d with
  | nil => rw [Database.expireSeats_nil]
  | cons x xs ih =>
    obtain ⟨r, hr, rfl, hst, hty⟩ := hx x List.mem_cons_self
    rw [List.nodup_cons] at hn
    have hnone : d.itemsOf r.id = [] := Whole.no_items hi (Whole.of_in hi hr) hty
    rw [Database.expireSeats_cons hnone]
    refine .head (.finish r .expired hr hst (by simp) (hl _ List.mem_cons_self) (by simp [hnone])) ?_
    refine ih (hi.finish hr hst (by simp)) (fun y hy => ?_) hn.2
      fun y hy => hl y (List.mem_cons_of_mem _ hy)
    exact (hx y (List.mem_cons_of_mem _ hy)).finish (fun h : y = r.id => hn.1 (h ▸ hy)) _

/-- On seat reservations the transitions are the set-wise expiration. -/
theorem finishAll_eq_expireSeats (hi : Inv d) (hx : ∀ x ∈ xs, d.HoldsSeats x) (hn : xs.Nodup) :
    d.finishAll xs .expired = d.expireSeats xs := by
  induction xs generalizing d with
  | nil => exact (Database.expireSeats_nil d).symm
  | cons x xs ih =>
    obtain ⟨r, hr, rfl, hst, hty⟩ := hx x List.mem_cons_self
    rw [List.nodup_cons] at hn
    have hnone : d.itemsOf r.id = [] := Whole.no_items hi (Whole.of_in hi hr) hty
    rw [Database.expireSeats_cons hnone]
    refine ih (hi.finish hr hst (by simp)) (fun y hy => ?_) hn.2
    exact (hx y (List.mem_cons_of_mem _ hy)).finish (fun h : y = r.id => hn.1 (h ▸ hy)) _

theorem Reservation.fits_expireSeats (r : Reservation) : r.Fits (d.expireSeats xs) ↔ r.Fits d := by
  have hmap : ∀ {p : Reservation → Prop}, (∀ q : Reservation, p { q with status := .expired } ↔ p q) →
      ((∀ q ∈ (d.expireSeats xs).reservations, p q) ↔ ∀ q ∈ d.reservations, p q) := by
    intro p hp
    simp only [Database.expireSeats, List.forall_mem_map]
    refine forall₂_congr fun q _ => ?_
    split_ifs
    · exact hp q
    · rfl
  constructor
  · rintro ⟨h1, h2, h3, h4, h5⟩
    exact ⟨(hmap fun q => Iff.rfl).1 h1, (hmap fun q => Iff.rfl).1 h2, h3, h4, h5⟩
  · rintro ⟨h1, h2, h3, h4, h5⟩
    exact ⟨(hmap fun q => Iff.rfl).2 h1, (hmap fun q => Iff.rfl).2 h2, h3, h4, h5⟩

end

/-! ## What the service has found -/

section
variable {d : Database} {seatIds ids : List UUID} {now : Instant} {Λ : List Lock} {x : UUID}

/-- **The two updates expire the reservations that are still RESERVED.** -/
theorem view_expireHolds (hi : Inv d) (ids : List UUID) (Λ : List Lock) :
    (⟨[.setSeatStatus ((d.heldRows ids).map ReservationSeat.id) .expired,
      .setReservationStatus ((d.heldReservations ids).map Reservation.id) .expired], Λ⟩ :
        Session).view d = d.expireSeats ((d.heldReservations ids).map Reservation.id) := by
  simp only [Session.view, List.foldl_cons, List.foldl_nil, store_apply, Database.apply]
  refine Database.ext rfl rfl rfl rfl rfl rfl rfl (List.map_congr_left fun r hr => ?_)
  have : r.id ∈ (d.heldRows ids).map ReservationSeat.id ↔
      r.reservationId ∈ (d.heldReservations ids).map Reservation.id := by
    obtain ⟨y, hy, hyr, -, hst, -⟩ := hi.seat r hr
    rw [Database.heldRows, Table.key_mem_filter_iff hi.seatRowIds hr, Database.heldReservations, ← hyr,
      Table.key_mem_filter_iff hi.reservationIds hy, hst]
  simp only [this]

theorem keeps_heldRows {rows : List ReservationSeat} (hl : ∀ x ∈ ids, .reservation x ∈ Λ) :
    protocol.Keeps Λ fun d => d.heldRows ids = rows := by
  have := keeps_group hl fun _ _ l => (l.filter fun s => s.status = .reserved) = rows
  simpa only [List.filter_filter, Bool.and_comm, Database.heldRows] using this

theorem keeps_heldReservations {rows : List Reservation} (hl : ∀ x ∈ ids, .reservation x ∈ Λ) :
    protocol.Keeps Λ fun d => d.heldReservations ids = rows := by
  have := keeps_group hl fun l _ _ => (l.filter fun r => r.status = .reserved) = rows
  simpa only [List.filter_filter, Bool.and_comm, Database.heldReservations] using this

theorem mem_staleHolders : x ∈ d.staleHolders seatIds now ↔ ∃ q ∈ d.reservationSeats,
    q.reservationId = x ∧ q.seatId ∈ seatIds ∧ q.status = .reserved ∧ q.expiresAt ≤ now := by
  rw [Database.staleHolders, List.mem_insertionSort, List.mem_dedup, List.mem_map]
  simp only [List.mem_filter, Bool.and_eq_true, decide_eq_true_eq]
  constructor
  · rintro ⟨q, ⟨hq, ⟨h1, h2⟩, h3⟩, rfl⟩
    exact ⟨q, hq, rfl, h1, h2, h3⟩
  · rintro ⟨q, hq, rfl, h1, h2, h3⟩
    exact ⟨q, ⟨hq, ⟨h1, h2⟩, h3⟩, rfl⟩

/-- The reservations `ids` had a lapsed hold on one of the seats, and no other has. -/
structure Lapsed (seatIds : List UUID) (now : Instant) (ids : List UUID) (d : Database) : Prop where
  all : ∀ q ∈ d.reservationSeats, q.seatId ∈ seatIds →
    q.status = .reserved → q.expiresAt ≤ now → q.reservationId ∈ ids
  had : ∀ x ∈ ids, ∃ q ∈ d.reservationSeats,
    q.reservationId = x ∧ q.seatId ∈ seatIds ∧ q.expiresAt ≤ now

theorem lapsed_staleHolders (seatIds : List UUID) (now : Instant) (d : Database) :
    Lapsed seatIds now (d.staleHolders seatIds now) d where
  all q hq h1 h2 h3 := mem_staleHolders.2 ⟨q, hq, rfl, h1, h2, h3⟩
  had x hx := by
    obtain ⟨q, hq, h0, h1, -, h3⟩ := mem_staleHolders.1 hx
    exact ⟨q, hq, h0, h1, h3⟩

/-- **With the seats locked the list stays right.** -/
theorem keeps_lapsed (hl : ∀ s ∈ seatIds, .seat s ∈ Λ) :
    protocol.Keeps Λ (Lapsed seatIds now ids) := by
  have h1 := keeps_holds hl (A := fun q => q.status = .reserved → q.expiresAt ≤ now →
    q.reservationId ∈ ids) ?_
  have h2 := Protocol.Keeps.all (P := protocol) (Λ := Λ) (p := (· ∈ ids)) fun x _ =>
    keeps_hold (A := fun q => q.reservationId = x ∧ q.seatId ∈ seatIds ∧ q.expiresAt ≤ now) ?_
  · exact fun Λ' d d' hi hd hs h => ⟨h1 hi hd hs h.all, h2 hi hd hs h.had⟩
  · intro r r' hm h
    rwa [hm.same]
  · intro r r' hm h hr hle
    rw [hm.same] at hle ⊢
    rcases hm.status with hst | hst
    · exact h hst hle
    · exact h (hst ▸ hr) hle

/-- The parent of a found hold. -/
theorem Lapsed.parent (h : Lapsed seatIds now ids d) (hi : Inv d) (hx : x ∈ ids) :
    ∃ r ∈ d.reservations, r.id = x ∧ r.reservationType = .seats := by
  obtain ⟨q, hq, rfl, -⟩ := h.had x hx
  obtain ⟨r, hr, hrq, hty, -⟩ := hi.seat q hq
  exact ⟨r, hr, hrq, hty⟩

/-- **Those still RESERVED are those with a lapsed hold.** -/
theorem Lapsed.mem_heldReservations (h : Lapsed seatIds now ids d) (hi : Inv d) :
    x ∈ (d.heldReservations ids).map Reservation.id ↔ x ∈ d.staleHolders seatIds now := by
  rw [mem_staleHolders]
  constructor
  · intro hx
    obtain ⟨r, hr, rfl⟩ := List.mem_map.1 hx
    obtain ⟨hrm, hp⟩ := List.mem_filter.1 hr
    simp only [Bool.and_eq_true, decide_eq_true_eq] at hp
    obtain ⟨q, hq, hid, hs, hle⟩ := h.had r.id hp.1
    exact ⟨q, hq, hid, hs, (hi.seat_status hrm q hq hid).trans hp.2, hle⟩
  · rintro ⟨q, hq, rfl, hs, hst, hle⟩
    obtain ⟨r, hr, hrq, -, hst', -⟩ := hi.seat q hq
    refine List.mem_map.2 ⟨r, List.mem_filter.2 ⟨hr, ?_⟩, hrq⟩
    simpa [hrq, ← hst', hst] using h.all q hq hs hst hle

theorem nodup_staleHolders (d : Database) (seatIds : List UUID) (now : Instant) :
    (d.staleHolders seatIds now).Nodup :=
  (List.perm_insertionSort _ _).nodup_iff.2 (List.nodup_dedup _)

/-- A reservation with a lapsed hold is RESERVED and of kind SEATS. -/
theorem holdsSeats_of_staleHolders (hi : Inv d) (hx : x ∈ d.staleHolders seatIds now) :
    d.HoldsSeats x := by
  obtain ⟨q, hq, rfl, -, hst, -⟩ := mem_staleHolders.1 hx
  obtain ⟨r, hr, hrq, hty, hs, -⟩ := hi.seat q hq
  exact ⟨r, hr, hrq, hs ▸ hst, hty⟩

/-- The rows of the reservations. -/
theorem exists_rows_of_holdsSeats {xs : List UUID} (hx : ∀ x ∈ xs, d.HoldsSeats x) :
    ∃ rs : List Reservation, rs.map Reservation.id = xs ∧
      ∀ r ∈ rs, r ∈ d.reservations ∧ r.status = .reserved := by
  induction xs with
  | nil => exact ⟨[], rfl, by simp⟩
  | cons x xs ih =>
    obtain ⟨rs, rfl, hrs⟩ := ih fun y hy => hx y (List.mem_cons_of_mem _ hy)
    obtain ⟨r, hr, rfl, hst, -⟩ := hx x List.mem_cons_self
    exact ⟨r :: rs, rfl, List.forall_mem_cons.2 ⟨⟨hr, hst⟩, hrs⟩⟩

/-- **The expiration of seat reservations keeps the invariant.** -/
theorem inv_expireSeats {xs : List UUID} (hi : Inv d) (hx : ∀ x ∈ xs, d.HoldsSeats x)
    (hn : xs.Nodup) : Inv (d.expireSeats xs) :=
  (Protocol.Leads.of_steps (P := protocol)
    (effects_expireSeats (Λ := xs.map .reservation) hi hx hn fun _ => List.mem_map_of_mem)).inv hi

theorem nodup_heldReservations (hi : Inv d) : ((d.heldReservations ids).map Reservation.id).Nodup :=
  hi.reservationIds.sublist (List.filter_sublist.map _)

end

end TicketReservation
