/-
  Every run of the services is a run of the booking machine.

  `Call.Books` says what a call may do to the machine: a reserve makes one hold
  (for seats it first releases the lapsed ones), a cancel releases and a confirm
  sells its reservation, or releases it if it has lapsed, and a batch of the
  worker releases as many holds as it reports.  Calls that are rejected or repeat
  an earlier one do nothing.  `Call.books` shows that this is what a call does
  atomically, and `booked_run` that the calls of a run, in the order in which they
  take effect, lead the machine from the first to the last database.

  `booked_balanced`: hence the counters are what the calls have booked, all
  units ever sold fit together, and what happened to a reservation can be read
  off its status.
-/
import TicketReservation.Booking.View
import TicketReservation.Safety
import TicketReservation.Outcomes
import TicketReservation.Successes

namespace TicketReservation

open Txn Booking

abbrev BookingLabel := Booking.Label UUID (Resource → ℤ)

variable {settings : Settings} {d₀ d d' : Database} {cfg : ServiceConfig}

/-- The reservation `x` is known, and `A` holds of its row. -/
def Database.Has (d : Database) (x : UUID) (A : Reservation → Prop) : Prop :=
  ∃ r ∈ d.reservations, r.id = x ∧ A r

/-! ## What was booked before -/

theorem Effect.capacity {Λ : List Lock} (h : Effect Λ d d') : d'.capacity = d.capacity := by
  cases h with
  | finish x s => exact d.finish_capacity x.id s
  | addQuantity x i => exact d.addQuantity_capacity x i
  | addSeats x rows => rfl

theorem capacity_leads (h : protocol.Leads d d') : d'.capacity = d.capacity := by
  induction h with
  | refl => rfl
  | tail _ h ih => exact h.choose_spec.capacity.trans ih

/-- A reservation is in the phase of its status. -/
theorem Inv.booking_at (h : Inv d) {x : Reservation} (hx : x ∈ d.reservations) {p : Option Phase}
    (hp : d.booking.At x.id p) : p = some x.status.phase := by
  cases p with
  | none => exact absurd rfl (hp _ (Multiset.mem_coe.2 (List.mem_map_of_mem (f := d.entry) hx)))
  | some p =>
    obtain ⟨m, hm⟩ := hp
    obtain ⟨y, hy, hym⟩ := List.mem_map.1 (Multiset.mem_coe.1 hm)
    rw [Database.entry, Booking.Entry.mk.injEq] at hym
    rw [← hym.2.2, h.eq_of_id hy hx hym.1]

theorem booking_at_none {id : UUID} (h : ∀ x ∈ d.reservations, x.id ≠ id) {p : Option Phase}
    (hp : d.booking.At id p) : p = none := by
  cases p with
  | none => rfl
  | some p =>
    obtain ⟨m, hm⟩ := hp
    obtain ⟨y, hy, hym⟩ := List.mem_map.1 (Multiset.mem_coe.1 hm)
    exact absurd (congrArg Booking.Entry.hold hym) (h y hy)

section
variable {ls : List BookingLabel}

/-- The holds of the machine, which has started with none. -/
theorem past_of_trace (hlegal : Legal d.capacity (0 : Booking.State UUID (Resource → ℤ)))
    (ht : Trace d.capacity 0 ls d.booking) (id : UUID) :
    ∃ p, d.booking.At id p ∧ past p = about id ls := by
  simpa [past] using ht.life hlegal (h := id) (p := none) (by simp [State.At])

/-- **What was booked of a reservation can be read off its status.** -/
theorem Inv.about_eq (hd : Inv d)
    (hlegal : Legal d.capacity (0 : Booking.State UUID (Resource → ℤ)))
    (ht : Trace d.capacity 0 ls d.booking) {x : Reservation} (hx : x ∈ d.reservations) :
    about x.id ls = past (some x.status.phase) := by
  obtain ⟨p, hp, hpast⟩ := past_of_trace hlegal ht x.id
  rw [← hpast, hd.booking_at hx hp]

end

/-! ## One call -/

/-- `cancel` and `confirm` release or sell the reservation. -/
def Call.ending : Call → Option (Act × UUID × Instant)
  | .cancel reservationId _ now => some (.release, reservationId, now)
  | .confirm reservationId _ now => some (.sell, reservationId, now)
  | _ => none

/-- **What a call books with its answer**, if the calls before it have booked `done`.  The rows of
    the reservations are those of `d`. -/
inductive Call.Books (d : Database) (done : List BookingLabel) :
    Call → Except Error Response → List BookingLabel → Prop
  | get {x v r} : Books d done (.get x v) r []
  | rejected {c e} : Books d done c (.error e) []
  | quantity {v p uuid4 now a} : a.reservationId = uuid4 0 →
      Books d done (.reserveQuantity v p uuid4 now) (.ok (.quantity a))
        [⟨.hold, uuid4 0, unitsOf p.ticketTypeId p.quantity⟩]
  /-- the visitor has made the hold before, with this key -/
  | quantityReplay {v p uuid4 now a} : .hold ∈ about a.reservationId done →
      d.Has a.reservationId (fun r => r.visitorSessionId = v.id ∧
        r.idempotencyKey = p.idempotencyKey ∧ r.reservationType = .quantity) →
      Books d done (.reserveQuantity v p uuid4 now) (.ok (.quantity a)) []
  /-- the lapsed holds on the seats are released first -/
  | seats {v p uuid4 now a lapsed} : a.reservationId = uuid4 0 →
      (∀ l ∈ lapsed, l.act = .release ∧ d.Has l.hold (fun r => r.expiresAt ≤ now) ∧
        ∃ q ∈ d.reservationSeats, q.reservationId = l.hold ∧ q.seatId ∈ p.seatIds) →
      Books d done (.reserveSeats v p uuid4 now) (.ok (.seats a))
        (lapsed ++ [⟨.hold, uuid4 0, placesOf p.seatIds⟩])
  | seatsReplay {v p uuid4 now a} : .hold ∈ about a.reservationId done →
      d.Has a.reservationId (fun r => r.visitorSessionId = v.id ∧
        r.idempotencyKey = p.idempotencyKey ∧ r.reservationType = .seats) →
      Books d done (.reserveSeats v p uuid4 now) (.ok (.seats a)) []
  | moved {c act x now a m} : c.ending = some (act, x, now) → a.reservationId = x →
      d.Has x (fun r => now ≤ r.expiresAt) → Books d done c (.ok (.detail a)) [⟨act, x, m⟩]
  /-- an earlier call has done the same -/
  | repeated {c act x now a} : c.ending = some (act, x, now) → a.reservationId = x →
      act ∈ about x done → Books d done c (.ok (.detail a)) []
  | lapsed {c act x now m} : c.ending = some (act, x, now) →
      d.Has x (fun r => r.expiresAt < now) →
      Books d done c (.error .reservationTransitionConflictError) [⟨.release, x, m⟩]
  | batch {batchSize now ids ls} : ls.length ≤ batchSize →
      (∀ l ∈ ls, l.act = .release ∧
        d.Has l.hold (fun r => r.expiresAt < now ∧ ∀ xs ∈ ids, r.id ∈ xs)) →
      Books d done (.expireBatch batchSize now ids) (.ok (.count ls.length)) ls

theorem Database.Has.leads {x : UUID} {A : Reservation → Prop} (h : d.Has x A) (hd : Inv d)
    (hl : protocol.Leads d d') (hA : ∀ r r' : Reservation, r.Moved r' → A r → A r') :
    d'.Has x A :=
  (keeps_reservation (Λ := []) (A := fun r => r.id = x ∧ A r)
    fun r r' hm hr => ⟨hm.id.trans hr.1, hA r r' hm hr.2⟩).leads hd hl h

/-- The rows keep what matters here. -/
theorem Call.Books.leads {c : Call} {done ls : List BookingLabel} {r : Except Error Response}
    (h : c.Books d done r ls) (hd : Inv d) (hl : protocol.Leads d d') : c.Books d' done r ls := by
  cases h with
  | get => exact .get
  | rejected => exact .rejected
  | quantity ha => exact .quantity ha
  | quantityReplay ha hr =>
    exact .quantityReplay ha (hr.leads hd hl fun r r' hm h => by rw [hm.same]; exact h)
  | seats ha hlapsed =>
    refine .seats ha fun l hlm => ?_
    obtain ⟨h1, h2, h3⟩ := hlapsed l hlm
    refine ⟨h1, h2.leads hd hl fun r r' hm h => by rw [hm.same]; exact h, ?_⟩
    exact (keeps_hold (Λ := []) fun q q' hm h => by rw [hm.same]; exact h).leads hd hl h3
  | seatsReplay ha hr =>
    exact .seatsReplay ha (hr.leads hd hl fun r r' hm h => by rw [hm.same]; exact h)
  | moved hc ha hr => exact .moved hc ha (hr.leads hd hl fun r r' hm h => by rw [hm.same]; exact h)
  | repeated hc ha hdone => exact .repeated hc ha hdone
  | lapsed hc hr => exact .lapsed hc (hr.leads hd hl fun r r' hm h => by rw [hm.same]; exact h)
  | batch hlen hls =>
    exact .batch hlen fun l hlm => (hls l hlm).imp id fun h =>
      h.leads hd hl fun r r' hm h => by rw [hm.same]; exact h

/-- A batch releases its holds one after another. -/
theorem Inv.trace_finishAll (hd : Inv d) {xs : List Reservation}
    (hx : ∀ x ∈ xs, x ∈ d.reservations ∧ x.status = .reserved)
    (hn : (xs.map Reservation.id).Nodup) :
    Trace d.capacity d.booking (xs.map fun x => ⟨.release, x.id, d.resourcesOf x.id⟩)
      (d.finishAll (xs.map Reservation.id) .expired).booking := by
  induction xs generalizing d with
  | nil => exact .nil
  | cons x xs ih =>
    obtain ⟨hxm, hxr⟩ := hx x List.mem_cons_self
    rw [List.map_cons, List.nodup_cons] at hn
    have hstep := hd.booking_finish hxm hxr (s := .expired) (by simp)
    refine .cons hstep ?_
    have hrest : ∀ y ∈ xs, y ∈ (d.finish x.id .expired).reservations ∧ y.status = .reserved := by
      intro y hy
      obtain ⟨hym, hyr⟩ := hx y (List.mem_cons_of_mem _ hy)
      have hne : y.id ≠ x.id := fun h => hn.1 (h ▸ List.mem_map_of_mem hy)
      exact ⟨List.mem_map.2 ⟨y, hym, if_neg hne⟩, hyr⟩
    have hih := ih (hd.finish hxm hxr (by simp)) hrest hn.2
    rwa [Database.finish_capacity, Database.finish_resourcesOf] at hih

/-- Lapsed seat holds are released together. -/
theorem Inv.trace_expireSeats (hd : Inv d) {xs : List UUID} (hx : ∀ x ∈ xs, d.HoldsSeats x)
    (hn : xs.Nodup) : ∃ ls : List BookingLabel, (∀ l ∈ ls, l.act = .release ∧ l.hold ∈ xs) ∧
      Trace d.capacity d.booking ls (d.expireSeats xs).booking := by
  obtain ⟨rs, rfl, hrs⟩ := exists_rows_of_holdsSeats hx
  rw [← finishAll_eq_expireSeats hd hx hn]
  refine ⟨_, fun l hl => ?_, hd.trace_finishAll hrs hn⟩
  obtain ⟨r, hr, rfl⟩ := List.mem_map.1 hl
  exact ⟨rfl, List.mem_map_of_mem hr⟩

/-- A lapsed hold on one of the seats. -/
theorem Inv.lapsed_of_staleHolders (hd : Inv d) {x : UUID} {seatIds : List UUID} {now : Instant}
    (hx : x ∈ d.staleHolders seatIds now) : d.Has x (fun r => r.expiresAt ≤ now) ∧
      ∃ q ∈ d.reservationSeats, q.reservationId = x ∧ q.seatId ∈ seatIds := by
  obtain ⟨q, hq, rfl, hs, -, hle⟩ := mem_staleHolders.1 hx
  obtain ⟨r, hr, hrq, -, -, hex, -⟩ := hd.seat q hq
  exact ⟨⟨r, hr, hrq, hex.ge.trans hle⟩, q, hq, rfl, hs⟩

/-- The act of a final status is among those of its phase. -/
theorem act_mem_past {s : ReservationStatus} (hs : s ≠ .reserved) : s.act ∈ past (some s.phase) := by
  cases s with
  | reserved => exact absurd rfl hs
  | confirmed | cancelled | expired => exact List.mem_cons_of_mem _ List.mem_cons_self

/-- `cancel` and `confirm` book their move, the expiration of the reservation, or nothing. -/
theorem Call.books_moveTo {c : Call} {target : ReservationStatus} {reservationId : UUID}
    {visitorSession : VisitorSession} {now : Instant} {done : List BookingLabel} (hd : Inv d)
    (hdone : ∀ x ∈ d.reservations, about x.id done = past (some x.status.phase))
    (ht : target ≠ .reserved) (hc : c.ending = some (target.act, reservationId, now)) :
    ∃ ls, c.Books d done
        ((moveToOutcome target reservationId visitorSession now d).1.map .detail) ls ∧
      Trace d.capacity d.booking ls
        (moveToOutcome target reservationId visitorSession now d).2.booking := by
  unfold moveToOutcome
  cases hx : d.ownedReservation reservationId visitorSession.id visitorSession.userId with
  | none => exact ⟨[], .rejected, .nil⟩
  | some x =>
    obtain ⟨hxm, rfl, -⟩ := (ownedReservation_eq_some hd).1 hx
    simp only [moveOutcome]
    split_ifs with h1 h2 h3
    · refine ⟨[], .repeated hc rfl ?_, .nil⟩
      have h1 : x.status = target := h1
      rw [hdone x hxm, h1]
      exact act_mem_past ht
    · exact ⟨[], .rejected, .nil⟩
    · exact ⟨_, .lapsed hc ⟨x, hxm, rfl, h3⟩,
        .single (hd.booking_finish hxm (not_not.1 h2) (s := .expired) (by simp))⟩
    · exact ⟨_, .moved hc rfl ⟨x, hxm, rfl, not_lt.1 h3⟩,
        .single (hd.booking_finish hxm (not_not.1 h2) ht)⟩

/-- The order of the seats does not matter. -/
theorem placesOf_perm {seatIds seatIds' : List UUID} (h : seatIds.Perm seatIds') :
    placesOf seatIds = placesOf seatIds' := by
  funext o
  cases o with
  | ticketType t => rfl
  | seat s => simp only [placesOf, h.mem_iff]

/-- A seat request that succeeds releases the lapsed holds on its seats and makes its own. -/
theorem Inv.trace_afterCreate {visitorSession : VisitorSession} {eventId : UUID}
    {seatIds : List UUID} {idempotencyKey : String} {uuid4 : ℕ → UUID} {now : Instant} (hd : Inv d)
    (hc : SeatReservationService.CanReserve settings visitorSession eventId
      (seatIds.insertionSort (· ≤ ·)) idempotencyKey uuid4 now d) :
    ∃ lapsed : List BookingLabel, (∀ l ∈ lapsed, l.act = .release ∧
        d.Has l.hold (fun r => r.expiresAt ≤ now) ∧
        ∃ q ∈ d.reservationSeats, q.reservationId = l.hold ∧ q.seatId ∈ seatIds) ∧
      Trace d.capacity d.booking (lapsed ++ [⟨.hold, uuid4 0, placesOf seatIds⟩])
        (SeatReservationService.afterCreate settings visitorSession eventId
          (seatIds.insertionSort (· ≤ ·)) idempotencyKey uuid4 now d).booking := by
  have hholds : ∀ x ∈ d.staleHolders (seatIds.insertionSort (· ≤ ·)) now, d.HoldsSeats x :=
    fun x => holdsSeats_of_staleHolders hd
  have hn := nodup_staleHolders d (seatIds.insertionSort (· ≤ ·)) now
  obtain ⟨lapsed, hlapsed, ht⟩ := hd.trace_expireSeats hholds hn
  have hadd := (inv_expireSeats hd hholds hn).booking_addSeats hc
  rw [SeatReservationService.newSeats_seatIds,
    placesOf_perm (List.perm_insertionSort (· ≤ ·) seatIds)] at hadd
  refine ⟨lapsed, fun l hl => ?_, ht.append (.single hadd)⟩
  obtain ⟨hact, hhold⟩ := hlapsed l hl
  obtain ⟨hex, q, hq, hqx, hqs⟩ := hd.lapsed_of_staleHolders hhold
  exact ⟨hact, hex, q, hq, hqx, (List.mem_insertionSort _).1 hqs⟩

/-- **What a call does atomically is what it may book.** -/
theorem Call.books {c : Call} {r : Except Error Response} {done : List BookingLabel} (hd : Inv d)
    (hdone : ∀ x ∈ d.reservations, about x.id done = past (some x.status.phase))
    (h : c.spec settings d r d') :
    ∃ ls, c.Books d done r ls ∧ Trace d.capacity d.booking ls d'.booking := by
  have made : ∀ {x : Reservation}, x ∈ d.reservations → .hold ∈ about x.id done := fun hx => by
    rw [hdone _ hx]
    cases Reservation.status _ <;> exact List.mem_cons_self
  cases c with
  | reserveQuantity visitorSession payload uuid4 now =>
    obtain ⟨rfl, rfl⟩ := (spec_reserveQuantity hd).1 h
    unfold QuantityReservationService.reserveOutcome
    split
    · exact ⟨[], .rejected, .nil⟩
    · rename_i existing hl
      obtain ⟨x, hx, -⟩ := quantityLookup_eq_some hd hl
      have hmade : .hold ∈ about existing.reservationId done := hx.id ▸ made hx.mem
      exact ⟨[], .quantityReplay hmade ⟨x, hx.mem, hx.id, hx.visitor, hx.key, hx.kind⟩, .nil⟩
    · split_ifs with hq hc
      · exact ⟨_, .quantity rfl, .single (hd.booking_addQuantity hc)⟩
      · exact ⟨[], .rejected, .nil⟩
      · exact ⟨[], .rejected, .nil⟩
  | reserveSeats visitorSession payload uuid4 now =>
    obtain ⟨rfl, rfl⟩ := (spec_reserveSeats hd).1 h
    unfold SeatReservationService.reserveOutcome
    split
    · exact ⟨[], .rejected, .nil⟩
    · rename_i existing hl
      obtain ⟨x, hx, -⟩ := seatLookup_eq_some hd hl
      have hmade : .hold ∈ about existing.reservationId done := hx.id ▸ made hx.mem
      exact ⟨[], .seatsReplay hmade ⟨x, hx.mem, hx.id, hx.visitor, hx.key, hx.kind⟩, .nil⟩
    · split_ifs with hq hc
      · exact ⟨[], .rejected, .nil⟩
      · obtain ⟨lapsed, hlapsed, ht⟩ := hd.trace_afterCreate hc
        exact ⟨_, .seats rfl hlapsed, ht⟩
      · exact ⟨[], .rejected, .nil⟩
  | get reservationId visitorSession =>
    obtain rfl : d' = d := h
    exact ⟨[], .get, .nil⟩
  | cancel reservationId visitorSession now =>
    obtain ⟨rfl, rfl⟩ := (spec_cancel hd).1 h
    exact books_moveTo hd hdone (by simp) rfl
  | confirm reservationId visitorSession now =>
    obtain ⟨rfl, rfl⟩ := (spec_confirm hd).1 h
    exact books_moveTo hd hdone (by simp) rfl
  | expireBatch batchSize now reservationIds =>
    obtain ⟨xs, hx, rfl, rfl⟩ := (spec_expireBatch hd).1 h
    have hbatch := hd.trace_finishAll (fun x hxm => ⟨(hx.mem x hxm).1, (hx.mem x hxm).2.1⟩) hx.nodup
    refine ⟨_, ?_, hbatch⟩
    rw [← List.length_map (fun x => (⟨.release, x.id, d.resourcesOf x.id⟩ : BookingLabel))]
    refine .batch (by simpa using hx.length) fun l hl => ?_
    obtain ⟨x, hxm, rfl⟩ := List.mem_map.1 hl
    obtain ⟨h1, -, h3, h4⟩ := hx.mem x hxm
    exact ⟨rfl, x, h1, rfl, h3, h4⟩

/-! ## A run -/

/-- Nothing is reserved at first. -/
theorem Inventory.booking_eq_zero (h : Inventory d₀) : d₀.booking = 0 := by
  rw [Database.booking, h.unreserved.reservations]
  rfl

/-- The calls `bookings`, in this order and with what they have booked, lead the machine from the
    first database of a run to its last. -/
structure Booked (d₀ : Database) (cfg : ServiceConfig) (bookings : List (ℕ × List BookingLabel)) :
    Prop where
  trace : Trace d₀.capacity d₀.booking (bookings.flatMap Prod.snd) cfg.db.booking
  once : (bookings.map Prod.fst).Nodup
  /-- a call books what it may after the calls before it, with the answer that it gives -/
  books : ∀ bs b bs', bookings = bs ++ b :: bs' → ∃ t, cfg.threads[b.1]? = some t ∧
    ∃ r, t.call.Books cfg.db (bs.flatMap Prod.snd) r b.2 ∧ ∀ a, t.status = .returned a → a = r
  /-- the calls that have answered are among them -/
  answered : ∀ (i : ℕ) t a, cfg.threads[i]? = some t → t.status = .returned a →
    ∃ b ∈ bookings, b.1 = i

/-- The calls of a path book one after another. -/
theorem booked_path {l : List (Entry Call Database (Except Error Response))}
    (h : Path protocol (Call.spec settings) d l d') {done : List BookingLabel}
    (hlegal : Legal d.capacity (0 : Booking.State UUID (Resource → ℤ)))
    (hdone : Trace d.capacity 0 done d.booking) : ∃ bookings : List (ℕ × List BookingLabel),
      Trace d.capacity d.booking (bookings.flatMap Prod.snd) d'.booking ∧
      bookings.map Prod.fst = l.map Entry.idx ∧
      ∀ bs b bs', bookings = bs ++ b :: bs' → ∃ e ∈ l, e.idx = b.1 ∧
        e.call.Books d' (done ++ bs.flatMap Prod.snd) e.result b.2 := by
  induction h generalizing done with
  | nil => exact ⟨[], .nil, rfl, by simp⟩
  | @cons e l d hi hs hl hpath ih =>
    obtain ⟨ls, hls, htl⟩ := Call.books hi (fun x => hi.about_eq hlegal hdone) hs
    have hcap := capacity_leads hl
    have hall : Trace e.post.capacity 0 (done ++ ls) e.post.booking := hcap ▸ hdone.append htl
    obtain ⟨bookings, ht, hidx, hb⟩ := ih (hcap ▸ hlegal) hall
    rw [hcap] at ht
    refine ⟨(e.idx, ls) :: bookings, htl.append ht, by simp [hidx], fun bs b bs' hsplit => ?_⟩
    cases bs with
    | nil =>
      cases hsplit
      obtain ⟨-, -, -, h1, h2⟩ := (Path.cons hi hs hl hpath).mem e List.mem_cons_self
      refine ⟨e, List.mem_cons_self, rfl, ?_⟩
      rw [List.flatMap_nil, List.append_nil]
      exact hls.leads hi (h1.trans h2)
    | cons b₀ bs =>
      obtain ⟨rfl, hrest⟩ := List.cons.inj hsplit
      obtain ⟨e', he', hidx', hbooks⟩ := hb bs b bs' hrest
      refine ⟨e', List.mem_cons_of_mem _ he', hidx', ?_⟩
      rwa [List.flatMap_cons, ← List.append_assoc]

theorem booked_tracks {l : List (Entry Call Database (Except Error Response))}
    (h₀ : Inventory d₀) (h : (system settings).Tracks d₀ cfg l) :
    ∃ bookings, Booked d₀ cfg bookings := by
  have hzero := h₀.booking_eq_zero
  have hlegal := h₀.inv.legal
  have hnone : Trace d₀.capacity 0 [] d₀.booking := hzero ▸ .nil
  rw [hzero] at hlegal
  obtain ⟨bookings, ht, hidx, hb⟩ := booked_path h.path hlegal hnone
  refine ⟨bookings, ht, hidx ▸ h.idx, fun bs b bs' hsplit => ?_, fun i t a hi ha => ?_⟩
  · obtain ⟨e, he, hidx, hbooks⟩ := hb bs b bs' hsplit
    obtain ⟨t, ht, hcall⟩ := h.call e he
    refine ⟨t, hidx ▸ ht, e.result, hcall ▸ hbooks, fun a ha => ?_⟩
    have hok := h.thread e.idx t ht
    rw [System.ThreadOk, ha] at hok
    obtain ⟨e', he', hid, rfl, -⟩ := hok
    rw [List.inj_on_of_nodup_map h.idx he' he hid]
  · have hok := h.thread i t hi
    rw [System.ThreadOk, ha] at hok
    obtain ⟨e, he, rfl, -⟩ := hok
    exact List.mem_map.1 (hidx ▸ List.mem_map_of_mem he)

/-- The database agrees with what has been booked. -/
structure Balanced (ls : List BookingLabel) (d : Database) : Prop where
  sold : ∀ t ∈ d.ticketTypes, t.soldQuantity = total .sell ls (.ticketType t.id)
  reserved : ∀ t ∈ d.ticketTypes, t.reservedQuantity + total .sell ls (.ticketType t.id) +
    total .release ls (.ticketType t.id) = total .hold ls (.ticketType t.id)
  /-- all that was ever sold fits together -/
  stock : ∀ t ∈ d.ticketTypes, total .sell ls (.ticketType t.id) ≤ t.totalQuantity
  seat : ∀ s, total .sell ls (.seat s) ≤ 1
  /-- what was done to a reservation can be read off its status -/
  life : ∀ x ∈ d.reservations, about x.id ls = past (some x.status.phase)
  unknown : ∀ id, (∀ x ∈ d.reservations, x.id ≠ id) → about id ls = []

theorem Inv.capacity_seat_le (h : Inv d) (s : UUID) : d.capacity (.seat s) ≤ 1 := by
  by_cases hs : ∃ c ∈ d.seats, c.id = s
  · obtain ⟨c, hc, rfl⟩ := hs
    exact (h.capacity_seat hc).le
  · rw [Database.capacity, List.filter_eq_nil_iff.2 fun c hc hcs => hs ⟨c, hc, by simpa using hcs⟩]
    exact zero_le_one

/-- **The database agrees with what was booked**, whenever the machine is led from the first
    database of a run to its last: no hold has left the capacity or was moved twice. -/
theorem booked_balanced {ls : List BookingLabel} (h : Inventory d₀)
    (r : ServiceRun settings (start d₀) cfg)
    (ht : Trace d₀.capacity d₀.booking ls cfg.db.booking) : Balanced ls cfg.db := by
  have hi := ServiceRun.inv h.inv r
  have hcap : cfg.db.capacity = d₀.capacity := capacity_leads
    (System.leads_run (S := system settings) ⟨[], System.tracks_init h.inv⟩ r)
  have hlegal := h.inv.legal
  rw [h.booking_eq_zero, ← hcap] at ht hlegal
  refine ⟨fun t htm => ?_, fun t htm => ?_, fun t htm => ?_, fun s => ?_,
    fun x hx => hi.about_eq hlegal ht hx, fun id hid => ?_⟩
  · rw [← hi.amount_sold htm, ht.sold, State.amount_zero, zero_add]
  · have := congrFun ht.held (.ticketType t.id)
    rw [State.amount_zero, zero_add] at this
    rw [← hi.amount_held htm, ← this]
    rfl
  · have := ht.sells_le hlegal (.ticketType t.id)
    rwa [State.amount_zero, zero_add, hi.capacity_ticketType htm] at this
  · have := ht.sells_le hlegal (.seat s)
    rw [State.amount_zero, zero_add] at this
    exact this.trans (hi.capacity_seat_le s)
  · obtain ⟨p, hp, hpast⟩ := past_of_trace hlegal ht id
    rw [← hpast, booking_at_none hid hp]
    rfl

theorem booked_balanced_buys : ∃ bookings,
    Booked Sample.inventory ((start Sample.inventory).after (Call.prog Sample.settings) Sample.buys)
      bookings ∧
    Balanced (bookings.flatMap Prod.snd)
      ((start Sample.inventory).after (Call.prog Sample.settings) Sample.buys).db := by
  have r : ServiceRun Sample.settings (start Sample.inventory)
    ((start Sample.inventory).after (Call.prog Sample.settings) Sample.buys) := run_after (by decide)
  obtain ⟨l, hl⟩ := System.tracks_run (S := system Sample.settings) Sample.inventory_inventory.inv r
  obtain ⟨bookings, hb⟩ := booked_tracks Sample.inventory_inventory hl
  exact ⟨bookings, hb, booked_balanced Sample.inventory_inventory r hb.trace⟩

end TicketReservation
