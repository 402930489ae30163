/-
  What a successful answer of `reserve` is about.

  A call whose key is not used creates what was asked.  A call whose key is used
  by a reservation of its kind answers with that reservation, whatever was
  asked, and changes nothing (`success_about_request`).
-/
import TicketReservation.Conflicts
import TicketReservation.Txn.Visited

namespace TicketReservation

open Txn

/-- The row of the visitor's reservation with the key that an answer names. -/
structure Database.Names (d : Database) (u : UUID) (k : String) (kind : ReservationType) (id : UUID)
    (status : ReservationStatus) (expiresAt : Instant) (r : Reservation) : Prop where
  mem : r ∈ d.reservations
  visitor : r.visitorSessionId = u
  key : r.idempotencyKey = k
  kind : r.reservationType = kind
  id : r.id = id
  status : r.status = status
  expiresAt : r.expiresAt = expiresAt

/-- **What the answer of a quantity request says**: it shows a reservation of the
    visitor with the key as it is in `d'`.  If the key was not used, this is
    what was asked; if it was, nothing has changed. -/
structure QuantityReservationCreate.AnsweredBy (p : QuantityReservationCreate)
    (visitorSession : VisitorSession) (d : Database) (a : QuantityReservationResponse)
    (d' : Database) (r : Reservation) : Prop where
  names : d'.Names visitorSession.id p.idempotencyKey .quantity a.reservationId a.status a.expiresAt r
  items : a.items = (d'.itemsOf r.id).map fun i => ⟨i.ticketTypeId, i.quantity⟩
  fresh : ¬ d.KeyUsed visitorSession.id p.idempotencyKey .quantity →
    r.eventId = p.eventId ∧ a.items = [⟨p.ticketTypeId, p.quantity⟩]
  used : d.KeyUsed visitorSession.id p.idempotencyKey .quantity → d' = d

/-- The same for a seat request. -/
structure SeatReservationCreate.AnsweredBy (p : SeatReservationCreate)
    (visitorSession : VisitorSession) (d : Database) (a : SeatReservationResponse)
    (d' : Database) (r : Reservation) : Prop where
  names : d'.Names visitorSession.id p.idempotencyKey .seats a.reservationId a.status a.expiresAt r
  seats : a.seats = ((d'.seatsOf r.id).map ReservationSeat.seatId).insertionSort (· ≤ ·)
  fresh : ¬ d.KeyUsed visitorSession.id p.idempotencyKey .seats →
    r.eventId = p.eventId ∧ a.seats.Perm p.seatIds
  used : d.KeyUsed visitorSession.id p.idempotencyKey .seats → d' = d

/-! ## Replays -/

section
variable {d : Database} {u : UUID} {k : String}

theorem quantityLookup_eq_some (hd : Inv d) {a : QuantityReservationRecord}
    (h : d.quantityLookup u k = .ok (some a)) :
    ∃ r, d.Names u k .quantity a.reservationId a.status a.expiresAt r ∧
      (QuantityReservationService.toResponse a).items =
        (d.itemsOf r.id).map fun i => ⟨i.ticketTypeId, i.quantity⟩ := by
  by_cases hk : Storable k
  · rcases finds_quantityLookup (u := u) hk d hd with ⟨⟨r, hr, rfl, rfl, hq⟩, -⟩ | ⟨-, hnone⟩
    · obtain ⟨i, hit, heq⟩ := quantityRecords_of_mem hd hr hq
      simp only [Database.quantityLookup, if_neg (not_not.2 hk), heq, Except.ok.injEq,
        Option.some.injEq] at h
      subst h
      exact ⟨r, ⟨hr, rfl, rfl, hq, rfl, rfl, rfl⟩, by rw [hit]; rfl⟩
    · rw [show d.quantityLookup u k = .ok none from hnone] at h
      simp at h
  · simp [Database.quantityLookup, hk] at h

theorem seatLookup_eq_some (hd : Inv d) {a : SeatReservationRecord}
    (h : d.seatLookup u k = .ok (some a)) :
    ∃ r, d.Names u k .seats a.reservationId a.status a.expiresAt r ∧
      a.seatIds = ((d.seatsOf r.id).map ReservationSeat.seatId).insertionSort (· ≤ ·) := by
  by_cases hk : Storable k
  · rcases finds_seatLookup (u := u) hk d hd with ⟨⟨r, hr, rfl, rfl, hs⟩, -⟩ | ⟨-, hnone⟩
    · rw [seatLookup_of_mem hd hr hs hk, Except.ok.injEq, Option.some.injEq] at h
      subst h
      exact ⟨r, ⟨hr, rfl, rfl, hs, rfl, rfl, rfl⟩, rfl⟩
    · rw [show d.seatLookup u k = .ok none from hnone] at h
      simp at h
  · simp [Database.seatLookup, hk] at h

/-- A key that the look-up finds is used. -/
theorem Database.Names.keyUsed {kind : ReservationType} {id : UUID} {status : ReservationStatus}
    {expiresAt : Instant} {r : Reservation} (h : d.Names u k kind id status expiresAt r) :
    d.KeyUsed u k kind :=
  ⟨r, h.mem, h.visitor, h.key, h.kind⟩

end

/-! ## The answers -/

section
variable {settings : Settings} {visitorSession : VisitorSession} {uuid4 : ℕ → UUID} {now : Instant}
  {d : Database}

theorem QuantityReservationService.answeredBy {p : QuantityReservationCreate}
    {a : QuantityReservationResponse} (hd : Inv d)
    (h : (reserveOutcome settings visitorSession p.eventId p.ticketTypeId p.quantity p.idempotencyKey
      uuid4 now d).1 = .ok a) :
    ∃ r, p.AnsweredBy visitorSession d a (reserveOutcome settings visitorSession p.eventId
      p.ticketTypeId p.quantity p.idempotencyKey uuid4 now d).2 r := by
  unfold reserveOutcome at h ⊢
  cases hl : d.quantityLookup visitorSession.id p.idempotencyKey with
  | error e => simp [hl] at h
  | ok o =>
    simp only [hl] at h ⊢
    cases o with
    | some existing =>
      simp only [Except.ok.injEq] at h ⊢
      subst h
      obtain ⟨r, hr, hitems⟩ := quantityLookup_eq_some hd hl
      exact ⟨r, hr, hitems, fun hfree => absurd hr.keyUsed hfree, fun _ => rfl⟩
    | none =>
      have hfree := ((quantityLookup_eq_none hd).1 hl).2
      simp only at h ⊢
      split_ifs at h ⊢ with hi hc
      simp only [Except.ok.injEq] at h
      subst h
      refine ⟨newReservation settings visitorSession p.eventId p.idempotencyKey uuid4 now,
        ⟨?_, rfl, rfl, rfl, rfl, rfl, rfl⟩, ?_, fun _ => ⟨rfl, rfl⟩, fun hused => absurd hused hfree⟩
      · exact List.mem_append_right _ (List.mem_singleton_self _)
      · rw [Database.itemsOf_addQuantity, hd.no_items hc.fits, if_pos hc.parent]
        rfl

theorem seatsOf_expireSeats (d : Database) (xs : List UUID) (y : UUID) :
    (d.expireSeats xs).seatsOf y = (d.seatsOf y).map fun r =>
      if r.reservationId ∈ xs then { r with status := .expired } else r :=
  Table.filter_map_comm (fun r => by split_ifs <;> rfl) _

theorem SeatReservationService.answeredBy {p : SeatReservationCreate} {a : SeatReservationResponse}
    (hd : Inv d)
    (h : (reserveOutcome settings visitorSession p.eventId p.seatIds p.idempotencyKey uuid4 now d).1 =
      .ok a) :
    ∃ r, p.AnsweredBy visitorSession d a (reserveOutcome settings visitorSession p.eventId p.seatIds
      p.idempotencyKey uuid4 now d).2 r := by
  unfold reserveOutcome at h ⊢
  cases hl : d.seatLookup visitorSession.id p.idempotencyKey with
  | error e => simp [hl] at h
  | ok o =>
    simp only [hl] at h ⊢
    cases o with
    | some existing =>
      simp only [Except.ok.injEq] at h ⊢
      subst h
      obtain ⟨r, hr, hseats⟩ := seatLookup_eq_some hd hl
      exact ⟨r, hr, hseats, fun hfree => absurd hr.keyUsed hfree, fun _ => rfl⟩
    | none =>
      have hfree := ((seatLookup_eq_none hd).1 hl).2
      simp only at h ⊢
      split_ifs at h ⊢ with hs hc
      simp only [Except.ok.injEq] at h
      subst h
      refine ⟨newReservation settings visitorSession p.eventId p.idempotencyKey uuid4 now,
        ⟨?_, rfl, rfl, rfl, rfl, rfl, rfl⟩, ?_, fun _ => ⟨rfl, List.perm_insertionSort _ _⟩,
        fun hused => absurd hused hfree⟩
      · exact List.mem_append_right _ (List.mem_singleton_self _)
      · have hnone : d.seatsOf (uuid4 0) = [] := hd.no_seats ((Reservation.fits_expireSeats _).1 hc.fits)
        have hrows : (newSeats settings (p.seatIds.insertionSort (· ≤ ·)) uuid4 now).filter
            (fun r => r.reservationId = uuid4 0) =
            newSeats settings (p.seatIds.insertionSort (· ≤ ·)) uuid4 now :=
          List.filter_eq_self.2 fun r hr => decide_eq_true (hc.parent r hr)
        have hids := newSeats_seatIds settings (p.seatIds.insertionSort (· ≤ ·)) uuid4 now
        show p.seatIds.insertionSort (· ≤ ·) = (((Database.addSeats _ _ _).seatsOf (uuid4 0)).map
          ReservationSeat.seatId).insertionSort (· ≤ ·)
        rw [Database.seatsOf_addSeats, seatsOf_expireSeats, hnone, List.map_nil, List.nil_append, hrows,
          hids, (List.pairwise_insertionSort _ _).insertionSort_eq]

end

/-- What a successful answer of a call says, if it is a reserve call. -/
def Call.AnsweredBy (c : Call) (d : Database) (a : Response) (d' : Database) : Prop :=
  match c with
  | .reserveQuantity visitorSession p _ _ =>
    ∃ b r, a = .quantity b ∧ p.AnsweredBy visitorSession d b d' r
  | .reserveSeats visitorSession p _ _ => ∃ b r, a = .seats b ∧ p.AnsweredBy visitorSession d b d' r
  | _ => True

theorem Call.answeredBy {settings : Settings} {c : Call} {d d' : Database} {a : Response}
    (hd : Inv d) (h : c.spec settings d (.ok a) d') : c.AnsweredBy d a d' := by
  cases c with
  | reserveQuantity visitorSession p uuid4 now =>
    obtain ⟨hok, rfl⟩ := (Call.spec_reserveQuantity hd).1 h
    obtain ⟨b, hout, rfl⟩ := ok_eq_map hok
    obtain ⟨r, hr⟩ := QuantityReservationService.answeredBy hd hout
    exact ⟨b, r, rfl, hr⟩
  | reserveSeats visitorSession p uuid4 now =>
    obtain ⟨hok, rfl⟩ := (Call.spec_reserveSeats hd).1 h
    obtain ⟨b, hout, rfl⟩ := ok_eq_map hok
    obtain ⟨r, hr⟩ := SeatReservationService.answeredBy hd hout
    exact ⟨b, r, rfl, hr⟩
  | get | cancel | confirm | expireBatch => trivial

/-- **A success answer shows the visitor's reservation with the key**, and what
    was asked if the key was not used; alone, and in every run between two stores
    that the run has passed since the call arrived. -/
theorem success_about_request {settings : Settings} {d : Database} (h : Reachable settings d) :
    (∀ (c : Call) (a : Response) (d' : Database),
      (c.prog settings).alone d = (.ok a, d') → c.AnsweredBy d a d') ∧
    ∀ cfg, ServiceRun settings (start d) cfg → ∀ (i : ℕ) t, cfg.threads[i]? = some t → ∀ a,
      t.status = .returned (.ok a) → ∃ c d₁ d₂,
        Arrived (Call.prog settings) (start d) c i t.call t.born ∧
        Passes (Call.prog settings) c [d₁, d₂] cfg ∧ t.call.AnsweredBy d₁ a d₂ := by
  constructor
  · intro c a d' halone
    cases c with
    | reserveQuantity => exact Call.answeredBy h.inv (show Call.spec settings _ _ _ _ from halone)
    | reserveSeats => exact Call.answeredBy h.inv (show Call.spec settings _ _ _ _ from halone)
    | get | cancel | confirm | expireBatch => trivial
  · intro cfg r i t ht a hr
    obtain ⟨c, d₁, d₂, harr, hp, hd, hspec⟩ :=
      System.given_run (S := system settings) h.inv r ht hr
    exact ⟨c, d₁, d₂, harr, hp, Call.answeredBy hd hspec⟩

/-- Alice asks for four tickets with the key of her two tickets, and is answered with these. -/
theorem success_not_about_request : Reachable Sample.settings Sample.ticketsHeld ∧
    ∃ a, ((QuantityReservationService.reserve Sample.settings Sample.alice
      Sample.fourTickets.eventId Sample.fourTickets.ticketTypeId Sample.fourTickets.quantity
      Sample.fourTickets.idempotencyKey (Sample.uuid4 200) 6).alone Sample.ticketsHeld).1 = .ok a ∧
      a.items ≠ [⟨Sample.fourTickets.ticketTypeId, Sample.fourTickets.quantity⟩] :=
  ⟨Sample.ticketsHeld_reachable, ⟨100, .reserved, .quantity, 900000005, [⟨20, 2⟩]⟩, by decide,
    by decide⟩

theorem success_about_request_held :
    (∀ (c : Call) (a : Response) (d' : Database),
      (c.prog Sample.settings).alone Sample.ticketsHeld = (.ok a, d') →
        c.AnsweredBy Sample.ticketsHeld a d') ∧
    ∀ cfg, ServiceRun Sample.settings (start Sample.ticketsHeld) cfg → ∀ (i : ℕ) t,
      cfg.threads[i]? = some t → ∀ a, t.status = .returned (.ok a) → ∃ c d₁ d₂,
        Arrived (Call.prog Sample.settings) (start Sample.ticketsHeld) c i t.call t.born ∧
        Passes (Call.prog Sample.settings) c [d₁, d₂] cfg ∧ t.call.AnsweredBy d₁ a d₂ :=
  success_about_request Sample.ticketsHeld_reachable

end TicketReservation
