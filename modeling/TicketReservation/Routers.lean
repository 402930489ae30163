/-
  What the clients of the reservations are answered (reservations/router.py).

  Each handler expects some errors of its service and answers them with a status,
  a code and a text; another error ends in a response 500.

  * `no_internal_error`: in every run each error that a call answers is one that
    its handler expects, and there is a reason for it in a database that the run
    has passed since the call arrived.  The exception are the calls whose values
    PostgreSQL does not take.
-/
import TicketReservation.Records
import TicketReservation.Stock

namespace TicketReservation

open Txn

/-! ## The handlers -/

def insufficientStock : AppError := conflictError "Not enough stock available" "INSUFFICIENT_STOCK"

def seatsNotFound : AppError :=
  notFoundError "One or more seats do not exist for this event" "SEATS_NOT_FOUND"

def seatUnavailable : AppError :=
  conflictError "One or more seats are already reserved or confirmed" "SEAT_UNAVAILABLE"

def reservationNotFound : AppError := notFoundError "Reservation not found" "RESERVATION_NOT_FOUND"

def reservationNotCancellable : AppError :=
  conflictError "Reservation cannot be cancelled from its current state"
    "RESERVATION_NOT_CANCELLABLE"

def reservationNotConfirmable : AppError :=
  conflictError "Reservation cannot be confirmed from its current state"
    "RESERVATION_NOT_CONFIRMABLE"

/-- The `except` clauses; the worker has none. -/
def Call.except : Call → Error → Option AppError
  | .reserveQuantity _ _ _ _, .quantityReservationConflictError => some insufficientStock
  | .reserveSeats _ _ _ _, .seatsNotFoundError => some seatsNotFound
  | .reserveSeats _ _ _ _, .seatReservationConflictError => some seatUnavailable
  | .get _ _, .reservationNotFoundError => some reservationNotFound
  | .cancel _ _ _, .reservationNotFoundError => some reservationNotFound
  | .cancel _ _ _, .reservationInventoryConflictError => some reservationNotCancellable
  | .cancel _ _ _, .reservationTransitionConflictError => some reservationNotCancellable
  | .confirm _ _ _, .reservationNotFoundError => some reservationNotFound
  | .confirm _ _ _, .reservationInventoryConflictError => some reservationNotConfirmable
  | .confirm _ _ _, .reservationTransitionConflictError => some reservationNotConfirmable
  | _, _ => none

def Call.handled (c : Call) (result : Except Error Response) : Handled Response :=
  .of c.except result

/-! ## Reasons -/

/-- The visitor has no such reservation. -/
def Database.Missing (d : Database) (reservationId : UUID) (visitorSession : VisitorSession) :
    Prop :=
  ∀ r ∈ d.reservations, r.id = reservationId → ¬ r.ownedBy visitorSession.id visitorSession.userId

/-- The reservation of the visitor is in another final status, or it has expired. -/
def Database.Closed (d : Database) (target : ReservationStatus) (reservationId : UUID)
    (visitorSession : VisitorSession) (now : Instant) : Prop :=
  ∃ r ∈ d.reservations, r.id = reservationId ∧
    r.ownedBy visitorSession.id visitorSession.userId ∧ r.status ≠ target ∧
    (r.status ≠ .reserved ∨ r.expiresAt < now)

/-- **Why a call is refused** in `d`. -/
inductive Call.Refused (settings : Settings) (d : Database) : Call → AppError → Prop
  | insufficientStock {v p uuid4 now} :
      ¬ QuantityReservationService.CanReserve settings v p.eventId p.ticketTypeId p.quantity
        p.idempotencyKey uuid4 now d →
      Refused settings d (.reserveQuantity v p uuid4 now) insufficientStock
  | seatsNotFound {v p uuid4 now} : ¬ d.HasSeats p.eventId p.seatIds →
      Refused settings d (.reserveSeats v p uuid4 now) seatsNotFound
  | seatUnavailable {v p uuid4 now} : d.HasSeats p.eventId p.seatIds →
      ¬ SeatReservationService.CanReserve settings v p.eventId
        (p.seatIds.insertionSort (· ≤ ·)) p.idempotencyKey uuid4 now d →
      Refused settings d (.reserveSeats v p uuid4 now) seatUnavailable
  | getMissing {x v} : d.Missing x v → Refused settings d (.get x v) reservationNotFound
  | cancelMissing {x v now} : d.Missing x v →
      Refused settings d (.cancel x v now) reservationNotFound
  | notCancellable {x v now} : d.Closed .cancelled x v now →
      Refused settings d (.cancel x v now) reservationNotCancellable
  | confirmMissing {x v now} : d.Missing x v →
      Refused settings d (.confirm x v now) reservationNotFound
  | notConfirmable {x v now} : d.Closed .confirmed x v now →
      Refused settings d (.confirm x v now) reservationNotConfirmable

/-- PostgreSQL does not take the values of the request: a key with U+0000, or a quantity beyond
32 bits. -/
def Call.Unencodable : Call → Prop
  | .reserveQuantity _ payload _ _ => ¬ Storable payload.idempotencyKey ∨ ¬ Int32 payload.quantity
  | .reserveSeats _ payload _ _ => ¬ Storable payload.idempotencyKey
  | _ => False

section
variable {settings : Settings} {d d' : Database}

theorem missing_of_none (hd : Inv d) {x : UUID} {v : VisitorSession}
    (h : d.ownedReservation x v.id v.userId = none) : d.Missing x v := by
  intro r hr hid ho
  rw [(ownedReservation_eq_some hd).2 ⟨hr, hid, ho⟩] at h
  cases h

/-- `cancel` and `confirm` fail for two reasons. -/
theorem moveToOutcome_error (hd : Inv d) {s : ReservationStatus} {x : UUID} {v : VisitorSession}
    {now : Instant} {e : Error} (h : (moveToOutcome s x v now d).1 = .error e) :
    e = .reservationNotFoundError ∧ d.Missing x v ∨
      e = .reservationTransitionConflictError ∧ d.Closed s x v now := by
  unfold moveToOutcome at h
  cases ho : d.ownedReservation x v.id v.userId with
  | none =>
    rw [ho] at h
    cases h
    exact .inl ⟨rfl, missing_of_none hd ho⟩
  | some r =>
    rw [ho] at h
    obtain ⟨hr, hid, hown⟩ := (ownedReservation_eq_some hd).1 ho
    simp only [moveOutcome] at h
    split_ifs at h with hs hres hexp
    · cases h
      exact .inr ⟨rfl, r, hr, hid, hown, hs, .inl hres⟩
    · cases h
      exact .inr ⟨rfl, r, hr, hid, hown, hs, .inr hexp⟩

/-- **An error of a call that takes effect atomically.** -/
theorem Call.refused {c : Call} (hd : Inv d) {e : Error} (h : c.spec settings d (.error e) d')
    (hc : ∀ x v, c ≠ .get x v) :
    (∃ x, c.except e = some x ∧ c.Refused settings d x) ∨
      e = .dataError ∧ c.except e = none ∧ c.Unencodable := by
  have of_map : ∀ {α : Type} {f : α → Response} {r : Except Error α}, .error e = r.map f →
      r = .error e := by
    intro α f r hr
    cases r <;> cases hr
    rfl
  cases c with
  | get x v => exact absurd rfl (hc x v)
  | expireBatch b now ids =>
    obtain ⟨xs, -, hr, -⟩ := (spec_expireBatch hd).1 h
    cases hr
  | cancel x v now =>
    rcases moveToOutcome_error hd (of_map ((spec_cancel hd).1 h).1) with ⟨rfl, hm⟩ | ⟨rfl, hm⟩
    · exact .inl ⟨_, rfl, .cancelMissing hm⟩
    · exact .inl ⟨_, rfl, .notCancellable hm⟩
  | confirm x v now =>
    rcases moveToOutcome_error hd (of_map ((spec_confirm hd).1 h).1) with ⟨rfl, hm⟩ | ⟨rfl, hm⟩
    · exact .inl ⟨_, rfl, .confirmMissing hm⟩
    · exact .inl ⟨_, rfl, .notConfirmable hm⟩
  | reserveQuantity v p uuid4 now =>
    have hr := of_map ((spec_reserveQuantity hd).1 h).1
    unfold QuantityReservationService.reserveOutcome at hr
    split at hr
    · rename_i hl
      cases hr
      obtain ⟨rfl, hk⟩ := quantityLookup_error hd hl
      exact .inr ⟨rfl, rfl, .inl hk⟩
    · cases hr
    · split_ifs at hr with hint hcan
      · cases hr
        exact .inl ⟨_, rfl, .insufficientStock hcan⟩
      · cases hr
        exact .inr ⟨rfl, rfl, .inr hint⟩
  | reserveSeats v p uuid4 now =>
    have hr := of_map ((spec_reserveSeats hd).1 h).1
    unfold SeatReservationService.reserveOutcome at hr
    split at hr
    · rename_i hl
      cases hr
      obtain ⟨rfl, hk⟩ := seatLookup_error hd hl
      exact .inr ⟨rfl, rfl, hk⟩
    · cases hr
    · split_ifs at hr with hseats hcan
      · cases hr
        exact .inl ⟨_, rfl, .seatsNotFound (mt (eventSeats_eq_iff hd p.seats_unique).2 hseats)⟩
      · cases hr
        exact .inl ⟨_, rfl, .seatUnavailable
          ((eventSeats_eq_iff hd p.seats_unique).1 (not_not.1 hseats)) hcan⟩

/-! ## `get`, which takes no locks -/

theorem silent_get (x : UUID) (v : VisitorSession) : ((Call.get x v).prog settings).Silent := by
  rw [get_eq]
  refine ⟨fun _ _ => rfl, fun o => ?_⟩
  cases o with
  | none => exact ⟨fun _ _ => rfl, fun _ => trivial⟩
  | some r =>
    exact ⟨fun _ _ => rfl, fun _ => ⟨fun _ _ => rfl, fun _ => ⟨fun _ _ => rfl, fun _ => trivial⟩⟩⟩

/-- Only the first of its reads fails. -/
theorem sees_get_error {x : UUID} {v : VisitorSession} {ds : List Database} {e : Error}
    (h : Sees ((Call.get x v).prog settings) ds (.raise e)) :
    e = .reservationNotFoundError ∧ ∃ d ∈ ds, d.ownedReservation x v.id v.userId = none := by
  rw [get_eq] at h
  cases h with
  | @cons _ _ _ d busy ds _ h =>
    dsimp only [Stmt.ofPlan, Session.view_empty] at h
    cases ho : d.ownedReservation x v.id v.userId with
    | none =>
      rw [ho] at h
      refine ⟨?_, d, List.mem_cons_self, ho⟩
      cases h with
      | cons _ _ h => cases h; rfl
    | some r =>
      rw [ho] at h
      -- the items, the seats, the rollback
      cases h with
      | cons _ _ h =>
        cases h with
        | cons _ _ h =>
          cases h with
          | cons _ _ h => cases h

end

/-! ## Every run -/

/-- **Nobody is answered with an internal error**, but for values that PostgreSQL does not take.
    This is about the answers of the services: a call that the database aborts has none, and it ends
    in a response 500 too. -/
theorem no_internal_error {settings : Settings} {d₀ : Database} {cfg : ServiceConfig}
    (h : Inventory d₀) (r : ServiceRun settings (start d₀) cfg)
    {i : ℕ} {t : Thread Call Database Write Lock Error Response} (ht : cfg.threads[i]? = some t)
    {e : Error} (he : t.status = .returned (.error e)) :
    (∃ x, t.call.handled (.error e) = .appError x ∧
      ∃ d, cfg.Committed settings d₀ i t d ∧ t.call.Refused settings d x) ∨
    t.call.handled (.error e) = .unhandled .dataError ∧ t.call.Unencodable := by
  by_cases hget : ∃ x v, t.call = .get x v
  · obtain ⟨x, v, hc⟩ := hget
    obtain ⟨c, ds, harr, hp, hseen⟩ := sees_run rfl r ht (by rw [hc]; exact silent_get x v)
    rw [he, hc] at hseen
    obtain ⟨rfl, d, hd, hnone⟩ := sees_get_error hseen
    obtain ⟨c₁, r₂, rfl, -⟩ := hp.mem d hd
    have hsince : cfg.Committed settings d₀ i t c₁.db := ⟨c, harr, hp.single hd⟩
    rw [hc]
    exact .inl ⟨_, rfl, c₁.db, hsince,
      .getMissing (missing_of_none (ServiceRun.inv h.inv (harr.run.trans r₂)) hnone)⟩
  · push Not at hget
    obtain ⟨c, d, d', harr, hp, hd, hspec⟩ :=
      System.given_run (S := system settings) h.inv r ht he
    rcases Call.refused hd hspec hget with ⟨x, hx, hreason⟩ | ⟨rfl, hx, hun⟩
    · refine .inl ⟨x, ?_, d, ⟨c, harr, hp.single List.mem_cons_self⟩, hreason⟩
      rw [Call.handled, Handled.of, hx]
      rfl
    · refine .inr ⟨?_, hun⟩
      rw [Call.handled, Handled.of, hx]
      rfl

/-- Alice has four of five tickets, and Bob asks for four. -/
def Sample.soldOut : ServiceConfig := (start inventory).after (Call.prog settings)
  (alone 0 6 (.reserveQuantity alice fourTickets (uuid4 100) 5) ++
    alone 1 6 (.reserveQuantity bob fourTickets (uuid4 200) 5))

theorem no_internal_error_soldOut : ∃ t, Sample.soldOut.threads[1]? = some t ∧
    t.status = .returned (.error .quantityReservationConflictError) ∧
    ((∃ x, t.call.handled (.error .quantityReservationConflictError) = .appError x ∧
      ∃ d, Sample.soldOut.Committed Sample.settings Sample.inventory 1 t d ∧
        t.call.Refused Sample.settings d x) ∨
      t.call.handled (.error .quantityReservationConflictError) = .unhandled .dataError ∧
        t.call.Unencodable) := by
  have r : ServiceRun Sample.settings (start Sample.inventory) Sample.soldOut :=
    run_after (by decide)
  obtain ⟨t, ht, hr⟩ : ∃ t, Sample.soldOut.threads[1]? = some t ∧
      t.status = .returned (.error .quantityReservationConflictError) := ⟨_, rfl, rfl⟩
  exact ⟨t, ht, hr, no_internal_error Sample.inventory_inventory r ht hr⟩

end TicketReservation
