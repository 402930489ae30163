/-
  The databases that the services reach one after another.

  `Served` alternates runs of the reservation service, which are concurrent,
  with the calls of `EventService` and of `StressAdminService`, which are
  executed alone.  Each keeps the invariant (`Served.inv`).
-/
import TicketReservation.Runs
import TicketReservation.StressAdmin.Seed

namespace TicketReservation

/-- **A database that the services have reached**, for any users and visitor
    sessions. -/
inductive Served (settings : Settings) : Database → Prop
  | sessions (users : List User) (visitorSessions : List VisitorSession) :
      Catalogue { users := users, visitorSessions := visitorSessions } →
      Served settings { users := users, visitorSessions := visitorSessions }
  | createEvent {d : Database} (name : String) (startsAt endsAt : Instant) (uuid4 : UUID) :
      Served settings d →
      Served settings ((EventService.createEvent name startsAt endsAt uuid4).alone d).2
  | createTicketType {d : Database} (eventId : UUID) (name : String) (totalQuantity : ℤ)
      (uuid4 : UUID) : Served settings d →
      Served settings ((EventService.createTicketType eventId name totalQuantity uuid4).alone d).2
  | createSeats {d : Database} (eventId : UUID) (seatInputs : List SeatCreate) (uuid4 : ℕ → UUID) :
      Served settings d →
      Served settings ((EventService.createSeats eventId seatInputs uuid4).alone d).2
  | run {d : Database} {cfg : ServiceConfig} : Served settings d →
      ServiceRun settings (start d) cfg → Served settings cfg.db
  | seed {d : Database} (now : Instant) (uuid4 : ℕ → UUID) : Served settings d →
      Served settings ((StressAdminService.seed now uuid4).alone d).2
  | reset {d : Database} : Served settings d → Served settings (StressAdminService.reset.alone d).2

variable {settings : Settings} {d : Database}

theorem Inventory.served (h : Inventory d) : Served settings d := by
  induction h with
  | sessions users visitorSessions hc => exact .sessions users visitorSessions hc
  | createEvent name startsAt endsAt uuid4 _ ih => exact .createEvent name startsAt endsAt uuid4 ih
  | createTicketType eventId name totalQuantity uuid4 _ ih =>
    exact .createTicketType eventId name totalQuantity uuid4 ih
  | createSeats eventId seatInputs uuid4 _ ih => exact .createSeats eventId seatInputs uuid4 ih

theorem Reachable.served (h : Reachable settings d) : Served settings d := by
  obtain ⟨d₀, cfg, h₀, r, rfl⟩ := h
  exact .run h₀.served r

/-- **The invariant holds of every served database.** -/
theorem Served.inv (h : Served settings d) : Inv d := by
  induction h with
  | sessions users visitorSessions hc => exact (Inventory.sessions users visitorSessions hc).inv
  | createEvent name startsAt endsAt uuid4 _ ih =>
    exact (EventService.maintains_createEvent Inv.insertsKeep _ _ _ _).alone ih
  | createTicketType eventId name totalQuantity uuid4 _ ih =>
    exact (EventService.maintains_createTicketType Inv.insertsKeep _ _ _ _).alone ih
  | createSeats eventId seatInputs uuid4 _ ih =>
    exact (EventService.maintains_createSeats Inv.insertsKeep _ _ _).alone ih
  | run _ r ih => exact ServiceRun.inv ih r
  | seed now uuid4 _ ih => exact (StressAdminService.maintains_seed Inv.insertsKeep _ _).alone ih
  | reset _ ih => exact StressAdminService.inv_reset ih

end TicketReservation
