/-
  Runs of the service from an inventory.

  A run starts with a database that `EventService` has created and no calls in
  flight.  `Reachable` are the databases committed in such runs.
-/
import TicketReservation.System
import TicketReservation.Events
import TicketReservation.Txn.Visited

namespace TicketReservation

open Txn

/-- No call has arrived yet. -/
abbrev start (d : Database) : ServiceConfig := ⟨d, []⟩

/-- A run of the service. -/
abbrev ServiceRun (settings : Settings) (cfg cfg' : ServiceConfig) : Prop :=
  Run (Call.prog settings) cfg cfg'

/-- **A committed database.** -/
def Reachable (settings : Settings) (d : Database) : Prop :=
  ∃ d₀ cfg, Inventory d₀ ∧ ServiceRun settings (start d₀) cfg ∧ cfg.db = d

/-- The run has committed the database since the call arrived. -/
def ServiceConfig.Committed (settings : Settings) (d₀ : Database) (cfg : ServiceConfig) (i : ℕ)
    (t : Thread Call Database Write Lock Error Response) : Database → Prop :=
  Since (Call.prog settings) (start d₀) cfg i t.call t.born

section
variable {settings : Settings} {d₀ d : Database} {cfg cfg' : ServiceConfig}

/-- **Every committed database of a run satisfies the invariant.** -/
theorem ServiceRun.inv {ok} (h : Inv d₀)
    (r : Run.Where (Call.prog settings) ok (start d₀) cfg) : Inv cfg.db :=
  System.inv_run (S := system settings) h r

theorem Reachable.inv (h : Reachable settings d) : Inv d := by
  obtain ⟨d₀, cfg, h₀, r, rfl⟩ := h
  exact ServiceRun.inv h₀.inv r

theorem Reachable.of_run (h : Inventory d₀) (r : ServiceRun settings (start d₀) cfg) :
    Reachable settings cfg.db :=
  ⟨d₀, cfg, h, r, rfl⟩

theorem Inventory.reachable (h : Inventory d) : Reachable settings d :=
  .of_run h (.refl (start d))

end

/-! ## A small inventory -/

namespace Sample

def settings : Settings := ⟨900⟩

def alice : VisitorSession := ⟨1, none, "alice", 0, 1⟩

def bob : VisitorSession := ⟨2, none, "bob", 0, 1⟩

theorem visitors_catalogue : Catalogue { visitorSessions := [alice, bob] } :=
  ⟨by decide, by decide, by decide, by decide, by decide, by decide, by decide, by decide, by decide⟩

/-- The event 10 with five tickets of type 20, and the seats 30 and 31. -/
def inventory : Database :=
  ((EventService.createSeats 10 [⟨"A", "1", "1"⟩, ⟨"A", "1", "2"⟩] (30 + ·)).alone
    ((EventService.createTicketType 10 "General" 5 20).alone
      ((EventService.createEvent "Concert" 0 1 10).alone
        { visitorSessions := [alice, bob] }).2).2).2

theorem inventory_inventory : Inventory inventory :=
  .createSeats _ _ _ (.createTicketType _ _ _ _ (.createEvent _ _ _ _ (.sessions _ _
    visitors_catalogue)))

/-- The ids that a call draws. -/
def uuid4 (base n : ℕ) : UUID := base + n

theorem length_k : 1 ≤ "k".length ∧ "k".length ≤ 255 := by decide

def twoTickets : QuantityReservationCreate :=
  ⟨10, 20, 2, "k", by decide, length_k⟩

def fourTickets : QuantityReservationCreate :=
  ⟨10, 20, 4, "k", by decide, length_k⟩

def oneSeat : SeatReservationCreate :=
  ⟨10, [30], "k", by decide, by decide, length_k⟩

/-- Two tickets and the seat 30, with a key that is one U+0000. -/
def nulTickets : QuantityReservationCreate :=
  ⟨10, 20, 2, "\x00", by decide, by decide⟩

def nulSeat : SeatReservationCreate :=
  ⟨10, [30], "\x00", by decide, by decide, by decide⟩

/-- A call arrives and takes `n` steps. -/
def alone (i n : ℕ) (c : Call) : List (Action Call) := .arrive c :: List.replicate n (.step i)

/-- Alice holds the seat 30 until 900000005. -/
def seatHeld : Database :=
  ((start inventory).after (Call.prog settings)
    (alone 0 8 (.reserveSeats alice oneSeat (uuid4 100) 5))).db

theorem seatHeld_reachable : Reachable settings seatHeld :=
  .of_run inventory_inventory (run_after (by decide))

def seatReservation : Reservation := ⟨100, 10, 1, none, .reserved, .seats, "k", 900000005⟩

end Sample

end TicketReservation
