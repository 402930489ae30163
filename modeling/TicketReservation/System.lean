/-
  The service as a system of concurrent transactions.

  Every call takes effect atomically (`Call.sound`), so the general results of
  `Txn.Serial` hold of every run of `system settings`.
-/
import TicketReservation.Atomic.Quantity
import TicketReservation.Atomic.Seats
import TicketReservation.Txn.Serial

namespace TicketReservation

open Txn

/-- `get` changes nothing; what it reads may change between its statements. -/
theorem get_reads (reservationId : UUID) (visitorSession : VisitorSession) (settings : Settings) :
    ((Call.get reservationId visitorSession).prog settings).Reads := by
  refine Prog.Reads.bind (Prog.Reads.bind (Prog.reads_exec _) fun o => ?_) fun _ => trivial
  cases o with
  | none => exact Prog.Reads.bind (Prog.reads_exec _) fun _ => trivial
  | some reservation =>
    refine Prog.Reads.bind ?_ fun _ => Prog.Reads.bind (Prog.reads_exec _) fun _ => trivial
    exact Prog.Reads.bind (Prog.reads_exec _) fun _ =>
      Prog.Reads.bind (Prog.reads_exec _) fun _ => trivial

/-- **Every call takes effect atomically.** -/
theorem Call.sound (settings : Settings) (c : Call) (d : Database) (hd : Inv d) :
    wp (c.spec settings) (c.prog settings) (Answers (c.spec settings))
      (Point.start Write (Except Error Response) (P := protocol) d hd) := by
  cases c with
  | reserveQuantity visitorSession payload uuid4 now =>
    exact (QuantityReservationService.atomically_reserve payload.quantity_pos _).solo
      (fun _ _ h => by cases h; rfl) d hd
  | reserveSeats visitorSession payload uuid4 now =>
    exact (SeatReservationService.atomically_reserve payload.seatIds_ne_nil payload.seats_unique
      _).solo (fun _ _ h => by cases h; rfl) d hd
  | get reservationId visitorSession =>
    refine wp_of_reads (fun _ _ => ?_) (get_reads reservationId visitorSession settings) ?_ <;> rfl
  | cancel reservationId visitorSession now =>
    exact (atomically_moveTo (by simp) now _).solo (fun _ _ h => by cases h; rfl) d hd
  | confirm reservationId visitorSession now =>
    exact (atomically_moveTo (by simp) now _).solo (fun _ _ h => by cases h; rfl) d hd
  | expireBatch batchSize now reservationIds => exact sound_expireBatch d hd

theorem Call.alone_spec (settings : Settings) (c : Call) {d : Database} (hd : Inv d) :
    c.spec settings d ((c.prog settings).alone d).1 ((c.prog settings).alone d).2 :=
  wp_alone (Call.sound settings c d hd)

theorem Call.alone_leads (settings : Settings) (c : Call) {d : Database} (hd : Inv d) :
    protocol.Leads d ((c.prog settings).alone d).2 :=
  wp_alone_leads (Call.sound settings c d hd)

/-- **The reservation service.** -/
def system (settings : Settings) : System Call Database Write Lock Error Response where
  prog := Call.prog settings
  protocol := protocol
  spec := Call.spec settings
  sound := Call.sound settings

/-- A configuration of the service. -/
abbrev ServiceConfig := Config Call Database Write Lock Error Response

end TicketReservation
