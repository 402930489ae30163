import TicketReservation.Http.Logging
import TicketReservation.EventRaces
import TicketReservation.Accounts.Authentication
import TicketReservation.Orderly
import TicketReservation.StressAdmin.Cycle
import TicketReservation.Locality
import TicketReservation.Honoured
import TicketReservation.Booking.Refinement
import TicketReservation.Safety
import TicketReservation.LifecycleSafety
import TicketReservation.Repeats
import TicketReservation.Conflicts
import TicketReservation.SeatReserve
import TicketReservation.Successes
import TicketReservation.Reads
import TicketReservation.Starvation
import TicketReservation.Isolation
import TicketReservation.Expiry
import TicketReservation.Commute
import TicketReservation.Stock
import TicketReservation.Sharing
import TicketReservation.InventoryView
import TicketReservation.Admission
import TicketReservation.Deadlock
import TicketReservation.SeatDeadlock
import TicketReservation.Storage
import TicketReservation.StressAdmin.Reset
import TicketReservation.StressAdmin.Worker
import TicketReservation.Lower
import TicketReservation.Txn.Finish
import TicketReservation.Accounts.OneWinner
import TicketReservation.Accounts.Logout
import TicketReservation.Ownership
import TicketReservation.Idempotency
import TicketReservation.Http.ErrorHandlers
import TicketReservation.Txn.Readers
import TicketReservation.Viewing
import TicketReservation.Records
import TicketReservation.Routers
