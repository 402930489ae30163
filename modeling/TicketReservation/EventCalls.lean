/-
  What the calls of `EventService` do alone.

  * `alone_createEvent`, `alone_createTicketType`, `alone_createSeats`: the
    answer and the database, by cases on what the call finds;
  * `fitAll_iff`: seats with fresh ids can be inserted one after another iff
    all positions stay different.
-/
import TicketReservation.Events

namespace TicketReservation

open Txn

variable {d : Database} {σ : Session}

/-! ## Inserts -/

theorem run_flushInsert {fits : Database → Prop} [DecidablePred fits]
    {waits : Database → List Lock} {takes : List Lock} {write : Write} :
    (flushInsert fits waits takes write).run d σ =
      if fits (σ.view d) then (.ok (), d, ⟨σ.writes ++ [write], σ.locks ++ takes⟩)
      else (.error .integrityError, d, ∅) := by
  rw [flushInsert, execute, Prog.bind_eq, Prog.run_bind_ok (Prog.run_exec _ _ _)]
  by_cases h : fits (σ.view d)
  · simp only [Stmt.ofPlan, if_pos h]
    rfl
  · simp only [Stmt.ofPlan, if_neg h]
    rfl

theorem run_flushEncoded {encodable : Prop} [Decidable encodable] {insert : Tx Unit} :
    (flushEncoded encodable insert).run d σ =
      if encodable then insert.run d σ else (.error .dataError, d, ∅) := by
  unfold flushEncoded
  split_ifs <;> rfl

theorem run_insertEvent {row : Event} : (insertEvent row).run d σ =
    if row.Encodable then
      if row.Fits (σ.view d) then (.ok (), d, ⟨σ.writes ++ [.insertEvent row], σ.locks ++ []⟩)
      else (.error .integrityError, d, ∅)
    else (.error .dataError, d, ∅) := by
  rw [insertEvent, run_flushEncoded, run_flushInsert]

theorem run_insertTicketType {row : TicketType} : (insertTicketType row).run d σ =
    if VarChar 255 row.name ∧ Int32 row.totalQuantity then
      if row.Fits (σ.view d) then
        (.ok (), d, ⟨σ.writes ++ [.insertTicketType row], σ.locks ++ [.ticketType row.id]⟩)
      else (.error .integrityError, d, ∅)
    else (.error .dataError, d, ∅) := by
  rw [insertTicketType, run_flushEncoded, run_flushInsert]

/-- The rows fit one after another. -/
def FitAll : List Seat → Database → Prop
  | [], _ => True
  | row :: rows, d => row.Fits d ∧ FitAll rows (d.apply (.insertSeat row))

instance : ∀ (rows : List Seat) (d : Database), Decidable (FitAll rows d)
  | [], _ => inferInstanceAs (Decidable True)
  | row :: rows, d =>
    have := instDecidableFitAll rows (d.apply (.insertSeat row))
    inferInstanceAs (Decidable (row.Fits d ∧ FitAll rows (d.apply (.insertSeat row))))

theorem run_insertEachSeat (rows : List Seat) : (insertEachSeat rows).run d σ =
    if FitAll rows (σ.view d) then
      (.ok (), d, ⟨σ.writes ++ rows.map .insertSeat, σ.locks ++ rows.map fun row => .seat row.id⟩)
    else (.error .integrityError, d, ∅) := by
  induction rows generalizing σ with
  | nil =>
    rw [if_pos (show FitAll [] (σ.view d) from trivial), List.map_nil, List.map_nil, List.append_nil,
      List.append_nil]
    rfl
  | cons row rows ih =>
    rw [insertEachSeat, insertSeat, Prog.bind_eq, Prog.run_bind, run_flushInsert]
    by_cases hrow : row.Fits (σ.view d)
    · rw [if_pos hrow]
      simp only [ih, Session.view_snoc, FitAll, hrow, true_and, List.append_assoc]
      rfl
    · rw [if_neg hrow, if_neg fun h => hrow h.1]

/-- The database with further seats. -/
def Database.addSeatRows (d : Database) (rows : List Seat) : Database :=
  { d with seats := d.seats ++ rows }

theorem view_insertSeats (rows : List Seat) (Λ : List Lock) (d : Database) :
    (⟨rows.map .insertSeat, Λ⟩ : Session).view d = d.addSeatRows rows := by
  induction rows generalizing d with
  | nil => simp [Session.view, Database.addSeatRows]
  | cons row rows ih =>
    have hview : (⟨(row :: rows).map .insertSeat, Λ⟩ : Session).view d =
        (⟨rows.map .insertSeat, Λ⟩ : Session).view (d.apply (.insertSeat row)) := rfl
    rw [hview, ih]
    simp [Database.addSeatRows]

/-- The columns of `uq_seats_event_id_section_row_name_seat_number`. -/
abbrev Seat.position (s : Seat) : UUID × String × String × String :=
  (s.eventId, s.section_, s.rowName, s.seatNumber)

/-- **Seats with fresh ids fit iff all positions stay different.** -/
theorem fitAll_iff {rows : List Seat} (hpos : (d.seats.map Seat.position).Nodup)
    (hids : ((d.seats ++ rows).map Seat.id).Nodup)
    (hev : ∀ row ∈ rows, ∃ e ∈ d.events, e.id = row.eventId) :
    FitAll rows d ↔ ((d.seats ++ rows).map Seat.position).Nodup := by
  induction rows generalizing d with
  | nil =>
    rw [List.append_nil]
    exact ⟨fun _ => hpos, fun _ => trivial⟩
  | cons row rows ih =>
    have hseats : (d.apply (.insertSeat row)).seats = d.seats ++ [row] := rfl
    rw [List.append_cons, ← hseats] at hids ⊢
    have hnew : ∀ {κ : Type} (key : Seat → κ),
        (((d.apply (.insertSeat row)).seats ++ rows).map key).Nodup →
        ((d.apply (.insertSeat row)).seats.map key).Nodup ∧ ∀ s ∈ d.seats, key s ≠ key row := by
      intro κ key hn
      have hn := hn.sublist ((List.sublist_append_left _ rows).map key)
      refine ⟨hn, fun s hs heq => ?_⟩
      rw [hseats, List.map_append, List.nodup_append] at hn
      exact hn.2.2 _ (List.mem_map_of_mem hs) _ (by simp) heq
    constructor
    · rintro ⟨hf, hrest⟩
      have hpos' : ((d.apply (.insertSeat row)).seats.map Seat.position).Nodup := by
        rw [hseats]
        refine Table.nodup_append_key hpos (by simp) fun s hs b hb => ?_
        rw [List.mem_singleton.1 hb]
        exact hf.position s hs
      exact (ih hpos' hids fun r hr => hev r (List.mem_cons_of_mem _ hr)).1 hrest
    · intro hn
      obtain ⟨hpos', hne⟩ := hnew Seat.position hn
      refine ⟨⟨(hnew Seat.id hids).2, hev row List.mem_cons_self, hne⟩, ?_⟩
      exact (ih hpos' hids fun r hr => hev r (List.mem_cons_of_mem _ hr)).2 hn

/-! ## Calls -/

namespace EventService

theorem run_getEvent (eventId : UUID) : (getEvent eventId).run d ∅ =
    match d.events.find? fun e => e.id = eventId with
    | none => (.error .eventNotFoundError, d, ∅)
    | some event => (.ok event, d, ∅) := by
  rw [getEvent, execute, Prog.bind_eq, Prog.run_bind_ok (Prog.run_exec _ _ _)]
  simp only [Stmt.ofPlan, Session.view_empty]
  cases d.events.find? fun e => e.id = eventId <;> rfl

theorem run_getEvent_ok {eventId : UUID} (h : ∃ e ∈ d.events, e.id = eventId) :
    ∃ event, (getEvent eventId).run d ∅ = (.ok event, d, ∅) := by
  rw [run_getEvent]
  cases hf : d.events.find? fun e => e.id = eventId with
  | none =>
    obtain ⟨e, he, hid⟩ := h
    exact absurd (decide_eq_true hid) (List.find?_eq_none.1 hf e he)
  | some event => exact ⟨event, rfl⟩

theorem run_getEvent_error {eventId : UUID} (h : ¬ ∃ e ∈ d.events, e.id = eventId) :
    (getEvent eventId).run d ∅ = (.error .eventNotFoundError, d, ∅) := by
  have hf : (d.events.find? fun e => e.id = eventId) = none := by
    rw [List.find?_eq_none]
    intro e he hid
    exact h ⟨e, he, of_decide_eq_true hid⟩
  rw [run_getEvent, hf]

def newEvent (name : String) (startsAt endsAt : Instant) (uuid4 : UUID) : Event :=
  { id := uuid4, name := strip name, startsAt := startsAt, endsAt := endsAt }

def newTicketType (eventId : UUID) (name : String) (totalQuantity : ℤ) (uuid4 : UUID) : TicketType :=
  { id := uuid4, eventId := eventId, name := strip name, totalQuantity := totalQuantity,
    soldQuantity := 0, reservedQuantity := 0 }

/-- **`create_event` alone.** -/
theorem alone_createEvent (name : String) (startsAt endsAt : Instant) (uuid4 : UUID) :
    (createEvent name startsAt endsAt uuid4).alone d =
      if (newEvent name startsAt endsAt uuid4).Encodable then
        if (newEvent name startsAt endsAt uuid4).Fits d then
          (.ok (newEvent name startsAt endsAt uuid4),
            d.apply (.insertEvent (newEvent name startsAt endsAt uuid4)))
        else (.error .integrityError, d)
      else (.error .dataError, d) := by
  have hrun : (createEvent name startsAt endsAt uuid4).run d ∅ =
      ((insertEvent (newEvent name startsAt endsAt uuid4)).bind fun _ => Prog.commitTx.bind fun _ =>
        .ret (newEvent name startsAt endsAt uuid4)).run d ∅ := rfl
  rw [Prog.alone, hrun, Prog.run_bind, run_insertEvent, Session.view_empty]
  split_ifs <;> rfl

/-- **`create_ticket_type` alone.** -/
theorem alone_createTicketType (eventId : UUID) (name : String) (totalQuantity : ℤ) (uuid4 : UUID) :
    (createTicketType eventId name totalQuantity uuid4).alone d =
      if ∃ e ∈ d.events, e.id = eventId then
        if VarChar 255 (strip name) ∧ Int32 totalQuantity then
          if (newTicketType eventId name totalQuantity uuid4).Fits d then
            (.ok (newTicketType eventId name totalQuantity uuid4),
              d.apply (.insertTicketType (newTicketType eventId name totalQuantity uuid4)))
          else (.error .integrityError, d)
        else (.error .dataError, d)
      else (.error .eventNotFoundError, d) := by
  by_cases hev : ∃ e ∈ d.events, e.id = eventId
  · obtain ⟨event, hget⟩ := run_getEvent_ok hev
    rw [if_pos hev, Prog.alone, createTicketType, Prog.bind_eq, Prog.run_bind_ok hget, Prog.bind_eq,
      Prog.run_bind, run_insertTicketType]
    by_cases henc : VarChar 255 (strip name) ∧ Int32 totalQuantity
    · rw [if_pos henc, if_pos henc]
      by_cases hfits : (newTicketType eventId name totalQuantity uuid4).Fits d
      · rw [if_pos hfits, if_pos (by exact hfits)]
        rfl
      · rw [if_neg hfits, if_neg (by exact hfits)]
    · rw [if_neg henc, if_neg henc]
  · rw [if_neg hev, Prog.alone, createTicketType, Prog.bind_eq,
      Prog.run_bind_error (run_getEvent_error hev)]

/-- **`create_seats` alone.** -/
theorem alone_createSeats (eventId : UUID) (seatInputs : List SeatCreate) (uuid4 : ℕ → UUID) :
    (createSeats eventId seatInputs uuid4).alone d =
      if ∃ e ∈ d.events, e.id = eventId then
        if ∀ row ∈ newSeats eventId seatInputs uuid4, row.Encodable then
          if FitAll (newSeats eventId seatInputs uuid4) d then
            (.ok (newSeats eventId seatInputs uuid4),
              d.addSeatRows (newSeats eventId seatInputs uuid4))
          else (.error .seatConflictError, d)
        else (.error .dataError, d)
      else (.error .eventNotFoundError, d) := by
  by_cases hev : ∃ e ∈ d.events, e.id = eventId
  · obtain ⟨event, hget⟩ := run_getEvent_ok hev
    rw [if_pos hev, Prog.alone, createSeats, Prog.bind_eq, Prog.run_bind_ok hget, Prog.bind_eq,
      Prog.run_bind, Prog.run_tryCatch, Prog.bind_eq, Prog.run_bind, insertSeats, run_flushEncoded]
    split_ifs with henc hfit
    · rw [run_insertEachSeat, if_pos (by exact hfit), ← view_insertSeats]
      rfl
    · rw [run_insertEachSeat, if_neg (by exact hfit)]
      rfl
    · rfl
  · rw [if_neg hev, Prog.alone, createSeats, Prog.bind_eq,
      Prog.run_bind_error (run_getEvent_error hev)]

end EventService

end TicketReservation
