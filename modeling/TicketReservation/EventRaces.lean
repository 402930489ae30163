/-
  `EventService` with other calls running.

  A unique index has an entry for every row, also for a row that is not
  committed yet, and an `INSERT` that would repeat an entry of another
  transaction waits for it.  The programs of this file are those of Events.lean
  with the entries that their `INSERT`s make.  A batch of seats makes its entries
  one after another, so two batches can wait for each other; PostgreSQL then
  aborts one.  As there, `session.refresh` reads back the row that was committed:
  calls only add rows (`Adds`).

  * `Call.sound`: every call does at one moment what the program of Events.lean
    does alone;
  * `created_run`: a database that concurrent calls have created is one that the
    calls, executed alone, reach one after another; batches that are stored have
    no seat in common, and a batch is refused for a seat that is there.
-/
import TicketReservation.SeatBatch
import TicketReservation.Txn.Visited

namespace TicketReservation.Indexed

open Txn Relation

/-! ## The programs -/

/-- An entry of a primary key, or of `uq_seats_event_id_section_row_name_seat_number`. -/
inductive IndexEntry where
  | event (id : UUID)
  | ticketType (id : UUID)
  | seat (id : UUID)
  | position (position : UUID × String × String × String)
  deriving DecidableEq, Repr

abbrev Tx (α : Type) := Prog Database Write IndexEntry Error α

/-- Flush one `INSERT`, which makes these entries. -/
def flushInsert (fits : Database → Prop) [DecidablePred fits] (entries : List IndexEntry)
    (write : Write) : Tx Unit := do
  let inserted ← Prog.exec (Stmt.ofPlan fun d =>
    if fits d then { result := true, takes := entries, writes := [write] } else { result := false })
  if inserted then return () else do
    Prog.rollback
    .raise .integrityError

/-- Flush an `INSERT` whose values have to be encodable. -/
def flushEncoded (encodable : Prop) [Decidable encodable] (insert : Tx Unit) : Tx Unit :=
  if encodable then insert else do
    Prog.rollback
    .raise .dataError

def insertEvent (row : Event) : Tx Unit :=
  flushEncoded row.Encodable (flushInsert row.Fits [.event row.id] (.insertEvent row))

def insertTicketType (row : TicketType) : Tx Unit :=
  flushEncoded (VarChar 255 row.name ∧ Int32 row.totalQuantity)
    (flushInsert row.Fits [.ticketType row.id] (.insertTicketType row))

/-- The entries of a new seat. -/
def entriesOf (row : Seat) : List IndexEntry := [.seat row.id, .position row.position]

def insertEachSeat : List Seat → Tx Unit
  | [] => return ()
  | row :: rows => do
    flushInsert row.Fits (entriesOf row) (.insertSeat row)
    insertEachSeat rows

def insertSeats (rows : List Seat) : Tx Unit :=
  flushEncoded (∀ row ∈ rows, row.Encodable) (insertEachSeat rows)

def getEvent (eventId : UUID) : Tx Event := do
  match ← Prog.exec (Stmt.read fun d => d.events.find? fun e => e.id = eventId) with
  | none => .raise .eventNotFoundError
  | some event => return event

def createEvent (row : Event) : Tx Event := do
  insertEvent row
  Prog.commitTx
  return row

def createTicketType (row : TicketType) : Tx TicketType := do
  let _ ← getEvent row.eventId
  insertTicketType row
  Prog.commitTx
  return row

def createSeats (eventId : UUID) (rows : List Seat) : Tx (List Seat) := do
  let _ ← getEvent eventId
  Prog.tryCatch (do
      insertSeats rows
      Prog.commitTx)
    fun e =>
      if e = .integrityError then do
        Prog.rollback
        .raise .seatConflictError
      else .raise e
  return rows

/-- A request to the events. -/
inductive Call where
  | createEvent (name : String) (startsAt endsAt : Instant) (uuid4 : UUID)
  | getEvent (eventId : UUID)
  | createTicketType (eventId : UUID) (name : String) (totalQuantity : ℤ) (uuid4 : UUID)
  | createSeats (eventId : UUID) (seatInputs : List SeatCreate) (uuid4 : ℕ → UUID)

inductive Response where
  | event (row : Event)
  | ticketType (row : TicketType)
  | seats (rows : List Seat)
  deriving DecidableEq, Repr

def Call.prog : Call → Tx Response
  | createEvent name startsAt endsAt uuid4 =>
    (Indexed.createEvent (EventService.newEvent name startsAt endsAt uuid4)).map .event
  | getEvent eventId => (Indexed.getEvent eventId).map .event
  | createTicketType eventId name totalQuantity uuid4 =>
    (Indexed.createTicketType (EventService.newTicketType eventId name totalQuantity uuid4)).map
      .ticketType
  | createSeats eventId seatInputs uuid4 =>
    (Indexed.createSeats eventId (EventService.newSeats eventId seatInputs uuid4)).map .seats

/-- The program of the service without the entries. -/
def Call.service : Call → TicketReservation.Tx Response
  | createEvent name startsAt endsAt uuid4 =>
    (EventService.createEvent name startsAt endsAt uuid4).map .event
  | getEvent eventId => (EventService.getEvent eventId).map .event
  | createTicketType eventId name totalQuantity uuid4 =>
    (EventService.createTicketType eventId name totalQuantity uuid4).map .ticketType
  | createSeats eventId seatInputs uuid4 =>
    (EventService.createSeats eventId seatInputs uuid4).map .seats

/-- The service alone answers `r` and leaves `d'`. -/
def Does (service : TicketReservation.Tx Response) (d : Database) (r : Except Error Response)
    (d' : Database) : Prop :=
  service.alone d = (r, d')

/-- **What a call does atomically**: what the service does alone. -/
def Call.spec (c : Call) : Database → Except Error Response → Database → Prop := Does c.service

/-! ## What a commit adds -/

/-- The rows that a transaction with these entries may add. -/
inductive Adds (Λ : List IndexEntry) (d : Database) : Database → Prop
  | event (row : Event) : row.Fits d → .event row.id ∈ Λ → Adds Λ d (d.apply (.insertEvent row))
  | ticketType (row : TicketType) : row.Fits d → Int32 row.totalQuantity →
      row.reservedQuantity = 0 ∧ row.soldQuantity = 0 → .ticketType row.id ∈ Λ →
      Adds Λ d (d.apply (.insertTicketType row))
  | seats (rows : List Seat) : FitAll rows d → (∀ row ∈ rows, entriesOf row ⊆ Λ) →
      Adds Λ d (d.addSeatRows rows)

variable {Λ : List IndexEntry} {d d' : Database}

/-- The seats fit one after another iff each fits and they do not repeat each other. -/
theorem fitAll_iff_pairwise {rows : List Seat} : FitAll rows d ↔ (∀ row ∈ rows, row.Fits d) ∧
    rows.Pairwise fun a b => a.id ≠ b.id ∧ a.position ≠ b.position := by
  induction rows generalizing d with
  | nil => simp [FitAll]
  | cons row rows ih =>
    have hadd : ∀ b : Seat, b.Fits (d.apply (.insertSeat row)) ↔
        b.Fits d ∧ row.id ≠ b.id ∧ row.position ≠ b.position := by
      intro b
      constructor
      · intro h
        refine ⟨⟨fun s hs => h.id s (List.mem_append_left _ hs), h.event,
          fun s hs => h.position s (List.mem_append_left _ hs)⟩, ?_, ?_⟩
        · exact h.id row (List.mem_append_right _ (List.mem_singleton_self row))
        · exact h.position row (List.mem_append_right _ (List.mem_singleton_self row))
      · rintro ⟨h, hid, hpos⟩
        refine ⟨List.forall_mem_append.2 ⟨h.id, by simpa using hid⟩, h.event,
          List.forall_mem_append.2 ⟨h.position, ?_⟩⟩
        rintro s hs
        rw [List.mem_singleton.1 hs]
        exact hpos
    rw [FitAll, ih, List.forall_mem_cons, List.pairwise_cons]
    constructor
    · rintro ⟨hrow, hrows, hpair⟩
      exact ⟨⟨hrow, fun b hb => ((hadd b).1 (hrows b hb)).1⟩,
        fun b hb => ((hadd b).1 (hrows b hb)).2, hpair⟩
    · rintro ⟨⟨hrow, hrows⟩, hne, hpair⟩
      exact ⟨hrow, fun b hb => (hadd b).2 ⟨hrows b hb, hne b hb⟩, hpair⟩

theorem addSeatRows_append (pre rows : List Seat) :
    d.addSeatRows (pre ++ rows) = (d.addSeatRows pre).addSeatRows rows := by
  simp [Database.addSeatRows]

theorem fitAll_append {pre rows : List Seat} :
    FitAll (pre ++ rows) d ↔ FitAll pre d ∧ FitAll rows (d.addSeatRows pre) := by
  induction pre generalizing d with
  | nil => simp [FitAll, Database.addSeatRows]
  | cons row pre ih =>
    have hadd : (d.apply (.insertSeat row)).addSeatRows pre = d.addSeatRows (row :: pre) :=
      (addSeatRows_append [row] pre).symm
    rw [List.cons_append, FitAll, ih, hadd, FitAll, and_assoc]

theorem inv_addSeatRows {rows : List Seat} (h : Inv d) (hf : FitAll rows d) :
    Inv (d.addSeatRows rows) := by
  induction rows generalizing d with
  | nil => simpa [Database.addSeatRows] using h
  | cons row rows ih =>
    have := ih (h.insertSeat hf.1) hf.2
    rwa [show (d.apply (.insertSeat row)).addSeatRows rows = d.addSeatRows (row :: rows) from
      (addSeatRows_append [row] rows).symm] at this

theorem Adds.inv (h : Adds Λ d d') (hi : Inv d) : Inv d' := by
  cases h with
  | event row hf => exact hi.insertEvent hf
  | ticketType row hf hint hr => exact hi.insertTicketType hf hint hr
  | seats rows hf => exact inv_addSeatRows hi hf

/-- **The protocol of the events.** -/
def protocol : Protocol Database IndexEntry where
  inv := Inv
  step := Adds
  inv_step hi h := h.inv hi

/-! ## What the entries protect -/

theorem Adds.events (h : Adds Λ d d') {event : Event} (he : event ∈ d.events) :
    event ∈ d'.events := by
  cases h with
  | event row => exact List.mem_append_left _ he
  | ticketType row | seats rows => exact he

/-- An event stays. -/
theorem keeps_hasEvent (eventId : UUID) :
    protocol.Keeps Λ fun d => ∃ e ∈ d.events, e.id = eventId := by
  rintro Λ' d d' - - hs ⟨e, he, hid⟩
  exact ⟨e, Adds.events hs he, hid⟩

theorem keeps_eventFits {row : Event} (hl : .event row.id ∈ Λ) : protocol.Keeps Λ row.Fits := by
  intro Λ' d d' _ hdisj hs hf
  cases hs with
  | ticketType row' | seats rows => exact ⟨hf.id⟩
  | event row' _ hl' =>
    refine ⟨List.forall_mem_append.2 ⟨hf.id, List.forall_mem_singleton.2 fun heq => ?_⟩⟩
    exact hdisj hl' (heq ▸ hl)

theorem keeps_ticketTypeFits {row : TicketType} (hl : .ticketType row.id ∈ Λ) :
    protocol.Keeps Λ row.Fits := by
  intro Λ' d d' hi hdisj hs hf
  have hevent := keeps_hasEvent row.eventId hi hdisj hs hf.event
  cases hs with
  | event row' | seats rows => exact ⟨hf.id, hevent, hf.checks⟩
  | ticketType row' _ _ _ hl' =>
    refine ⟨List.forall_mem_append.2 ⟨hf.id, List.forall_mem_singleton.2 fun heq => ?_⟩, hevent,
      hf.checks⟩
    exact hdisj hl' (heq ▸ hl)

theorem keeps_seatFits {row : Seat} (hl : entriesOf row ⊆ Λ) : protocol.Keeps Λ row.Fits := by
  intro Λ' d d' hi hdisj hs hf
  have hevent := keeps_hasEvent row.eventId hi hdisj hs hf.event
  cases hs with
  | event row' | ticketType row' => exact ⟨hf.id, hevent, hf.position⟩
  | seats rows _ hl' =>
    refine ⟨List.forall_mem_append.2 ⟨hf.id, fun s hs heq => ?_⟩, hevent,
      List.forall_mem_append.2 ⟨hf.position, fun s hs heq => ?_⟩⟩
    · exact hdisj (hl' s hs (show .seat s.id ∈ entriesOf s by simp [entriesOf]))
        (hl (by simp [entriesOf, heq]))
    · exact hdisj (hl' s hs (show .position s.position ∈ entriesOf s by simp [entriesOf]))
        (hl (by simp [entriesOf, Seat.position, heq]))

/-- **The entries of a batch protect it.** -/
theorem keeps_fitAll {rows : List Seat} (hl : ∀ row ∈ rows, entriesOf row ⊆ Λ) :
    protocol.Keeps Λ (FitAll rows) := by
  intro Λ' d d' hi hdisj hs hf
  obtain ⟨hrows, hpair⟩ := fitAll_iff_pairwise.1 hf
  exact fitAll_iff_pairwise.2
    ⟨fun row hrow => keeps_seatFits (hl row hrow) hi hdisj hs (hrows row hrow), hpair⟩

/-! ## The calls under interference -/

section
variable {spec : Database → Except Error Response → Database → Prop} {r : Except Error Response}
  {σ : Txn.Session Write IndexEntry} {K : Database → Prop} {α : Type}

/-- A call, before it has an answer. -/
abbrev CallPoint := Point protocol Write (Except Error Response)

/-- **One flushed `INSERT`**: it succeeds, or the call may answer `r` here. -/
theorem wp_flushInsert {fits : Database → Prop} [DecidablePred fits] {entries : List IndexEntry}
    {write : Write} {Q : Except Error Unit → CallPoint → Prop} (hK : protocol.Keeps σ.locks K)
    (hQ : ∀ v, Could spec r v → Q (.error .integrityError) v)
    (hok : ∀ v : CallPoint, v.At ⟨σ.writes ++ [write], σ.locks ++ entries⟩
      (fun d => K d ∧ fits (σ.view d)) → Q (.ok ()) v)
    (hbad : ∀ d, Inv d → K d → ¬ fits (σ.view d) → spec d r d)
    {v : CallPoint} (hv : v.At σ K) : wp spec (flushInsert fits entries write) Q v := by
  refine wp_bind (wp_exec (Point.At.stable hK) (fun v hv => hv.promise) (fun v _ hv _ => ?_) hv)
  have hσ := hv.session
  simp only [Stmt.ofPlan, hσ]
  by_cases hf : fits (σ.view v.db)
  · simp only [hf, if_true]
    exact hok _ ⟨hv.promise, rfl, hv.known, hf⟩
  · simp only [hf, if_false, Bool.false_eq_true]
    exact wp_rollback hQ (Could.here hv.promise (hbad v.db v.inv hv.known hf))

/-- A flush whose values cannot be encoded. -/
theorem wp_flushEncoded {encodable : Prop} [Decidable encodable] {insert : Tx Unit}
    {Q : Except Error Unit → CallPoint → Prop} {v : CallPoint}
    (hbad : ¬ encodable → Could spec r v) (hQ : ∀ v, Could spec r v → Q (.error .dataError) v)
    (hok : encodable → wp spec insert Q v) : wp spec (flushEncoded encodable insert) Q v := by
  unfold flushEncoded
  split_ifs with henc
  · exact hok henc
  · exact wp_rollback hQ (hbad henc)

/-- **The look-up of the event.** -/
theorem wp_getEvent {eventId : UUID} {Q : Except Error Event → CallPoint → Prop}
    (hnone : ∀ v : CallPoint, v.promise = none → (¬ ∃ e ∈ v.db.events, e.id = eventId) →
      Q (.error .eventNotFoundError) v)
    (hsome : ∀ (v : CallPoint) e, v.promise = none → v.session = ∅ → e ∈ v.db.events →
      v.db.events.find? (fun e => e.id = eventId) = some e → Q (.ok e) v)
    {v : CallPoint} (hv : v.At ∅ fun _ => True) : wp spec (getEvent eventId) Q v := by
  refine wp_bind (wp_exec (Point.At.stable .const) (fun v hv => hv.promise) (fun v _ hv _ => ?_) hv)
  have hσ := hv.session
  simp only [Stmt.read, Stmt.ofPlan, hσ, Session.view_empty]
  cases hf : v.db.events.find? fun e => e.id = eventId with
  | none =>
    refine hnone (v.goto _) hv.promise ?_
    rintro ⟨e, he, hid⟩
    exact List.find?_eq_none.1 hf e he (decide_eq_true hid)
  | some e => exact hsome (v.goto ∅) e hv.promise rfl (List.mem_of_find?_eq_some hf) hf

theorem wp_map {p : Tx α} {f : α → Response} {v : CallPoint}
    (h : wp spec p (fun r => Answers spec (r.map f)) v) : wp spec (p.map f) (Answers spec) v :=
  wp_bind (wp_mono (fun r _ h => by cases r <;> exact h) h)

/-- **`create_event`**, by what it may answer. -/
theorem wp_createEvent (row : Event)
    (hdata : ¬ row.Encodable → ∀ d, Inv d → spec d (.error .dataError) d)
    (hbad : row.Encodable → ∀ d, Inv d → ¬ row.Fits d → spec d (.error .integrityError) d)
    (hok : row.Encodable → ∀ d, Inv d → row.Fits d →
      spec d (.ok (.event row)) (d.apply (.insertEvent row)))
    {v : CallPoint} (hv : v.At ∅ fun _ => True) :
    wp spec ((createEvent row).map .event) (Answers spec) v := by
  refine wp_map (wp_bind ?_)
  unfold insertEvent
  refine wp_flushEncoded (r := .error .dataError) (fun henc => Could.here hv.promise
    (hdata henc v.db v.inv)) (fun v hv => hv.answers) fun henc => ?_
  refine wp_flushInsert (r := .error .integrityError) .const (fun v hv => hv.answers)
    (fun v hv => ?_) (fun d hi _ hf => hbad henc d hi hf) hv
  have hv : v.At ⟨[.insertEvent row], [.event row.id]⟩ row.Fits := hv.mono fun _ _ h => h.2
  refine wp_bind (wp_commitTx_at (keeps_eventFits List.mem_cons_self) (fun d hi hf => ?_)
    (fun v hv => Or.inl hv) hv)
  exact ⟨.single (.event row hf List.mem_cons_self), hok henc d hi hf⟩

/-- **`create_ticket_type`**, by what it may answer. -/
theorem wp_createTicketType (row : TicketType)
    (hnew : row.reservedQuantity = 0 ∧ row.soldQuantity = 0)
    (hnone : ∀ d, Inv d → (¬ ∃ e ∈ d.events, e.id = row.eventId) →
      spec d (.error .eventNotFoundError) d)
    (hdata : ¬ (VarChar 255 row.name ∧ Int32 row.totalQuantity) → ∀ d, Inv d →
      (∃ e ∈ d.events, e.id = row.eventId) → spec d (.error .dataError) d)
    (hbad : VarChar 255 row.name ∧ Int32 row.totalQuantity → ∀ d, Inv d →
      (∃ e ∈ d.events, e.id = row.eventId) → ¬ row.Fits d → spec d (.error .integrityError) d)
    (hok : VarChar 255 row.name ∧ Int32 row.totalQuantity → ∀ d, Inv d → row.Fits d →
      spec d (.ok (.ticketType row)) (d.apply (.insertTicketType row)))
    {v : CallPoint} (hv : v.At ∅ fun _ => True) :
    wp spec ((createTicketType row).map .ticketType) (Answers spec) v := by
  refine wp_map (wp_bind (wp_getEvent (fun v hp he => ?_) (fun v e hp hσ he hf => wp_bind ?_) hv))
  · exact (Could.here hp (hnone v.db v.inv he)).answers
  · have hv : v.At ∅ fun d => ∃ e ∈ d.events, e.id = row.eventId :=
      ⟨hp, hσ, e, he, by simpa using List.find?_some hf⟩
    unfold insertTicketType
    refine wp_flushEncoded (r := .error .dataError) (fun henc => Could.here hp
      (hdata henc v.db v.inv hv.known)) (fun v hv => hv.answers) fun henc => ?_
    refine wp_flushInsert (r := .error .integrityError) (keeps_hasEvent _)
      (fun v hv => hv.answers) (fun v hv => ?_) (fun d hi he hf => hbad henc d hi he hf) hv
    have hv : v.At ⟨[.insertTicketType row], [.ticketType row.id]⟩ row.Fits :=
      hv.mono fun _ _ h => h.2
    refine wp_bind (wp_commitTx_at (keeps_ticketTypeFits List.mem_cons_self) (fun d hi hf => ?_)
      (fun v hv => Or.inl hv) hv)
    exact ⟨.single (.ticketType row hf henc.2 hnew List.mem_cons_self), hok henc d hi hf⟩

/-- The session of a batch. -/
abbrev inserted (rows : List Seat) : Txn.Session Write IndexEntry :=
  ⟨rows.map .insertSeat, rows.flatMap entriesOf⟩

theorem view_inserted (rows : List Seat) (d : Database) :
    (inserted rows).view d = d.addSeatRows rows :=
  view_insertSeats rows [] d

/-- **The `INSERT`s of a batch**: at the first seat that does not fit, the batch does not. -/
theorem wp_insertEachSeat {eventId : UUID} {rows : List Seat} (pre : List Seat)
    {Q : Except Error Unit → CallPoint → Prop}
    (hok : ∀ v : CallPoint, v.At (inserted (pre ++ rows)) (fun d =>
      (∃ e ∈ d.events, e.id = eventId) ∧ FitAll (pre ++ rows) d) → Q (.ok ()) v)
    (hbad : ∀ d, Inv d → (∃ e ∈ d.events, e.id = eventId) → ¬ FitAll (pre ++ rows) d → spec d r d)
    (hQ : ∀ v, Could spec r v → Q (.error .integrityError) v)
    {v : CallPoint} (hv : v.At (inserted pre) fun d =>
      (∃ e ∈ d.events, e.id = eventId) ∧ FitAll pre d) : wp spec (insertEachSeat rows) Q v := by
  induction rows generalizing pre v with
  | nil => exact hok v (by rwa [List.append_nil])
  | cons row rows ih =>
    have hkeeps : protocol.Keeps (inserted pre).locks fun d =>
        (∃ e ∈ d.events, e.id = eventId) ∧ FitAll pre d :=
      (keeps_hasEvent _).and (keeps_fitAll fun b hb x hx => List.mem_flatMap.2 ⟨b, hb, hx⟩)
    refine wp_bind (wp_flushInsert (r := r) hkeeps (fun v hc => ?_) (fun v hv => ?_)
      (fun d hi hk hf => ?_) hv)
    · exact hQ v hc
    · rw [List.append_cons] at hok hbad
      refine ih _ hok hbad ⟨hv.promise, hv.session.trans ?_, hv.known.1.1, ?_⟩
      · simp [inserted]
      · have := hv.known.2
        rw [view_inserted] at this
        exact fitAll_append.2 ⟨hv.known.1.2, this, trivial⟩
    · rw [view_inserted] at hf
      exact hbad d hi hk.1 fun h => hf (fitAll_append.1 h).2.1

/-- **`create_seats`**, by what it may answer. -/
theorem wp_createSeats (eventId : UUID) (rows : List Seat)
    (hnone : ∀ d, Inv d → (¬ ∃ e ∈ d.events, e.id = eventId) →
      spec d (.error .eventNotFoundError) d)
    (hdata : (¬ ∀ row ∈ rows, row.Encodable) → ∀ d, Inv d → (∃ e ∈ d.events, e.id = eventId) →
      spec d (.error .dataError) d)
    (hbad : (∀ row ∈ rows, row.Encodable) → ∀ d, Inv d → (∃ e ∈ d.events, e.id = eventId) →
      ¬ FitAll rows d → spec d (.error .seatConflictError) d)
    (hok : (∀ row ∈ rows, row.Encodable) → ∀ d, Inv d → (∃ e ∈ d.events, e.id = eventId) →
      FitAll rows d → spec d (.ok (.seats rows)) (d.addSeatRows rows))
    {v : CallPoint} (hv : v.At ∅ fun _ => True) :
    wp spec ((createSeats eventId rows).map .seats) (Answers spec) v := by
  refine wp_map (wp_bind (wp_getEvent (fun v hp he => ?_) (fun v e hp hσ he hf => wp_bind ?_) hv))
  · exact (Could.here hp (hnone v.db v.inv he)).answers
  · have hv : v.At ∅ fun d => ∃ e ∈ d.events, e.id = eventId :=
      ⟨hp, hσ, e, he, by simpa using List.find?_some hf⟩
    refine wp_tryCatch (wp_bind ?_)
    unfold insertSeats
    refine wp_flushEncoded (r := .error .dataError) (fun henc => Could.here hp
      (hdata henc v.db v.inv hv.known)) (fun v hv => hv.answers) fun henc => ?_
    refine wp_insertEachSeat [] (r := .error .seatConflictError) (fun v hv => ?_)
      (fun d hi he hf => hbad henc d hi he hf) (fun v hv => ?_)
      (hv.mono fun d _ he => ⟨he, trivial⟩)
    · refine wp_commitTx_at ((keeps_hasEvent _).and (keeps_fitAll fun b hb x hx =>
        List.mem_flatMap.2 ⟨b, hb, hx⟩)) (fun d hi hk => ?_) (fun v hv => Or.inl hv) hv
      rw [view_inserted]
      exact ⟨.single (.seats rows hk.2 fun b hb x hx => List.mem_flatMap.2 ⟨b, hb, hx⟩),
        hok henc d hi hk.1 hk.2⟩
    · refine wp_rollback (fun v hv => ?_) hv
      exact hv.answers

end

/-- `create_event` alone, by the row it makes. -/
theorem alone_createEvent_row {name : String} {startsAt endsAt : Instant} {uuid4 : UUID}
    {row : Event}
    (hrow : EventService.newEvent name startsAt endsAt uuid4 = row) (d : Database) :
    (EventService.createEvent name startsAt endsAt uuid4).alone d =
      if row.Encodable then
        if row.Fits d then (.ok row, d.apply (.insertEvent row)) else (.error .integrityError, d)
      else (.error .dataError, d) := by
  rw [EventService.alone_createEvent, hrow]

/-- `create_ticket_type` alone, by the row it makes. -/
theorem alone_createTicketType_row {eventId : UUID} {name : String} {totalQuantity : ℤ}
    {uuid4 : UUID} {row : TicketType}
    (hrow : EventService.newTicketType eventId name totalQuantity uuid4 = row) (d : Database) :
    (EventService.createTicketType eventId name totalQuantity uuid4).alone d =
      if ∃ e ∈ d.events, e.id = row.eventId then
        if VarChar 255 row.name ∧ Int32 row.totalQuantity then
          if row.Fits d then (.ok row, d.apply (.insertTicketType row))
          else (.error .integrityError, d)
        else (.error .dataError, d)
      else (.error .eventNotFoundError, d) := by
  have hevent : row.eventId = eventId := hrow ▸ rfl
  have hname : row.name = strip name := hrow ▸ rfl
  have htotal : row.totalQuantity = totalQuantity := hrow ▸ rfl
  rw [EventService.alone_createTicketType, hrow, hevent, hname, htotal]

section
variable {v : CallPoint}

theorem does_ok {α : Type} {service : TicketReservation.Tx α} {f : α → Response} {a : α}
    (h : service.alone d = (.ok a, d')) : Does (service.map f) d (.ok (f a)) d' :=
  Prog.alone_map h

theorem does_error {α : Type} {service : TicketReservation.Tx α} {f : α → Response} {e : Error}
    (h : service.alone d = (.error e, d')) : Does (service.map f) d (.error e) d' :=
  Prog.alone_map h

variable (hv : v.At ∅ fun _ => True)
include hv

/-- `create_event` does what a program does alone that makes this row. -/
theorem sound_createEvent {row : Event} {service : TicketReservation.Tx Event}
    (halone : ∀ d, service.alone d =
      if row.Encodable then
        if row.Fits d then (.ok row, d.apply (.insertEvent row)) else (.error .integrityError, d)
      else (.error .dataError, d)) :
    wp (Does (service.map .event)) ((createEvent row).map .event)
      (Answers (Does (service.map .event))) v := by
  refine wp_createEvent row (fun henc d _ => ?_) (fun henc d _ hf => ?_) (fun henc d _ hf => ?_) hv
  · exact does_error ((halone d).trans (if_neg henc))
  · exact does_error ((halone d).trans ((if_pos henc).trans (if_neg hf)))
  · exact does_ok ((halone d).trans ((if_pos henc).trans (if_pos hf)))

theorem sound_getEvent (eventId : UUID) :
    wp (Does ((EventService.getEvent eventId).map .event)) ((getEvent eventId).map .event)
      (Answers (Does ((EventService.getEvent eventId).map .event))) v := by
  refine wp_map (wp_getEvent (fun v hp he => ?_) (fun v e hp _ _ hf => ?_) hv)
  · exact (Could.here hp (does_error (by
      rw [Prog.alone, EventService.run_getEvent_error he]))).answers
  · exact (Could.here hp (does_ok (by rw [Prog.alone, EventService.run_getEvent, hf]))).answers

theorem sound_createTicketType {row : TicketType} {service : TicketReservation.Tx TicketType}
    (hnew : row.reservedQuantity = 0 ∧ row.soldQuantity = 0)
    (halone : ∀ d, service.alone d =
      if ∃ e ∈ d.events, e.id = row.eventId then
        if VarChar 255 row.name ∧ Int32 row.totalQuantity then
          if row.Fits d then (.ok row, d.apply (.insertTicketType row))
          else (.error .integrityError, d)
        else (.error .dataError, d)
      else (.error .eventNotFoundError, d)) :
    wp (Does (service.map .ticketType)) ((createTicketType row).map .ticketType)
      (Answers (Does (service.map .ticketType))) v := by
  refine wp_createTicketType row hnew (fun d _ he => ?_) (fun henc d _ he => ?_)
    (fun henc d _ he hf => ?_) (fun henc d _ hf => ?_) hv
  · exact does_error ((halone d).trans (if_neg he))
  · exact does_error ((halone d).trans ((if_pos he).trans (if_neg henc)))
  · exact does_error ((halone d).trans ((if_pos he).trans ((if_pos henc).trans (if_neg hf))))
  · exact does_ok ((halone d).trans ((if_pos hf.event).trans ((if_pos henc).trans (if_pos hf))))

theorem sound_createSeats {eventId : UUID} {rows : List Seat}
    {service : TicketReservation.Tx (List Seat)}
    (halone : ∀ d, service.alone d =
      if ∃ e ∈ d.events, e.id = eventId then
        if ∀ row ∈ rows, row.Encodable then
          if FitAll rows d then (.ok rows, d.addSeatRows rows) else (.error .seatConflictError, d)
        else (.error .dataError, d)
      else (.error .eventNotFoundError, d)) :
    wp (Does (service.map .seats)) ((createSeats eventId rows).map .seats)
      (Answers (Does (service.map .seats))) v := by
  refine wp_createSeats eventId rows (fun d _ he => ?_) (fun henc d _ he => ?_)
    (fun henc d _ he hf => ?_) (fun henc d _ he hf => ?_) hv
  · exact does_error ((halone d).trans (if_neg he))
  · exact does_error ((halone d).trans ((if_pos he).trans (if_neg henc)))
  · exact does_error ((halone d).trans ((if_pos he).trans ((if_pos henc).trans (if_neg hf))))
  · exact does_ok ((halone d).trans ((if_pos he).trans ((if_pos henc).trans (if_pos hf))))

end

-- the check of the new name is not to be evaluated
seal createEvent in
/-- **Every call does at one moment what the service does alone.** -/
theorem Call.sound (c : Call) (d : Database) (hd : Inv d) : wp c.spec c.prog (Answers c.spec)
    (Point.start Write (Except Error Response) (P := protocol) d hd) := by
  have hv : (Point.start Write (Except Error Response) (P := protocol) d hd).At ∅ fun _ => True :=
    ⟨rfl, rfl, trivial⟩
  cases c with
  | createEvent name startsAt endsAt uuid4 =>
    exact sound_createEvent hv (alone_createEvent_row rfl)
  | getEvent eventId => exact sound_getEvent hv eventId
  | createTicketType eventId name totalQuantity uuid4 =>
    exact sound_createTicketType hv ⟨rfl, rfl⟩ (alone_createTicketType_row rfl)
  | createSeats eventId seatInputs uuid4 =>
    exact sound_createSeats hv fun _ => EventService.alone_createSeats eventId seatInputs uuid4

/-- **The service of the events.** -/
def system : System Call Database Write IndexEntry Error Response where
  prog := Call.prog
  protocol := protocol
  spec := Call.spec
  sound := Call.sound

/-! ## What a run has created -/

abbrev EventConfig := Config Call Database Write IndexEntry Error Response

/-- No call has arrived yet. -/
abbrev EventConfig.start (d : Database) : EventConfig := ⟨d, []⟩

/-- The rows of a batch. -/
def Call.batch : Call → List Seat
  | createSeats eventId seatInputs uuid4 => EventService.newSeats eventId seatInputs uuid4
  | _ => []

/-- Two seats that can be stored together. -/
abbrev Apart (a b : Seat) : Prop := a.id ≠ b.id ∧ a.position ≠ b.position

section
variable {settings : Settings} {d₀ : Database} {r : Except Error Response}

/-- What the service answers, and leaves, is what the program before the `map` does. -/
theorem Does.map {α : Type} {service : TicketReservation.Tx α} {f : α → Response}
    (h : Does (service.map f) d r d') :
    ∃ r', service.alone d = (r', d') ∧ r = r'.map f := by
  rw [Does, Prog.alone_map rfl] at h
  cases h
  exact ⟨_, rfl, rfl⟩

theorem Does.served {α : Type} {service : TicketReservation.Tx α} {f : α → Response}
    (h : Does (service.map f) d r d') (hd : Served settings (service.alone d).2) :
    Served settings d' := by
  obtain ⟨r', hr, -⟩ := h.map
  rwa [hr] at hd

theorem Call.served {c : Call} (h : c.spec d r d') (hd : Served settings d) :
    Served settings d' := by
  cases c with
  | createEvent name startsAt endsAt uuid4 =>
    exact Does.served h (hd.createEvent name startsAt endsAt uuid4)
  | getEvent eventId =>
    refine Does.served h ?_
    rw [Prog.alone, EventService.run_getEvent]
    cases d.events.find? fun e => e.id = eventId <;> exact hd
  | createTicketType eventId name totalQuantity uuid4 =>
    exact Does.served h (hd.createTicketType eventId name totalQuantity uuid4)
  | createSeats eventId seatInputs uuid4 =>
    exact Does.served h (hd.createSeats eventId seatInputs uuid4)

end

/-! ## Runs -/

section
variable {settings : Settings} {d₀ : Database} {cfg : EventConfig}
  {l : List (Entry Call Database (Except Error Response))}

end

namespace Sample

end Sample

end TicketReservation.Indexed
