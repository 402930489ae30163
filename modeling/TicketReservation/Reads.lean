/-
  Which answers show a reservation as it was committed.

  `cancel` and `confirm` read the reservation and its children under its lock,
  so their answers show a committed state of it.  `get` reads them by three
  SELECTs without a lock; each sees what is committed by then (`GetState`).
  Its answer shows a committed state if no commit changes the reservation
  while the call is between these SELECTs (`detail_read_whole`).
-/
import TicketReservation.Runs
import TicketReservation.Outcomes

namespace TicketReservation

open Txn ReservationLifecycleService

variable {settings : Settings} {d₀ d : Database} {cfg cfg' : ServiceConfig}

/-- **The answer shows the reservation as it was committed** in one of these databases;
    so all the statuses agree. -/
structure ReservationDetailResponse.ReadWhole (a : ReservationDetailResponse)
    (committed : Database → Prop) : Prop where
  committed : ∃ (d : Database) (w : Whole), committed d ∧ w.In d ∧ a = w.detail
  items : ∀ i ∈ a.items, i.status = a.status
  seats : ∀ s ∈ a.seats, s.status = a.status

theorem Whole.readWhole {w : Whole} {committed : Database → Prop} (hi : Inv d) (hw : w.In d)
    (hd : committed d) : w.detail.ReadWhole committed where
  committed := ⟨d, w, hd, hw, rfl⟩
  items := List.forall_mem_map.2 fun i hit => Whole.item_status hi hw i hit
  seats := List.forall_mem_map.2 fun q hq => Whole.seat_status hi hw q hq

theorem ReservationDetailResponse.ReadWhole.mono {a : ReservationDetailResponse}
    {committed committed' : Database → Prop} (h : a.ReadWhole committed)
    (hc : ∀ d, committed d → committed' d) : a.ReadWhole committed' := by
  obtain ⟨⟨d, w, hd, hw, ha⟩, hitems, hseats⟩ := h
  exact ⟨⟨d, w, hc d hd, hw, ha⟩, hitems, hseats⟩

/-! ## The statements of `get` -/

/-- `get` after the SELECT of the reservation. -/
def getAfterParent (reservation : Reservation) : Tx Response :=
  .map .detail do
    let response ← toDetailResponse reservation
    Prog.rollback
    return response

/-- `get` after the SELECT of the items. -/
def getAfterItems (reservation : Reservation) (items : List ReservationItem) : Tx Response :=
  .map .detail do
    let seats ← listReservationSeats reservation.id
    Prog.rollback
    return detailResponse reservation items seats

/-- `get` after the SELECT of the seats. -/
def getAfterSeats (response : ReservationDetailResponse) : Tx Response :=
  .map .detail do
    Prog.rollback
    return response

/-- `get` when it has not found the reservation. -/
def getMissing : Tx Response :=
  .map .detail do
    Prog.rollback
    .raise .reservationNotFoundError

theorem get_eq (reservationId : UUID) (visitorSession : VisitorSession) :
    (Call.get reservationId visitorSession).prog settings =
      .stmt (Stmt.ofPlan fun d =>
        { result := d.ownedReservation reservationId visitorSession.id visitorSession.userId })
        fun o => match o with
          | none => getMissing
          | some reservation => getAfterParent reservation := by
  refine congrArg (Prog.stmt _) (funext fun o => ?_)
  cases o <;> rfl

theorem getAfterParent_eq (reservation : Reservation) : getAfterParent reservation =
    .stmt (Stmt.ofPlan fun d =>
        { result := orderBy ReservationItem.ticketTypeId ReservationItem.id (d.itemsOf reservation.id) })
      fun items => getAfterItems reservation items := rfl

theorem getAfterItems_eq (reservation : Reservation) (items : List ReservationItem) :
    getAfterItems reservation items =
      .stmt (Stmt.ofPlan fun d =>
          { result := orderBy ReservationSeat.seatId ReservationSeat.id (d.seatsOf reservation.id) })
        fun seats => getAfterSeats (detailResponse reservation items seats) := rfl

/-- **The states of a `get`**, when these databases have been committed since it arrived, the
    last one `db`: what it has read belongs to one of them. -/
inductive GetState (settings : Settings) (reservationId : UUID) (visitorSession : VisitorSession)
    (committed : Database → Prop) (db : Database) :
    Status Database Write Lock Error Response → Prop
  | start : GetState settings reservationId visitorSession committed db
      (.running ((Call.get reservationId visitorSession).prog settings) ∅)
  | missing : GetState settings reservationId visitorSession committed db (.running getMissing ∅)
  | raise (e : Error) : GetState settings reservationId visitorSession committed db
      (.running (.raise e) ∅)
  | parent (r : Reservation) : r.id = reservationId → r ∈ db.reservations →
      GetState settings reservationId visitorSession committed db (.running (getAfterParent r) ∅)
  | items (d : Database) (w : Whole) : w.reservation.id = reservationId → Inv d → committed d →
      protocol.Leads d db → w.In d → (w.reservation.reservationType = .seats → w.In db) →
      GetState settings reservationId visitorSession committed db
        (.running (getAfterItems w.reservation w.items) ∅)
  | seats (a : ReservationDetailResponse) : a.ReadWhole committed →
      GetState settings reservationId visitorSession committed db (.running (getAfterSeats a) ∅)
  | ret (a : ReservationDetailResponse) : a.ReadWhole committed →
      GetState settings reservationId visitorSession committed db (.running (.ret (.detail a)) ∅)
  | returned (a : ReservationDetailResponse) : a.ReadWhole committed →
      GetState settings reservationId visitorSession committed db (.returned (.ok (.detail a)))
  | error (e : Error) :
      GetState settings reservationId visitorSession committed db (.returned (.error e))
  | aborted : GetState settings reservationId visitorSession committed db .aborted

/-- The seats of a quantity reservation are still none. -/
theorem no_seats_later {w : Whole} {db : Database} (hi : Inv d) (hw : w.In d)
    (hl : protocol.Leads d db) (hq : w.reservation.reservationType = .quantity) :
    w.seats = [] ∧ db.seatsOf w.reservation.id = [] := by
  have hkeep : protocol.Keeps [] fun d => ∃ r ∈ d.reservations,
      r.id = w.reservation.id ∧ r.reservationType = .quantity :=
    keeps_reservation fun r r' hm h => by rwa [hm.same]
  obtain ⟨r, hr, hid, hty⟩ := hkeep.leads hi hl ⟨_, hw.mem, rfl, hq⟩
  refine ⟨?_, ?_⟩
  · rw [← hw.seats, Whole.no_seats hi hw hq]
    rfl
  · rw [← hid]
    exact Whole.no_seats (w := .of db r) (hl.inv hi) (Whole.of_in (hl.inv hi) hr) hty

section
variable {reservationId : UUID} {visitorSession : VisitorSession}
  {committed committed' : Database → Prop} {s s' : Status Database Write Lock Error Response}

/-- **A `get` reads on.** -/
theorem GetState.step {i : ℕ} {db : Database}
    (h : GetState settings reservationId visitorSession committed cfg.db s) (hi : Inv cfg.db)
    (hnow : committed cfg.db) (hp : Progress cfg i s s' db) :
    db = cfg.db ∧ GetState settings reservationId visitorSession committed cfg.db s' := by
  cases h with
  | start =>
    rw [get_eq] at hp
    obtain ⟨-, rfl, rfl⟩ := hp.of_stmt
    refine ⟨rfl, ?_⟩
    simp only [Stmt.ofPlan, Session.view_empty]
    cases ho : cfg.db.ownedReservation reservationId visitorSession.id visitorSession.userId with
    | none => exact .missing
    | some r =>
      obtain ⟨hr, hid, -⟩ := (ownedReservation_eq_some hi).1 ho
      exact .parent r hid hr
  | missing =>
    obtain ⟨-, rfl, rfl⟩ := hp.of_stmt
    exact ⟨rfl, .raise _⟩
  | raise e =>
    obtain ⟨rfl, rfl⟩ := hp.of_raise
    exact ⟨rfl, .error e⟩
  | parent r hid hr =>
    rw [getAfterParent_eq] at hp
    obtain ⟨-, rfl, rfl⟩ := hp.of_stmt
    have hw := Whole.of_in hi hr
    exact ⟨rfl, .items cfg.db (.of cfg.db r) hid hi hnow .refl hw fun _ => hw⟩
  | items d w hid hd hc hl hw hs =>
    rw [getAfterItems_eq] at hp
    obtain ⟨-, rfl, rfl⟩ := hp.of_stmt
    refine ⟨rfl, ?_⟩
    simp only [Stmt.ofPlan, Session.view_empty]
    have hseats : orderBy ReservationSeat.seatId ReservationSeat.id
        (cfg.db.seatsOf w.reservation.id) = w.seats := by
      cases hty : w.reservation.reservationType with
      | quantity =>
        obtain ⟨hnone, hnone'⟩ := no_seats_later hd hw hl hty
        rw [hnone, hnone']
        rfl
      | seats => exact (hs hty).seats
    rw [hseats]
    exact .seats w.detail (Whole.readWhole hd hw hc)
  | seats a ha =>
    obtain ⟨-, rfl, rfl⟩ := hp.of_stmt
    exact ⟨rfl, .ret a ha⟩
  | ret a ha =>
    obtain ⟨rfl, rfl⟩ := hp.of_ret
    exact ⟨rfl, .returned a ha⟩
  | returned | error | aborted => cases hp.isRunning

/-- The call is between the SELECTs that its answer depends on: it has read the
    reservation `x` but not yet its children. -/
def Reading (t : Thread Call Database Write Lock Error Response) (x : UUID) : Prop :=
  ∃ (visitorSession : VisitorSession) (r : Reservation), t.call = .get x visitorSession ∧ r.id = x ∧
    (t.status = .running (getAfterParent r) ∅ ∨
      (r.reservationType = .seats ∧ ∃ items, t.status = .running (getAfterItems r items) ∅))

/-- **The action leaves the reservations as they are that are being read.** -/
def Undisturbed (settings : Settings) (cfg : ServiceConfig) (a : Action Call) : Prop :=
  ∀ cfg', cfg.act (Call.prog settings) a = some cfg' → ∀ t ∈ cfg.threads, ∀ x, Reading t x →
    ∀ w : Whole, w.reservation.id = x → w.In cfg.db → w.In cfg'.db

/-- **A `get` is not affected by commits that leave its reservation alone.** -/
theorem GetState.other {t : Thread Call Database Write Lock Error Response} {db db' : Database}
    (h : GetState settings reservationId visitorSession committed db t.status)
    (hc : t.call = .get reservationId visitorSession) (hi : Inv db) (hl : protocol.Leads db db')
    (hmono : ∀ d, committed d → committed' d)
    (hkeep : Reading t reservationId → ∀ w : Whole, w.reservation.id = reservationId → w.In db →
      w.In db') : GetState settings reservationId visitorSession committed' db' t.status := by
  generalize hs : t.status = s at h ⊢
  cases h with
  | start => exact .start
  | missing => exact .missing
  | raise e => exact .raise e
  | parent r hid hr =>
    have hw := hkeep ⟨visitorSession, r, hc, hid, Or.inl hs⟩ (.of db r) hid (Whole.of_in hi hr)
    exact .parent r hid hw.mem
  | items d w hid hd hcd hl' hw hseats =>
    refine .items d w hid hd (hmono d hcd) (hl'.trans hl) hw fun hty => ?_
    exact hkeep ⟨visitorSession, w.reservation, hc, hid, Or.inr ⟨hty, w.items, hs⟩⟩ w hid (hseats hty)
  | seats a ha => exact .seats a (ha.mono hmono)
  | ret a ha => exact .ret a (ha.mono hmono)
  | returned a ha => exact .returned a (ha.mono hmono)
  | error e => exact .error e
  | aborted => exact .aborted

end

/-! ## Whole answers -/

/-- Every call but `get` shows the reservation as it leaves it. -/
theorem Call.detail_whole {c : Call} {d d' : Database} {a : ReservationDetailResponse} (hd : Inv d)
    (h : c.spec settings d (.ok (.detail a)) d') (hc : ∀ x v, c ≠ .get x v) :
    ∃ w : Whole, w.In d' ∧ a = w.detail := by
  have hmove : ∀ {target x v now}, .ok (.detail a) = (moveToOutcome target x v now d).1.map
      Response.detail → ∃ w : Whole, w.In (moveToOutcome target x v now d).2 ∧ a = w.detail := by
    intro target x v now hok
    obtain ⟨b, hout, hb⟩ := ok_eq_map hok
    cases hb
    obtain ⟨w, hw, -, -, ha⟩ := moveToOutcome_ok hd hout
    exact ⟨w, hw, ha⟩
  cases c with
  | get x v => exact absurd rfl (hc x v)
  | reserveQuantity v p uuid4 now =>
    obtain ⟨b, -, hb⟩ := ok_eq_map ((Call.spec_reserveQuantity hd).1 h).1
    cases hb
  | reserveSeats v p uuid4 now =>
    obtain ⟨b, -, hb⟩ := ok_eq_map ((Call.spec_reserveSeats hd).1 h).1
    cases hb
  | cancel x v now =>
    obtain ⟨hok, rfl⟩ := (Call.spec_cancel hd).1 h
    exact hmove hok
  | confirm x v now =>
    obtain ⟨hok, rfl⟩ := (Call.spec_confirm hd).1 h
    exact hmove hok
  | expireBatch n now ids =>
    obtain ⟨xs, -, hok, -⟩ := (Call.spec_expireBatch hd).1 h
    cases hok

/-- In an undisturbed run every `get` reads one committed state. -/
theorem getState_run (h : Inv d₀)
    (r : Run.Where (Call.prog settings) (Undisturbed settings) (start d₀) cfg) :
    ∀ (i : ℕ) t, cfg.threads[i]? = some t → cfg.Committed settings d₀ i t cfg.db ∧
      ∀ x v, t.call = .get x v →
        GetState settings x v (cfg.Committed settings d₀ i t) cfg.db t.status := by
  have one : ∀ {c c' : ServiceConfig} {a}, c.act (Call.prog settings) a = some c' →
      Run (Call.prog settings) c c' := fun hact => .tail _ (.refl _) trivial hact
  refine System.threads_run (S := system settings)
    (A := fun (c : ServiceConfig) i t => c.Committed settings d₀ i t c.db ∧
      ∀ x v, t.call = .get x v → GetState settings x v (c.Committed settings d₀ i t) c.db t.status)
    ?_ ?_ ?_ ?_ h r
  · intro c c' call _ r hact
    refine ⟨(Arrived.of_arrive (r.mono fun _ _ _ => trivial) hact).since, fun x v hc => ?_⟩
    subst hc
    exact .start
  · exact fun hact hA => ⟨hA.1.next (one hact), fun x v _ => .aborted⟩
  · rintro c c' i t s' ⟨l, hl⟩ hact hp hA
    have r := one hact
    refine ⟨hA.1.next r, fun x v hc => ?_⟩
    have hs := (hA.2 x v hc).other hc hl.inv .refl (fun d hd => hd.trans r) fun _ _ _ hw => hw
    obtain ⟨hdb, hs⟩ := hs.step hl.inv (hA.1.trans r) hp
    rw [hdb]
    exact hs
  · rintro c c' a i t Λ ⟨l, hl⟩ hok hact ht - - hA
    have r := one hact
    refine ⟨hA.1.next r, fun x v hc => ?_⟩
    exact (hA.2 x v hc).other hc hl.inv (hl.leads hact) (fun d hd => hd.trans r) fun hreading =>
      hok c' hact t (List.mem_of_getElem? ht) x hreading

/-- **A reservation is read whole**: by `cancel` and `confirm` in every run, by
    `get` in every run that does not change the reservation while it is read. -/
theorem detail_read_whole (h : Inventory d₀) :
    (∀ cfg : ServiceConfig, ServiceRun settings (start d₀) cfg → ∀ (i : ℕ) t,
      cfg.threads[i]? = some t → ∀ a, t.status = .returned (.ok (.detail a)) →
        (∀ x v, t.call ≠ .get x v) → a.ReadWhole (cfg.Committed settings d₀ i t)) ∧
    ∀ cfg : ServiceConfig, Run.Where (Call.prog settings) (Undisturbed settings) (start d₀) cfg →
      ∀ (i : ℕ) t, cfg.threads[i]? = some t → ∀ a, t.status = .returned (.ok (.detail a)) →
        a.ReadWhole (cfg.Committed settings d₀ i t) := by
  have hlocked : ∀ cfg : ServiceConfig, ServiceRun settings (start d₀) cfg → ∀ (i : ℕ) t,
      cfg.threads[i]? = some t → ∀ a, t.status = .returned (.ok (.detail a)) →
        (∀ x v, t.call ≠ .get x v) → a.ReadWhole (cfg.Committed settings d₀ i t) := by
    intro cfg r i t hi a hr hc
    obtain ⟨c, d, d', harr, hp, hd, hspec⟩ :=
      System.given_run (S := system settings) h.inv r hi hr
    obtain ⟨w, hw, rfl⟩ := Call.detail_whole hd hspec hc
    have hd' : d' ∈ [d, d'] := by simp
    obtain ⟨c', r', rfl, -⟩ := hp.mem d' hd'
    exact Whole.readWhole (ServiceRun.inv h.inv (harr.run.trans r')) hw ⟨c, harr, hp.single hd'⟩
  refine ⟨hlocked, fun cfg r i t hi a hr => ?_⟩
  by_cases hc : ∃ x v, t.call = .get x v
  · obtain ⟨x, v, hc⟩ := hc
    have hs := (getState_run h.inv r i t hi).2 x v hc
    rw [hr] at hs
    cases hs with
    | returned _ ha => exact ha
  · push Not at hc
    exact hlocked cfg (r.mono fun _ _ _ => trivial) i t hi a hr hc

/-! ## A torn answer -/

/-- Alice's reservation is confirmed after `get` has read it and before it reads the item. -/
def Sample.tears : List (Action Call) :=
  Sample.alone 0 6 (.reserveQuantity alice twoTickets (uuid4 100) 5) ++
    Sample.alone 1 1 (.get 100 alice) ++ Sample.alone 2 9 (.confirm 100 alice 6) ++
    List.replicate 4 (.step 1)

theorem detail_torn : Inventory Sample.inventory ∧
    ServiceRun Sample.settings (start Sample.inventory)
      ((start Sample.inventory).after (Call.prog Sample.settings) Sample.tears) ∧
    ∃ t ∈ ((start Sample.inventory).after (Call.prog Sample.settings) Sample.tears).threads, ∃ a,
      t.status = .returned (.ok (.detail a)) ∧ ¬ ∀ i ∈ a.items, i.status = a.status := by
  obtain ⟨t, ht, hr⟩ := Config.answer_eq_some (show ((start Sample.inventory).after
    (Call.prog Sample.settings) Sample.tears).answer 1 = some (.ok (.detail
      ⟨100, 10, .reserved, .quantity, 900000005, [⟨20, 2, .confirmed⟩], []⟩)) by decide)
  exact ⟨Sample.inventory_inventory, run_after (by decide), t, ht, _, hr, by decide⟩

/-! ## An undisturbed one -/

/-- The reservation that a call reads. -/
def Call.reads? : Call → Option UUID
  | .get reservationId _ => some reservationId
  | _ => none

/-- The action changes no row of a reservation that a call reads. -/
theorem undisturbed_of_rows {a : Action Call}
    (h : ∀ cfg' ∈ cfg.act (Call.prog settings) a, ∀ t ∈ cfg.threads, ∀ x ∈ t.call.reads?,
      cfg'.db.reservations.filter (fun r => r.id = x) =
          cfg.db.reservations.filter (fun r => r.id = x) ∧
        cfg'.db.itemsOf x = cfg.db.itemsOf x ∧ cfg'.db.seatsOf x = cfg.db.seatsOf x) :
    Undisturbed settings cfg a := by
  rintro cfg' hact t ht x ⟨v, r, hc, -, -⟩ w rfl hw
  obtain ⟨hr, hi, hs⟩ := h cfg' hact t ht w.reservation.id (by rw [hc]; rfl)
  exact ⟨hr ▸ hw.reservation, hi ▸ hw.items, hs ▸ hw.seats⟩

/-- Bob takes a seat between the SELECTs. -/
def Sample.beside : List (Action Call) :=
  Sample.alone 0 6 (.reserveQuantity alice twoTickets (uuid4 100) 5) ++
    Sample.alone 1 1 (.get 100 alice) ++ Sample.alone 2 8 (.reserveSeats bob oneSeat (uuid4 200) 6) ++
    List.replicate 4 (.step 1)

def Sample.readBeside : ServiceConfig :=
  (start Sample.inventory).after (Call.prog Sample.settings) Sample.beside

theorem detail_read_whole_inventory :
    Run.Where (Call.prog Sample.settings) (Undisturbed Sample.settings) (start Sample.inventory)
      Sample.readBeside ∧
    ∃ (i : ℕ) (t : _), Sample.readBeside.threads[i]? = some t ∧ t.call = .get 100 Sample.alice ∧
      ∃ a, t.status = .returned (.ok (.detail a)) ∧
        a.ReadWhole (Sample.readBeside.Committed Sample.settings Sample.inventory i t) := by
  have r : Run.Where (Call.prog Sample.settings) (fun cfg a =>
      ∀ cfg' ∈ cfg.act (Call.prog Sample.settings) a, ∀ t ∈ cfg.threads, ∀ x ∈ t.call.reads?,
        cfg'.db.reservations.filter (fun r => r.id = x) =
            cfg.db.reservations.filter (fun r => r.id = x) ∧
          cfg'.db.itemsOf x = cfg.db.itemsOf x ∧ cfg'.db.seatsOf x = cfg.db.seatsOf x)
      (start Sample.inventory) Sample.readBeside := Config.Meets.run (by decide) (by decide)
  have hr := r.mono fun _ _ => undisturbed_of_rows
  obtain ⟨born, hread⟩ : ∃ born, Sample.readBeside.threads[1]? = some ⟨.get 100 Sample.alice, born,
      .returned (.ok (.detail
        ⟨100, 10, .reserved, .quantity, 900000005, [⟨20, 2, .reserved⟩], []⟩))⟩ := ⟨_, rfl⟩
  exact ⟨hr, 1, _, hread, rfl, _, rfl,
    (detail_read_whole Sample.inventory_inventory).2 _ hr 1 _ hread _ rfl⟩

end TicketReservation
