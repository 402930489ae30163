/-
  Calls about some events leave the rest of the database alone.

  `Call.Within ids`: the call reserves for one of the events `ids`, or it finds
  only reservations of these events to move.  What belongs to the other events is
  `Database.withoutEvents ids`.  A call within the events keeps it
  (`Call.Within.keeps`), and so does every continuation of a run by such calls, in
  any interleaving (`others_unchanged`).
-/
import TicketReservation.StressAdmin.Reset
import TicketReservation.LifecycleSafety

namespace TicketReservation

open Txn

variable {settings : Settings} {d₀ d d' : Database} {cfg cfg' : ServiceConfig} {ids : List UUID}

/-! ## The three changes -/

section
variable {x : Reservation}

@[simp] theorem reservationIdsOf_finish (d : Database) (x : UUID) (s : ReservationStatus)
    (ids : List UUID) : (d.finish x s).reservationIdsOf ids = d.reservationIdsOf ids := by
  rw [Database.reservationIdsOf, Database.finish_reservations, Table.filter_map_comm (by simp),
    Table.map_key (by simp)]
  rfl

/-- A reservation of these events holds no units of the others. -/
theorem Inv.held_other (h : Inv d) (hx : x ∈ d.reservations) (he : x.eventId ∈ ids)
    {t : TicketType} (ht : t ∈ d.ticketTypes) (hte : t.eventId ∉ ids) : d.held x.id t.id = 0 := by
  rw [Database.held, List.filter_eq_nil_iff.2]
  · rfl
  · intro i hi hp
    simp only [Bool.and_eq_true, decide_eq_true_eq] at hp
    refine hte ((h.item_event hi ht hp.2.symm).1 ?_)
    rw [hp.1]
    exact (h.id_mem_reservationIdsOf hx).2 he

theorem Inv.withoutEvents_finish (h : Inv d) (hx : x ∈ d.reservations) (he : x.eventId ∈ ids)
    (s : ReservationStatus) : (d.finish x.id s).withoutEvents ids = d.withoutEvents ids := by
  have hid : x.id ∈ d.reservationIdsOf ids := (h.id_mem_reservationIdsOf hx).2 he
  simp only [Database.withoutEvents, reservationIdsOf_finish]
  refine Database.ext rfl rfl rfl ?_ rfl ?_ ?_ ?_
  · refine Table.filter_map_eq (fun _ _ => rfl) fun t ht hte => ?_
    rw [h.held_other hx he ht (by simpa using hte)]
    simp
  · refine Table.filter_map_eq (by simp) fun r hr hre => if_neg fun hrx => ?_
    rw [h.eq_of_id hr hx hrx] at hre
    simp [he] at hre
  · refine Table.filter_map_eq (by simp) fun i _ hir => if_neg fun hix => ?_
    simp [hix, hid] at hir
  · refine Table.filter_map_eq (by simp) fun r _ hrr => if_neg fun hrx => ?_
    simp [hrx, hid] at hrr

/-- The rows of the others do not refer to a reservation that is new. -/
theorem filter_fresh {α : Type} {parent : α → UUID} {rows : List α} {y : UUID} {old : List UUID}
    (h : ∀ a ∈ rows, parent a ≠ y) : (rows.filter fun a => parent a ∉ old ++ [y]) =
      rows.filter fun a => parent a ∉ old :=
  List.filter_congr fun a ha => by simp [h a ha]

theorem reservationIdsOf_append {rows : List Reservation}
    (hres : d'.reservations = d.reservations ++ rows) :
    d'.reservationIdsOf ids = d.reservationIdsOf ids ++ (rows.filter fun r => r.eventId ∈ ids).map
      Reservation.id := by
  rw [Database.reservationIdsOf, hres, List.filter_append, List.map_append, Database.reservationIdsOf]

theorem Inv.withoutEvents_addQuantity {i : ReservationItem} (h : Inv d) (hn : NewQuantity d x i)
    (he : x.eventId ∈ ids) : (d.addQuantity x i).withoutEvents ids = d.withoutEvents ids := by
  have hids : (d.addQuantity x i).reservationIdsOf ids = d.reservationIdsOf ids ++ [x.id] := by
    rw [reservationIdsOf_append rfl]
    simp [he]
  simp only [Database.withoutEvents, hids]
  refine Database.ext rfl rfl rfl ?_ rfl ?_ ?_ ?_
  · obtain ⟨t, ht, hti, hte, -⟩ := hn.stock
    refine Table.filter_map_eq (fun r _ => by split_ifs <;> rfl) fun r hr hre => if_neg fun hri => ?_
    rw [Table.eq_of_key h.ticketTypeIds hr ht (hri.trans hti.symm), hte] at hre
    simp [he] at hre
  · simp [he]
  · rw [Database.addQuantity_reservationItems, List.filter_append, filter_fresh]
    · simp [hn.parent]
    · intro j hj hjx
      obtain ⟨r, hr, hrj⟩ := h.itemReservations j hj
      exact hn.fits.id r hr (hrj.trans hjx)
  · refine filter_fresh fun r hr hrx => ?_
    obtain ⟨y, hy, hyr⟩ := h.seatRowReservations r hr
    exact hn.fits.id y hy (hyr.trans hrx)

theorem Inv.withoutEvents_addSeats {rows : List ReservationSeat} (h : Inv d)
    (hn : NewSeats d x rows) (he : x.eventId ∈ ids) :
    (d.addSeats x rows).withoutEvents ids = d.withoutEvents ids := by
  have hids : (d.addSeats x rows).reservationIdsOf ids = d.reservationIdsOf ids ++ [x.id] := by
    rw [reservationIdsOf_append rfl]
    simp [he]
  simp only [Database.withoutEvents, hids]
  refine Database.ext rfl rfl rfl rfl rfl ?_ ?_ ?_
  · simp [he]
  · refine filter_fresh fun j hj hjx => ?_
    obtain ⟨r, hr, hrj⟩ := h.itemReservations j hj
    exact hn.fits.id r hr (hrj.trans hjx)
  · have hold : (d.reservationSeats.filter fun r =>
        r.reservationId ∉ d.reservationIdsOf ids ++ [x.id]) =
        d.reservationSeats.filter fun r => r.reservationId ∉ d.reservationIdsOf ids := by
      refine filter_fresh fun r hr hrx => ?_
      obtain ⟨y, hy, hyr⟩ := h.seatRowReservations r hr
      exact hn.fits.id y hy (hyr.trans hrx)
    have hnew : (rows.filter fun r => r.reservationId ∉ d.reservationIdsOf ids ++ [x.id]) = [] :=
      List.filter_eq_nil_iff.2 fun r hr => by simp [hn.parent r hr]
    show (d.reservationSeats ++ rows).filter _ = _
    rw [List.filter_append, hold, hnew, List.append_nil]

/-- A batch of these events. -/
theorem Inv.withoutEvents_finishAll (h : Inv d) {xs : List Reservation}
    (hx : ∀ x ∈ xs, x ∈ d.reservations ∧ x.status = .reserved ∧ x.eventId ∈ ids)
    (hn : (xs.map Reservation.id).Nodup) :
    (d.finishAll (xs.map Reservation.id) .expired).withoutEvents ids = d.withoutEvents ids := by
  induction xs generalizing d with
  | nil => rfl
  | cons x xs ih =>
    obtain ⟨hxm, hxr, hxe⟩ := hx x List.mem_cons_self
    rw [List.map_cons, List.nodup_cons] at hn
    have hrest : ∀ y ∈ xs, y ∈ (d.finish x.id .expired).reservations ∧ y.status = .reserved ∧
        y.eventId ∈ ids := by
      intro y hy
      obtain ⟨hym, hyr, hye⟩ := hx y (List.mem_cons_of_mem _ hy)
      have hne : y.id ≠ x.id := fun h => hn.1 (h ▸ List.mem_map_of_mem hy)
      exact ⟨List.mem_map.2 ⟨y, hym, if_neg hne⟩, hyr, hye⟩
    exact (ih (h.finish hxm hxr (by simp)) hrest hn.2).trans (h.withoutEvents_finish hxm hxe _)

end

/-! ## Calls -/

/-- **The call is about the events `ids` only**: no reservation of another event can be moved by it
    in `d`. -/
def Call.Within (ids : List UUID) (d : Database) : Call → Prop
  | .reserveQuantity _ payload _ _ => payload.eventId ∈ ids
  | .reserveSeats _ payload _ _ => payload.eventId ∈ ids
  | .get _ _ => True
  | .cancel reservationId _ _ | .confirm reservationId _ _ =>
    ∀ r ∈ d.reservations, r.id = reservationId → r.eventId ∈ ids
  | .expireBatch _ now reservationIds => ∀ r ∈ d.reservations, r.status = .reserved →
    r.expiresAt < now → (∀ l ∈ reservationIds, r.id ∈ l) → r.eventId ∈ ids

/-- What is said of the reservations of the other events. -/
theorem forall_other_iff {A : Reservation → Prop} :
    (∀ r ∈ d.reservations, A r → r.eventId ∈ ids) ↔
      ∀ r ∈ (d.withoutEvents ids).reservations, ¬ A r := by
  simp only [Database.withoutEvents, List.mem_filter, decide_eq_true_eq]
  exact ⟨fun h r hr hA => hr.2 (h r hr.1 hA), fun h r hr hA => by_contra fun hid =>
    h r ⟨hr, hid⟩ hA⟩

/-- It depends on the other events alone. -/
theorem Call.Within.of_others {c : Call} (h : c.Within ids d)
    (heq : d'.withoutEvents ids = d.withoutEvents ids) : c.Within ids d' := by
  cases c with
  | reserveQuantity | reserveSeats | get => exact h
  | cancel id v now | confirm id v now => exact forall_other_iff.2 (heq ▸ forall_other_iff.1 h)
  | expireBatch b now reservationIds =>
    have h : ∀ r ∈ d.reservations, r.status = .reserved ∧ r.expiresAt < now ∧
        (∀ l ∈ reservationIds, r.id ∈ l) → r.eventId ∈ ids :=
      fun r hr hA => h r hr hA.1 hA.2.1 hA.2.2
    intro r hr h1 h2 h3
    exact forall_other_iff.2 (heq ▸ forall_other_iff.1 h) r hr ⟨h1, h2, h3⟩

/-- Seats of an event are held by its reservations only. -/
theorem Inv.event_of_holder (h : Inv d) {eventId : UUID} {seatIds : List UUID} {now : Instant}
    {r : Reservation} (hr : r ∈ d.reservations) (hx : r.id ∈ d.staleHolders seatIds now)
    (hs : ∀ s ∈ seatIds, ∃ c ∈ d.seats, c.id = s ∧ c.eventId = eventId) : r.eventId = eventId := by
  obtain ⟨q, hq, hqr, hqs, -⟩ := mem_staleHolders.1 hx
  obtain ⟨y, hy, hyq, -, -, -, c, hc, hcq, hce⟩ := h.seat q hq
  obtain rfl := h.eq_of_id hy hr (hyq.trans hqr)
  obtain ⟨c', hc', hcs, hce'⟩ := hs _ hqs
  rw [← hce, ← hce', Table.eq_of_key h.seatIds hc hc' (hcq.trans hcs.symm)]

theorem withoutEvents_moveTo {target : ReservationStatus} {reservationId : UUID}
    {visitorSession : VisitorSession} {now : Instant} (hd : Inv d)
    (h : ∀ r ∈ d.reservations, r.id = reservationId → r.eventId ∈ ids) :
    (moveToOutcome target reservationId visitorSession now d).2.withoutEvents ids =
      d.withoutEvents ids := by
  unfold moveToOutcome
  cases hx : d.ownedReservation reservationId visitorSession.id visitorSession.userId with
  | none => rfl
  | some x =>
    obtain ⟨hxm, hid, -⟩ := (ownedReservation_eq_some hd).1 hx
    simp only [moveOutcome]
    split_ifs with h1 h2 h3
    · rfl
    · rfl
    · exact hd.withoutEvents_finish hxm (h x hxm hid) _
    · exact hd.withoutEvents_finish hxm (h x hxm hid) _

/-- A seat request moves reservations of its event only. -/
theorem Inv.withoutEvents_afterCreate {visitorSession : VisitorSession} {eventId : UUID}
    {orderedSeatIds : List UUID} {idempotencyKey : String} {uuid4 : ℕ → UUID} {now : Instant}
    (hd : Inv d) (h : eventId ∈ ids) (hc : SeatReservationService.CanReserve settings visitorSession
      eventId orderedSeatIds idempotencyKey uuid4 now d) :
    (SeatReservationService.afterCreate settings visitorSession eventId orderedSeatIds
      idempotencyKey uuid4 now d).withoutEvents ids = d.withoutEvents ids := by
  have hholds : ∀ x ∈ d.staleHolders orderedSeatIds now, d.HoldsSeats x :=
    fun x => holdsSeats_of_staleHolders hd
  have hn := nodup_staleHolders d orderedSeatIds now
  refine ((inv_expireSeats hd hholds hn).withoutEvents_addSeats hc h).trans ?_
  obtain ⟨rs, hids, hrs⟩ := exists_rows_of_holdsSeats hholds
  rw [← finishAll_eq_expireSeats hd hholds hn, ← hids]
  refine hd.withoutEvents_finishAll (fun x hx => ⟨(hrs x hx).1, (hrs x hx).2, ?_⟩) (hids ▸ hn)
  have hseats : ∀ s ∈ orderedSeatIds, ∃ c ∈ d.seats, c.id = s ∧ c.eventId = eventId := by
    intro s hs
    rw [← SeatReservationService.newSeats_seatIds settings orderedSeatIds uuid4 now] at hs
    obtain ⟨r, hr, rfl⟩ := List.mem_map.1 hs
    exact hc.seats r hr
  rw [hd.event_of_holder (hrs x hx).1 (hids ▸ List.mem_map_of_mem hx) hseats]
  exact h

/-- **A call within some events leaves the others as they are.** -/
theorem Call.Within.keeps {c : Call} {r : Except Error Response} (h : c.Within ids d) (hd : Inv d)
    (hs : c.spec settings d r d') : d'.withoutEvents ids = d.withoutEvents ids := by
  cases c with
  | reserveQuantity visitorSession payload uuid4 now =>
    obtain ⟨-, rfl⟩ := (spec_reserveQuantity hd).1 hs
    unfold QuantityReservationService.reserveOutcome
    split
    · rfl
    · rfl
    · split_ifs with hq hc
      · exact hd.withoutEvents_addQuantity hc h
      · rfl
      · rfl
  | reserveSeats visitorSession payload uuid4 now =>
    obtain ⟨-, rfl⟩ := (spec_reserveSeats hd).1 hs
    unfold SeatReservationService.reserveOutcome
    split
    · rfl
    · rfl
    · split_ifs with hq hc
      · rfl
      · exact hd.withoutEvents_afterCreate h hc
      · rfl
  | get reservationId visitorSession =>
    obtain rfl : d' = d := hs
    rfl
  | cancel reservationId visitorSession now =>
    obtain ⟨-, rfl⟩ := (spec_cancel hd).1 hs
    exact withoutEvents_moveTo hd h
  | confirm reservationId visitorSession now =>
    obtain ⟨-, rfl⟩ := (spec_confirm hd).1 hs
    exact withoutEvents_moveTo hd h
  | expireBatch batchSize now reservationIds =>
    obtain ⟨xs, hx, -, rfl⟩ := (spec_expireBatch hd).1 hs
    refine hd.withoutEvents_finishAll (fun x hxm => ?_) hx.nodup
    obtain ⟨h1, h2, h3, h4⟩ := hx.mem x hxm
    exact ⟨h1, h2, h x h1 h2 h3 h4⟩

/-! ## Runs -/

/-- From `cfg` on all calls are about the events `ids` only. -/
def AllWithin (ids : List UUID) (cfg cfg' : ServiceConfig) : Prop :=
  cfg.OpenCalls cfg' (Call.Within ids cfg.db)

/-- **One action** of such calls. -/
theorem AllWithin.step {c c' : ServiceConfig} {l : List (Entry Call Database (Except Error Response))}
    {a : Action Call} (hw : AllWithin ids cfg c) (r : ServiceRun settings cfg c)
    (hl : (system settings).Tracks d₀ c l) (hact : c.act (Call.prog settings) a = some c')
    (hsame : c.db.withoutEvents ids = cfg.db.withoutEvents ids) :
    c'.db.withoutEvents ids = c.db.withoutEvents ids := by
  cases a with
  | arrive c => cases hact; rfl
  | abort i =>
    obtain ⟨t, p, σ, -, -, -, hm⟩ := abort_cases hact
    rw [hm.db]
  | step i =>
    rcases hl.commit hact with hdb | ⟨t, x, ht, hs, -⟩
    · rw [hdb]
    · exact ((hw i t ht (r.open_of_step hact)).of_others hsame).keeps hl.inv hs

/-- **Calls about some events leave the others as they are**, in any interleaving and from any
    configuration of a run. -/
theorem AllWithin.run (h : ∃ l, (system settings).Tracks d₀ cfg l)
    (r : ServiceRun settings cfg cfg') (hw : AllWithin ids cfg cfg') :
    cfg'.db.withoutEvents ids = cfg.db.withoutEvents ids := by
  induction r with
  | refl => rfl
  | @tail c c' a r _ hact ih =>
    obtain ⟨l, hl⟩ := System.tracks_trans (S := system settings) h r
    have hlast : ServiceRun settings c c' := .tail a (.refl _) trivial hact
    have hw' : AllWithin ids cfg c := hw.back hlast
    have hsame := ih hw'
    exact (hw'.step r hl hact hsame).trans hsame

/-- **Calls about some events leave the others as they are**: in a continuation of any run, whose
    calls in flight may end too. -/
theorem others_unchanged (h : Served settings d) (r : ServiceRun settings (start d) cfg)
    (r' : ServiceRun settings cfg cfg') (hw : AllWithin ids cfg cfg') :
    cfg'.db.withoutEvents ids = cfg.db.withoutEvents ids :=
  hw.run (System.tracks_run (S := system settings) h.inv r) r'

namespace Sample

def oneMore : QuantityReservationCreate := { twoTickets with eventId := 11, ticketTypeId := 21 }

/-- Bob has reserved a ticket of type 21 for the event 11. -/
def twoEvents : Database :=
  ((start ((EventService.createTicketType 11 "General" 5 21).alone stressed).2).after
    (Call.prog Sample.settings) (alone 0 6 (.reserveQuantity bob oneMore (uuid4 200) 5))).db

theorem twoEvents_served : Served Sample.settings twoEvents :=
  .run (.createTicketType _ _ _ _ stressed_served) (run_after (by decide))

/-- Bob has confirmed his ticket for the event 11, and Alice's call for two tickets of the event 10 is
    in flight. -/
def sellsAt11 : ServiceConfig := (start twoEvents).after (Call.prog Sample.settings)
  (alone 0 9 (.confirm 200 bob 6) ++ alone 1 3 (.reserveQuantity alice twoTickets (uuid4 100) 5))

/-- Her call ends, and long after a worker expires her tickets. -/
def lapsesAt10 : ServiceConfig := sellsAt11.after (Call.prog Sample.settings)
  (List.replicate 3 (.step 1) ++ alone 2 7 (.expireBatch 10 1000000000 none))

theorem lapsesAt10_within : AllWithin [10] sellsAt11 lapsesAt10 := by
  have hcalls : lapsesAt10.threads.map Thread.call = [.confirm 200 bob 6,
    .reserveQuantity alice twoTickets (uuid4 100) 5, .expireBatch 10 1000000000 none] := rfl
  intro i t ht hopen
  have hcall : (lapsesAt10.threads.map Thread.call)[i]? = some t.call := by
    rw [List.getElem?_map, ht]
    rfl
  rw [hcalls] at hcall
  rcases i with _ | _ | _ | i
  · -- Bob's call has ended
    exact absurd (hopen _ (rfl : sellsAt11.threads[0]? = some _)) (by decide)
  · rw [← Option.some.inj hcall]
    exact List.mem_cons_self
  · rw [← Option.some.inj hcall]
    show ∀ r ∈ sellsAt11.db.reservations, _
    decide
  · cases hcall

end Sample

theorem others_unchanged_lapses :
    (Sample.lapsesAt10.db.reservations.map fun r => (r.eventId, r.status)) =
      [(11, .confirmed), (10, .expired)] ∧
    Sample.lapsesAt10.db.withoutEvents [10] = Sample.sellsAt11.db.withoutEvents [10] :=
  ⟨by decide, others_unchanged Sample.twoEvents_served (run_after (by decide)) (run_after (by decide))
    Sample.lapsesAt10_within⟩

end TicketReservation
