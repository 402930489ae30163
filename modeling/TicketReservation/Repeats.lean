/-
  Repeated `confirm` and `cancel`.

  A reservation that has left RESERVED keeps its row and its children for ever
  (`leads_final`, `whole_leads`), and `moveLocked` looks at the status before it
  looks at the clock.  So a repeated call answers what the first one answered,
  whatever has happened since (`finish_stable`).
-/
import TicketReservation.LifecycleSafety

namespace TicketReservation

open Txn

/-- The session is an owner of the reservation. -/
def Database.OwnedBy (d : Database) (reservationId : UUID) (visitorSession : VisitorSession) : Prop :=
  ∃ x ∈ d.reservations, x.id = reservationId ∧ x.ownedBy visitorSession.id visitorSession.userId

instance (d : Database) (reservationId : UUID) (visitorSession : VisitorSession) :
    Decidable (d.OwnedBy reservationId visitorSession) :=
  inferInstanceAs (Decidable (∃ x ∈ d.reservations, _))

section
variable {settings : Settings} {d₀ d d' : Database} {cfg cfg' : ServiceConfig} {s : ReservationStatus}
  {reservationId : UUID} {visitorSession : VisitorSession} {now : Instant} {c : Call} {w : Whole}

/-- **A reservation in the target status is shown as it is.** -/
theorem moveToOutcome_final (hd : Inv d) (hw : w.In d) (hs : w.reservation.status = s)
    (ho : d.OwnedBy w.reservation.id visitorSession) :
    moveToOutcome s w.reservation.id visitorSession now d = (.ok w.detail, d) := by
  obtain ⟨x, hx, hid, hown⟩ := ho
  obtain rfl : x = w.reservation := hw.eq hx hid
  rw [moveToOutcome, (ownedReservation_eq_some hd).2 ⟨hx, rfl, hown⟩]
  show moveOutcome s now (Whole.of d w.reservation) d = _
  rw [hw.eq_of, moveOutcome, if_pos hs]

/-- **Repeated `confirm` and `cancel` are stable for ever.**  Once a call has been answered, after
    any further run an owner's call gets the same answer and changes nothing: alone, and also
    while other calls are in progress. -/
theorem finish_stable (h : Inventory d₀) (r : ServiceRun settings (start d₀) cfg)
    {t : Thread Call Database Write Lock Error Response} (ht : t ∈ cfg.threads)
    (hc : t.call.Finishes reservationId visitorSession now s) {a : Response}
    (ha : t.status = .returned (.ok a)) (r' : ServiceRun settings cfg cfg') (now' : Instant)
    (visitorSession' : VisitorSession) (ho : cfg'.db.OwnedBy reservationId visitorSession') :
    (∀ c : Call, c.Finishes reservationId visitorSession' now' s →
      (c.prog settings).alone cfg'.db = (.ok a, cfg'.db)) ∧
    ∀ i t', cfg'.threads[i]? = some t' → t'.call.Finishes reservationId visitorSession' now' s →
      (cfg.threads.length ≤ i → ∀ answer, t'.status = .returned answer → answer = .ok a) ∧
      ∀ cfg'', cfg'.act (Call.prog settings) (.step i) = some cfg'' → cfg''.db = cfg'.db := by
  obtain ⟨l, hl⟩ := System.tracks_run (S := system settings) h.inv r
  obtain ⟨l', hl'⟩ := System.tracks_run (S := system settings) h.inv (r.trans r')
  obtain ⟨w, hw, rfl, hst, rfl⟩ := whole_of_returned hl ht hc ha
  have hfinal : w.reservation.status ≠ .reserved := hst ▸ hc.final
  have hin : ∀ {d}, protocol.Leads cfg.db d → w.In d := fun hlead => In_leads hl.inv hlead hw hfinal
  have hleads := System.leads_run (S := system settings) ⟨l, hl⟩ r'
  have hown : w.reservation.ownedBy visitorSession'.id visitorSession'.userId := by
    obtain ⟨x, hx, hid, hown⟩ := ho
    exact (hin hleads).eq hx hid ▸ hown
  -- whatever the database is later, the call shows the reservation and leaves it
  have hout : ∀ {d}, protocol.Leads cfg.db d →
      moveToOutcome s w.reservation.id visitorSession' now' d = (.ok w.detail, d) := fun hlead =>
    moveToOutcome_final (hlead.inv hl.inv) (hin hlead) hst ⟨_, (hin hlead).mem, rfl, hown⟩
  refine ⟨fun c hc' => ?_, fun i t' hi hc' => ⟨fun hge answer hans => ?_, fun cfg'' hact => ?_⟩⟩
  · obtain ⟨h1, h2⟩ := (hc'.spec_iff hl'.inv).1 (Call.alone_spec settings c hl'.inv)
    rw [hout hleads] at h1 h2
    exact Prod.ext h1 h2
  · obtain ⟨d, d', -, -, hborn, hsp, -, -⟩ := hl'.returned hi hans
    have hlead : protocol.Leads cfg.db d :=
      (System.born_run (S := system settings) ⟨l, hl⟩ r' hi hge).trans hborn
    have h1 := ((hc'.spec_iff (hlead.inv hl.inv)).1 hsp).1
    rw [hout hlead] at h1
    exact h1
  · rcases hl'.commit hact with hdb | ⟨t₁, r₁, ht₁, hsp, -⟩
    · exact hdb
    · obtain rfl := Option.some.inj (hi.symm.trans ht₁)
      have h2 := ((hc'.spec_iff hl'.inv).1 hsp).2
      rw [hout hleads] at h2
      exact h2

end

namespace Sample

/-- Alice cancels her hold. -/
def cancels : List (Action Call) :=
  alone 0 8 (.reserveSeats alice oneSeat (uuid4 100) 5) ++ alone 1 8 (.cancel 100 alice 6)

def cancelled : ServiceConfig := (start inventory).after (Call.prog settings) cancels

/-- Bob takes the seat and lets his hold lapse; a worker expires it. -/
def afterwards : ServiceConfig := cancelled.after (Call.prog settings)
  (alone 2 8 (.reserveSeats bob oneSeat (uuid4 200) 7) ++ alone 3 7 (.expireBatch 10 900000008 none))

end Sample

/-- Long after it would have expired, Alice cancels her hold again. -/
theorem finish_stable_cancels :
    Sample.afterwards.answers.map Prod.snd =
      [.ok (.seats ⟨100, .reserved, .seats, 900000005, [30]⟩),
        .ok (.detail ⟨100, 10, .cancelled, .seats, 900000005, [], [⟨30, .cancelled⟩]⟩),
        .ok (.seats ⟨200, .reserved, .seats, 900000007, [30]⟩), .ok (.count 1)] ∧
    ((Call.cancel 100 Sample.alice 999999999).prog Sample.settings).alone Sample.afterwards.db =
      (.ok (.detail ⟨100, 10, .cancelled, .seats, 900000005, [], [⟨30, .cancelled⟩]⟩),
        Sample.afterwards.db) := by
  have r : ServiceRun Sample.settings (start Sample.inventory) Sample.cancelled :=
    run_after (by decide)
  have r' : ServiceRun Sample.settings Sample.cancelled Sample.afterwards := run_after (by decide)
  have hcancelled : Sample.cancelled.threads[1]? = some ⟨.cancel 100 Sample.alice 6,
      Sample.seatHeld, .returned
        (.ok (.detail ⟨100, 10, .cancelled, .seats, 900000005, [], [⟨30, .cancelled⟩]⟩))⟩ := rfl
  exact ⟨by decide, (finish_stable Sample.inventory_inventory r (List.mem_of_getElem? hcancelled)
    .cancel rfl r' 999999999 Sample.alice (by decide)).1 _ .cancel⟩

end TicketReservation
