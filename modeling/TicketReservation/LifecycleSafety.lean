/-
  The lifecycle of a reservation in every run.

  `Tracks.commit` says that a commit does what its call may do atomically, and
  `Call.moves` what that is for the table `reservations`.  Hence a reservation
  leaves RESERVED at most once and only through a call that may move it
  (`LifecycleSafe.step`); afterwards it stays as it is (`LifecycleSafe.final`),
  so a successful confirm and a successful cancel exclude each other.
-/
import TicketReservation.Runs
import TicketReservation.Outcomes

namespace TicketReservation

open Txn

variable {settings : Settings} {d₀ d d' : Database} {cfg cfg' : ServiceConfig}

/-- **The lifecycle of the reservations of a configuration.** -/
structure LifecycleSafe (settings : Settings) (cfg : ServiceConfig) : Prop where
  /-- a reservation is the row with its id -/
  ids : (cfg.db.reservations.map Reservation.id).Nodup
  /-- an action keeps a reservation, or is the commit of a call that may move it out of RESERVED -/
  step : ∀ (a : Action Call) (cfg' : ServiceConfig), cfg.act (Call.prog settings) a = some cfg' →
    ∀ r ∈ cfg.db.reservations, r ∈ cfg'.db.reservations ∨
      r.status = .reserved ∧ ∃ i t s, a = .step i ∧ cfg.threads[i]? = some t ∧
        t.call.MayMove r s ∧ { r with status := s } ∈ cfg'.db.reservations
  /-- a new reservation is RESERVED -/
  new : ∀ (a : Action Call) (cfg' : ServiceConfig), cfg.act (Call.prog settings) a = some cfg' →
    ∀ r' ∈ cfg'.db.reservations,
      (∃ r ∈ cfg.db.reservations, r.id = r'.id) ∨ r'.status = .reserved
  /-- a reservation that has left RESERVED stays as it is -/
  final : ∀ cfg', ServiceRun settings cfg cfg' → ∀ r ∈ cfg.db.reservations,
    r.status ≠ .reserved → r ∈ cfg'.db.reservations
  /-- a successful confirm and a successful cancel exclude each other -/
  confirmed : ∀ t ∈ cfg.threads, ∀ t' ∈ cfg.threads, ∀ id v now v' now' a a',
    t.call = .confirm id v now → t.status = .returned (.ok a) →
      t'.call = .cancel id v' now' → t'.status ≠ .returned (.ok a')

/-- A reservation that has left RESERVED stays as it is. -/
theorem leads_final (hd : Inv d) (h : protocol.Leads d d') {r : Reservation}
    (hr : r ∈ d.reservations) (hst : r.status ≠ .reserved) : r ∈ d'.reservations := by
  have hkeep : protocol.Keeps [] fun d => ∃ x ∈ d.reservations, x = r := by
    refine keeps_reservation fun x x' hm hx => ?_
    subst hx
    have hsame : x'.status = x.status := hm.status.resolve_left hst
    rw [hm.same, hsame]
  obtain ⟨x, hx, rfl⟩ := hkeep.leads hd h ⟨r, hr, rfl⟩
  exact hx

section
variable {R : Reservation}

/-- The items of a reservation, from what an effect does not change and its row. -/
theorem itemsOf_eq (hd : Inv d) (hR : R ∈ d.reservations) : d.itemsOf R.id =
    ((d.itemsOf R.id).map fun i => (i.id, i.ticketTypeId, i.quantity)).map fun t =>
      ⟨t.1, R.id, t.2.1, t.2.2, R.status⟩ := by
  rw [List.map_map]
  refine ((List.map_congr_left fun i hi => ?_).trans (List.map_id _)).symm
  obtain ⟨hi, hir⟩ := List.mem_filter.1 hi
  have hir : i.reservationId = R.id := by simpa using hir
  simp [← hir, ← hd.item_status hR i hi hir]

theorem seatsOf_eq (hd : Inv d) (hR : R ∈ d.reservations) : d.seatsOf R.id =
    ((d.seatsOf R.id).map fun r => (r.id, r.seatId, r.expiresAt)).map fun t =>
      ⟨t.1, R.id, t.2.1, R.status, t.2.2⟩ := by
  rw [List.map_map]
  refine ((List.map_congr_left fun r hr => ?_).trans (List.map_id _)).symm
  obtain ⟨hr, hrr⟩ := List.mem_filter.1 hr
  have hrr : r.reservationId = R.id := by simpa using hrr
  simp [← hrr, ← hd.seat_status hR r hr hrr]

/-- **A reservation stays**, with what its children say but for their status. -/
theorem moved_leads (hd : Inv d) (hl : protocol.Leads d d') (hR : R ∈ d.reservations) :
    ∃ y ∈ d'.reservations, R.Moved y ∧
      ((d'.itemsOf R.id).map (fun i => (i.id, i.ticketTypeId, i.quantity)) =
        (d.itemsOf R.id).map fun i => (i.id, i.ticketTypeId, i.quantity)) ∧
      (d'.seatsOf R.id).map (fun r => (r.id, r.seatId, r.expiresAt)) =
        (d.seatsOf R.id).map fun r => (r.id, r.seatId, r.expiresAt) := by
  have hkeep : protocol.Keeps [] fun e => ∃ y ∈ e.reservations, R.Moved y ∧
      ((e.itemsOf R.id).map (fun i => (i.id, i.ticketTypeId, i.quantity)) =
        (d.itemsOf R.id).map fun i => (i.id, i.ticketTypeId, i.quantity)) ∧
      (e.seatsOf R.id).map (fun r => (r.id, r.seatId, r.expiresAt)) =
        (d.seatsOf R.id).map fun r => (r.id, r.seatId, r.expiresAt) := by
    intro Λ' e e' hi hdisj hs ⟨y, hy, hm, hitems, hseats⟩
    obtain ⟨y', hy', hm'⟩ := hs.reservation hi hy
    rw [← hm.id] at hitems hseats ⊢
    exact ⟨y', hy', hm.trans hm', (hs.itemsOf hy).trans hitems, (hs.seatsOf hy).trans hseats⟩
  exact hkeep.leads hd hl ⟨R, hR, .refl R, rfl, rfl⟩

/-- A reservation whose row stays keeps its children as well. -/
theorem whole_leads (hd : Inv d) (hl : protocol.Leads d d') (hR : R ∈ d.reservations)
    (hR' : R ∈ d'.reservations) : (Whole.of d R).In d' := by
  obtain ⟨-, -, -, hitems, hseats⟩ := moved_leads hd hl hR
  have hd' := hl.inv hd
  refine ⟨Table.filter_key hd'.reservationIds hR', congrArg _ ?_, congrArg _ ?_⟩
  · show d'.itemsOf R.id = d.itemsOf R.id
    rw [itemsOf_eq hd' hR', itemsOf_eq hd hR, hitems]
  · show d'.seatsOf R.id = d.seatsOf R.id
    rw [seatsOf_eq hd' hR', seatsOf_eq hd hR, hseats]

end

/-- The call is a `confirm` or a `cancel` of the reservation, which moves it to the status. -/
inductive Call.Finishes (reservationId : UUID) (visitorSession : VisitorSession) (now : Instant) :
    ReservationStatus → Call → Prop
  | confirm : Finishes reservationId visitorSession now .confirmed
      (.confirm reservationId visitorSession now)
  | cancel : Finishes reservationId visitorSession now .cancelled
      (.cancel reservationId visitorSession now)

section
variable {s : ReservationStatus} {reservationId : UUID} {visitorSession : VisitorSession} {now : Instant}
  {c : Call} {w : Whole}

theorem Call.Finishes.final (hc : c.Finishes reservationId visitorSession now s) : s ≠ .reserved := by
  cases hc <;> simp

theorem Call.Finishes.spec_iff (hc : c.Finishes reservationId visitorSession now s) (hd : Inv d)
    {r : Except Error Response} : c.spec settings d r d' ↔
      r = (moveToOutcome s reservationId visitorSession now d).1.map .detail ∧
        d' = (moveToOutcome s reservationId visitorSession now d).2 := by
  cases hc with
  | confirm => exact Call.spec_confirm hd
  | cancel => exact Call.spec_cancel hd

/-- A final reservation keeps its children as well. -/
theorem In_leads (hd : Inv d) (hl : protocol.Leads d d') (hw : w.In d)
    (hs : w.reservation.status ≠ .reserved) : w.In d' :=
  hw.eq_of ▸ whole_leads hd hl hw.mem (leads_final hd hl hw.mem hs)

/-- What a successful `confirm` or `cancel` leaves, it leaves for ever. -/
theorem whole_of_returned {l : List (Entry Call Database (Except Error Response))}
    {t : Thread Call Database Write Lock Error Response} {a : Response}
    (h : (system settings).Tracks d₀ cfg l) (ht : t ∈ cfg.threads)
    (hc : t.call.Finishes reservationId visitorSession now s) (ha : t.status = .returned (.ok a)) :
    ∃ w : Whole, w.In cfg.db ∧ w.reservation.id = reservationId ∧ w.reservation.status = s ∧
      a = .detail w.detail := by
  obtain ⟨i, hi⟩ := List.mem_iff_getElem?.1 ht
  obtain ⟨d, d', hd, -, -, hsp, hl, hl'⟩ := h.returned hi ha
  obtain ⟨hok, rfl⟩ := (hc.spec_iff hd).1 hsp
  obtain ⟨b, hout, rfl⟩ := ok_eq_map hok
  obtain ⟨w, hw, hid, hst, rfl⟩ := moveToOutcome_ok hd hout
  exact ⟨w, In_leads (hl.inv hd) hl' hw (hst ▸ hc.final), hid, hst, rfl⟩

end

/-- One action. -/
theorem moves_act {l : List (Entry Call Database (Except Error Response))} {a : Action Call}
    (h : (system settings).Tracks d₀ cfg l) (hact : cfg.act (Call.prog settings) a = some cfg') :
    cfg'.db = cfg.db ∨ ∃ i t ids s new, a = .step i ∧ cfg.threads[i]? = some t ∧
      t.call.Moves cfg.db cfg'.db ids s new := by
  cases a with
  | arrive c => cases hact; exact Or.inl rfl
  | abort i =>
    obtain ⟨t, p, σ, -, -, -, hm⟩ := abort_cases hact
    exact Or.inl hm.db
  | step i =>
    rcases h.commit hact with hdb | ⟨t, r, ht, hspec, -⟩
    · exact Or.inl hdb
    · obtain ⟨ids, s, new, hmoves⟩ := Call.moves h.inv (show Call.spec settings _ _ _ _ from hspec)
      exact Or.inr ⟨i, t, ids, s, new, rfl, ht, hmoves⟩

/-- **Lifecycle safety.** -/
theorem lifecycle_safety (h : Inventory d₀) (r : ServiceRun settings (start d₀) cfg) :
    LifecycleSafe settings cfg := by
  obtain ⟨l, hl⟩ := System.tracks_run (S := system settings) h.inv r
  have hi : Inv cfg.db := hl.inv
  refine ⟨hi.reservationIds, fun a cfg' hact x hx => ?_, fun a cfg' hact x hx => ?_,
    fun cfg' hrun x hx hst => ?_, ?_⟩
  · rcases moves_act hl hact with hdb | ⟨i, t, ids, s, new, rfl, ht, hm⟩
    · exact Or.inl (hdb ▸ hx)
    · rw [hm.reservations]
      have hmem := List.mem_append_left new (List.mem_map_of_mem
        (f := fun r : Reservation => if r.id ∈ ids then { r with status := s } else r) hx)
      by_cases hxi : x.id ∈ ids
      · obtain ⟨hres, hmay⟩ := hm.may x hx hxi
        rw [if_pos hxi] at hmem
        exact Or.inr ⟨hres, i, t, s, rfl, ht, hmay, hmem⟩
      · rw [if_neg hxi] at hmem
        exact Or.inl hmem
  · rcases moves_act hl hact with hdb | ⟨i, t, ids, s, new, rfl, ht, hm⟩
    · exact Or.inl ⟨x, hdb ▸ hx, rfl⟩
    · rw [hm.reservations, List.mem_append, List.mem_map] at hx
      rcases hx with ⟨y, hy, rfl⟩ | hx
      · exact Or.inl ⟨y, hy, by split_ifs <;> rfl⟩
      · exact Or.inr (hm.new x hx)
  · exact leads_final hi (System.leads_run (S := system settings) ⟨l, hl⟩ hrun) hx hst
  · intro t ht t' ht' id v now v' now' a a' hc hr hc' hr'
    have hconfirm : t.call.Finishes id v now .confirmed := by rw [hc]; exact .confirm
    have hcancel : t'.call.Finishes id v' now' .cancelled := by rw [hc']; exact .cancel
    obtain ⟨w, hw, hid, hst, -⟩ := whole_of_returned hl ht hconfirm hr
    obtain ⟨w', hw', hid', hst', -⟩ := whole_of_returned hl ht' hcancel hr'
    rw [hi.eq_of_id hw.mem hw'.mem (hid.trans hid'.symm), hst'] at hst
    cases hst

theorem lifecycle_safety_buys : LifecycleSafe Sample.settings
    ((start Sample.inventory).after (Call.prog Sample.settings)
      (Sample.alone 0 6 (.reserveQuantity Sample.alice Sample.twoTickets (Sample.uuid4 100) 5) ++
        Sample.alone 1 9 (.confirm 100 Sample.alice 6))) :=
  lifecycle_safety Sample.inventory_inventory (run_after (by decide))

end TicketReservation
