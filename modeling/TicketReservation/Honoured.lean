/-
  A hold is honoured until it lapses.

  `Undisputed`: every call of a continuation that may move the reservation moves
  it to the same status.  In such a run an owner's `confirm` (or `cancel`) that
  arrives while the reservation is RESERVED never fails, however it is
  interleaved with the others, and its answer is the reservation as it was made,
  in the new status (`hold_honoured`).  Duplicates of the call are no dispute.
-/
import TicketReservation.LifecycleSafety

namespace TicketReservation

open Txn

variable {settings : Settings} {d₀ d d' : Database} {cfg cfg' : ServiceConfig}
  {x : Reservation} {target : ReservationStatus}

theorem Whole.finish_finish (w : Whole) (s s' : ReservationStatus) :
    (w.finish s).finish s' = w.finish s' := by
  simp [Whole.finish]

/-- What became of a reservation, with its children. -/
theorem whole_moved (hd : Inv d) (hl : protocol.Leads d d') (hx : x ∈ d.reservations)
    {y : Reservation} (hy : y ∈ d'.reservations) (hid : y.id = x.id) :
    Whole.of d' y = (Whole.of d x).finish y.status := by
  have hd' := hl.inv hd
  obtain ⟨z, hz, hm, hitems, hseats⟩ := moved_leads hd hl hx
  obtain rfl := hd'.eq_of_id hz hy (hm.id.trans hid.symm)
  have h1 : d'.itemsOf z.id = (d.itemsOf x.id).map fun i => { i with status := z.status } := by
    rw [itemsOf_eq hd' hy, hid, hitems, List.map_map]
    refine List.map_congr_left fun i hi => ?_
    have hix : i.reservationId = x.id := by simpa using (List.mem_filter.1 hi).2
    simp [← hix]
  have h2 : d'.seatsOf z.id = (d.seatsOf x.id).map fun r => { r with status := z.status } := by
    rw [seatsOf_eq hd' hy, hid, hseats, List.map_map]
    refine List.map_congr_left fun r hr => ?_
    have hrx : r.reservationId = x.id := by simpa using (List.mem_filter.1 hr).2
    simp [← hrx]
  rw [Whole.of, h1, h2,
    orderBy_map (g := fun i : ReservationItem => { i with status := z.status })
      (fun _ => rfl) (fun _ => rfl),
    orderBy_map (g := fun r : ReservationSeat => { r with status := z.status })
      (fun _ => rfl) (fun _ => rfl),
    Whole.finish, Whole.of, ← hm.same]

/-- From `cfg` on the calls that may move the reservation agree. -/
def Undisputed (x : Reservation) (target : ReservationStatus) (cfg cfg' : ServiceConfig) : Prop :=
  cfg.OpenCalls cfg' fun c => ∀ s, c.MayMove x s → s = target

/-- **One action** leaves the reservation RESERVED or moves it to its target. -/
theorem Undisputed.step {l : List (Entry Call Database (Except Error Response))} {a : Action Call}
    {c c' : ServiceConfig} (hu : Undisputed x target cfg c) (r : ServiceRun settings cfg c)
    (hl : (system settings).Tracks d₀ c l) (hact : c.act (Call.prog settings) a = some c')
    (hx : x ∈ c.db.reservations) :
    x ∈ c'.db.reservations ∨ { x with status := target } ∈ c'.db.reservations := by
  rcases moves_act hl hact with hdb | ⟨i, t, ids, s, new, rfl, ht, hm⟩
  · exact Or.inl (hdb ▸ hx)
  · have hmem := List.mem_append_left new (List.mem_map_of_mem
      (f := fun r : Reservation => if r.id ∈ ids then { r with status := s } else r) hx)
    rw [hm.reservations]
    by_cases hxi : x.id ∈ ids
    · obtain rfl := hu i t ht (r.open_of_step hact) s (hm.may x hx hxi).2
      rw [if_pos hxi] at hmem
      exact Or.inr hmem
    · rw [if_neg hxi] at hmem
      exact Or.inl hmem

/-- **A run** leaves the reservation RESERVED or moves it to its target. -/
theorem Undisputed.run (h : ∃ l, (system settings).Tracks d₀ cfg l) (ht : target ≠ .reserved)
    (hx : x ∈ cfg.db.reservations) (r : ServiceRun settings cfg cfg')
    (hu : Undisputed x target cfg cfg') :
    x ∈ cfg'.db.reservations ∨ { x with status := target } ∈ cfg'.db.reservations := by
  induction r with
  | refl => exact Or.inl hx
  | @tail c c' a r _ hact ih =>
    obtain ⟨l, hl⟩ := System.tracks_trans (S := system settings) h r
    have hlast : ServiceRun settings c c' := .tail a (.refl _) trivial hact
    have hu' : Undisputed x target cfg c := hu.back hlast
    rcases ih hu' with hx | hx
    · exact hu'.step r hl hact hx
    · exact Or.inr (leads_final hl.inv (hl.leads hact) hx ht)

/-- Past the expiry the call would expire the reservation. -/
theorem Call.Finishes.stale {c : Call} {v : VisitorSession} {now : Instant}
    (hc : c.Finishes x.id v now target) (ho : x.ownedBy v.id v.userId) (hnow : x.expiresAt < now) :
    c.MayMove x .expired ∧ target ≠ .expired := by
  cases hc with
  | confirm => exact ⟨.staleConfirm v now ho hnow, by simp⟩
  | cancel => exact ⟨.staleCancel v now ho hnow, by simp⟩

/-- A call that finds the reservation RESERVED or in its target shows it in its target. -/
theorem Call.Finishes.answer {c : Call} {v : VisitorSession} {now : Instant}
    {a : Except Error Response} (hc : c.Finishes x.id v now target) (hd : Inv d)
    (hs : c.spec settings d a d') (ho : x.ownedBy v.id v.userId) (hnow : now ≤ x.expiresAt)
    {y : Reservation} (hy : y ∈ d.reservations) (hm : x.Moved y)
    (hst : y.status = .reserved ∨ y.status = target) :
    a = .ok (.detail ((Whole.of d y).finish target).detail) ∧
      { y with status := target } ∈ d'.reservations := by
  obtain ⟨rfl, rfl⟩ := (hc.spec_iff hd).1 hs
  have hoy : y.ownedBy v.id v.userId := by rw [hm.same]; exact ho
  rcases hst with hst | hst
  · have hstale : ¬ y.expiresAt < now := by rw [hm.same]; exact not_lt.2 hnow
    rw [← hm.id, moveToOutcome_reserved hd hy hst hc.final hoy, if_neg hstale]
    exact ⟨rfl, List.mem_map.2 ⟨y, hy, if_pos rfl⟩⟩
  · have hfound := (ownedReservation_eq_some hd).2 ⟨hy, hm.id, hoy⟩
    have hself : (Whole.of d y).finish target = Whole.of d y := by
      rw [← hst]
      exact (whole_moved hd .refl hy hy rfl).symm
    rw [moveToOutcome, hfound, hself]
    simp only [moveOutcome]
    rw [if_pos (show (Whole.of d y).reservation.status = target from hst)]
    exact ⟨rfl, by rw [← hst]; exact hy⟩

/-- **A hold is honoured.** -/
theorem hold_honoured (h : Inventory d₀) (r : ServiceRun settings (start d₀) cfg)
    (hx : x ∈ cfg.db.reservations) (hst : x.status = .reserved) (ht : target ≠ .reserved)
    (r' : ServiceRun settings cfg cfg') (hu : Undisputed x target cfg cfg') :
    (x ∈ cfg'.db.reservations ∨ { x with status := target } ∈ cfg'.db.reservations) ∧
    ∀ (i : ℕ) t v now a, cfg.threads.length ≤ i → cfg'.threads[i]? = some t →
      t.call.Finishes x.id v now target → x.ownedBy v.id v.userId → t.status = .returned a →
      a = .ok (.detail ((Whole.of cfg.db x).finish target).detail) ∧
        { x with status := target } ∈ cfg'.db.reservations := by
  have htracks := System.tracks_run (S := system settings) h.inv r
  have hafter := hu.run htracks ht hx r'
  refine ⟨hafter, fun i t v now a hi hti hc ho ha => ?_⟩
  obtain ⟨l, hl⟩ := System.tracks_run (S := system settings) h.inv (r.trans r')
  obtain ⟨d, d', hd, -, hborn, hs, hdd', hd'⟩ := hl.returned hti ha
  have hcd : protocol.Leads cfg.db d := (System.born_run htracks r' hti hi).trans hborn
  obtain ⟨y, hy, hm, -⟩ := moved_leads htracks.choose_spec.inv hcd hx
  -- what the call finds is what it is at the end, or RESERVED
  have hyst : y.status = .reserved ∨ y.status = target := by
    by_cases hyr : y.status = .reserved
    · exact Or.inl hyr
    · have hyf := leads_final hd (hdd'.trans hd') hy hyr
      rcases hafter with hx' | hx'
      · rw [hl.inv.eq_of_id hyf hx' hm.id] at hyr
        exact absurd hst hyr
      · exact Or.inr (by rw [hl.inv.eq_of_id hyf hx' hm.id])
  have hnow : now ≤ x.expiresAt := by
    by_contra hlt
    obtain ⟨hmay, hne⟩ := hc.stale ho (not_le.1 hlt)
    have hopen : cfg.Open i := fun u hui => by simp [List.getElem?_eq_none hi] at hui
    exact hne (hu i t hti hopen _ hmay).symm
  obtain ⟨rfl, hmem⟩ := hc.answer hd hs ho hnow hy hm hyst
  refine ⟨?_, ?_⟩
  · rw [whole_moved htracks.choose_spec.inv hcd hx hy hm.id, Whole.finish_finish]
  · rw [hm.same] at hmem
    exact leads_final (hdd'.inv hd) hd' hmem ht

namespace Sample

/-- Alice holds two tickets until 900000005. -/
def held : ServiceConfig := (start inventory).after (Call.prog Sample.settings)
  (alone 0 6 (.reserveQuantity alice twoTickets (uuid4 100) 5))

def heldTickets : Reservation := ⟨100, 10, 1, none, .reserved, .quantity, "k", 900000005⟩

/-- She confirms them while Bob, who does not own them, tries to cancel them. -/
def honoured : ServiceConfig := held.after (Call.prog Sample.settings)
  ([.arrive (.cancel 100 bob 7), .arrive (.confirm 100 alice 6)] ++
    [1, 2, 1, 2, 1, 2, 2, 2, 2, 2, 2, 2].map .step)

theorem honoured_undisputed : Undisputed heldTickets .confirmed held honoured := by
  have hcalls : honoured.threads.map Thread.call = [.reserveQuantity alice twoTickets (uuid4 100) 5,
    .cancel 100 bob 7, .confirm 100 alice 6] := rfl
  intro i t ht _ s hmay
  have hmem := List.mem_map_of_mem (f := Thread.call) (List.mem_of_getElem? ht)
  rw [hcalls] at hmem
  simp only [List.mem_cons, List.not_mem_nil, or_false] at hmem
  rcases hmem with h | h | h <;> rw [h] at hmay
  · cases hmay
  · cases hmay <;> simp_all [Reservation.ownedBy, bob, heldTickets]
  · cases hmay with
    | confirm => rfl
    | staleConfirm _ _ _ h => exact absurd h (by decide)

end Sample

/-- Alice gets her tickets. -/
theorem hold_honoured_races :
    (Sample.heldTickets ∈ Sample.honoured.db.reservations ∨
      { Sample.heldTickets with status := .confirmed } ∈ Sample.honoured.db.reservations) ∧
    ∀ t v now a, Sample.honoured.threads[2]? = some t →
      t.call.Finishes 100 v now .confirmed → Sample.heldTickets.ownedBy v.id v.userId →
      t.status = .returned a →
      a = .ok (.detail ((Whole.of Sample.held.db Sample.heldTickets).finish .confirmed).detail) ∧
        { Sample.heldTickets with status := .confirmed } ∈ Sample.honoured.db.reservations := by
  have r : ServiceRun Sample.settings (start Sample.inventory) Sample.held := run_after (by decide)
  have r' : ServiceRun Sample.settings Sample.held Sample.honoured := run_after (by decide)
  obtain ⟨hafter, hanswer⟩ := hold_honoured Sample.inventory_inventory r (x := Sample.heldTickets)
    (by decide) rfl (by decide) r' Sample.honoured_undisputed
  exact ⟨hafter, fun t v now a => hanswer 2 t v now a (by decide)⟩

end TicketReservation
