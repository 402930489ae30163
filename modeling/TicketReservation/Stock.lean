/-
  The guarded updates of the stock.

  * `keepsChecks_reserve`, `keepsChecks_release`, `keepsChecks_confirm`: for a
    positive quantity a guarded update violates no CHECK of `ticket_types`,
    whatever rows it sees;
  * `inventory_sound`: in every run the updates of `cancel`, `confirm` and
    `expire_batch` find their rows, so `ReservationInventoryConflictError` is
    neither raised nor swallowed, and the look-ups of a replay find the
    reservation of their kind.
-/
import TicketReservation.Workers
import TicketReservation.Conflicts
import TicketReservation.Successes

namespace TicketReservation

open Txn ReservationLifecycleService

/-! ## One update -/

/-- On rows that satisfy the CHECKs the update raises no `IntegrityError`, and the rows that its
    session sees afterwards satisfy them. -/
def KeepsChecks (p : Tx Bool) : Prop :=
  ∀ (d : Database) (σ : Session), ((σ.view d).ticketTypes.map TicketType.id).Nodup →
    (∀ t ∈ (σ.view d).ticketTypes, t.Checks) →
    (p.run d σ).1 ≠ .error .integrityError ∧ ∀ t ∈ ((p.run d σ).2.2.view d).ticketTypes, t.Checks

theorem keepsChecks_updateTicketType (ticketTypeId : UUID) {guard : TicketType → Bool} {Δr Δs : ℤ}
    (h : ∀ t : TicketType, t.Checks → guard t → (t.add Δr Δs).Checks) :
    KeepsChecks (updateTicketType ticketTypeId guard Δr Δs) := by
  intro d σ hn hc
  have hrun : (updateTicketType ticketTypeId guard Δr Δs).run d σ =
      (((σ.view d).updateTicketType ticketTypeId guard Δr Δs).result, d,
        ⟨σ.writes ++ ((σ.view d).updateTicketType ticketTypeId guard Δr Δs).writes,
          σ.locks ++ ((σ.view d).updateTicketType ticketTypeId guard Δr Δs).takes⟩) := by
    simp only [updateTicketType, executeOrRaise, execute, Prog.bind_eq, Prog.run_bind, Prog.run_exec,
      Stmt.ofPlan]
    cases ((σ.view d).updateTicketType ticketTypeId guard Δr Δs).result <;> rfl
  rw [hrun, Session.view_append _ _ _ σ.locks]
  cases hf : (σ.view d).ticketTypes.find? fun t => t.id = ticketTypeId && guard t with
  | none =>
    simp only [Database.updateTicketType, hf]
    exact ⟨by simp, hc⟩
  | some t =>
    obtain ⟨ht, hp⟩ := (Table.find?_eq_some_iff hn (k := ticketTypeId) (by simp +contextual)).1 hf
    rw [Bool.and_eq_true, decide_eq_true_eq] at hp
    have hadd := h t (hc t ht) hp.2
    simp only [Database.updateTicketType, hf, if_pos hadd]
    refine ⟨by simp, fun t' ht' => ?_⟩
    obtain ⟨r, hr, rfl⟩ := List.mem_map.1 ht'
    split_ifs with hid
    · obtain rfl := Table.eq_of_key hn hr ht (hid.trans hp.1.symm)
      exact hadd
    · exact hc r hr

section
variable {eventId ticketTypeId : UUID} {quantity : ℤ}

theorem keepsChecks_reserve (hq : 0 < quantity) :
    KeepsChecks (reserveTicketQuantity eventId ticketTypeId quantity) := by
  unfold reserveTicketQuantity
  split_ifs
  · refine keepsChecks_updateTicketType ticketTypeId fun t ht hg => ?_
    obtain ⟨h1, h2, h3, h4⟩ := ht
    simp only [Bool.and_eq_true, decide_eq_true_eq] at hg
    refine ⟨h1, ?_, ?_, ?_⟩ <;> simp <;> omega
  · exact fun d σ _ hc => ⟨by simp, hc⟩

theorem keepsChecks_release (hq : 0 < quantity) :
    KeepsChecks (releaseReservedQuantity ticketTypeId quantity) := by
  refine keepsChecks_updateTicketType ticketTypeId fun t ht hg => ?_
  obtain ⟨h1, h2, h3, h4⟩ := ht
  rw [decide_eq_true_eq] at hg
  refine ⟨h1, ?_, ?_, ?_⟩ <;> simp <;> omega

theorem keepsChecks_confirm (hq : 0 < quantity) :
    KeepsChecks (confirmReservedQuantity ticketTypeId quantity) := by
  refine keepsChecks_updateTicketType ticketTypeId fun t ht hg => ?_
  obtain ⟨h1, h2, h3, h4⟩ := ht
  simp only [Bool.and_eq_true, decide_eq_true_eq] at hg
  refine ⟨h1, ?_, ?_, ?_⟩ <;> simp <;> omega

end

/-! ## Every run -/

/-- The errors that would show a broken inventory or an ambiguous key. -/
def Error.Unsound (e : Error) : Prop :=
  e = .reservationInventoryConflictError ∨ e = .integrityError ∨ e = .multipleResultsFound

section
variable {settings : Settings} {d d' : Database} {u : UUID} {k : String}

/-- A look-up fails only for a key that cannot be stored. -/
theorem quantityLookup_error (hd : Inv d) {e : Error} (h : d.quantityLookup u k = .error e) :
    e = .dataError ∧ ¬ Storable k := by
  by_cases hk : Storable k
  · obtain ⟨o, ho⟩ := (finds_quantityLookup (u := u) hk).ok hd
    rw [ho] at h
    cases h
  · rw [Database.quantityLookup, if_pos hk] at h
    cases h
    exact ⟨rfl, hk⟩

theorem seatLookup_error (hd : Inv d) {e : Error} (h : d.seatLookup u k = .error e) :
    e = .dataError ∧ ¬ Storable k := by
  by_cases hk : Storable k
  · obtain ⟨o, ho⟩ := (finds_seatLookup (u := u) hk).ok hd
    rw [ho] at h
    cases h
  · rw [Database.seatLookup, if_pos hk] at h
    cases h
    exact ⟨rfl, hk⟩

theorem quantityLookup_sound (hd : Inv d) {e : Error} (h : d.quantityLookup u k = .error e) :
    ¬ e.Unsound := by
  obtain ⟨rfl, -⟩ := quantityLookup_error hd h
  simp [Error.Unsound]

theorem seatLookup_sound (hd : Inv d) {e : Error} (h : d.seatLookup u k = .error e) :
    ¬ e.Unsound := by
  obtain ⟨rfl, -⟩ := seatLookup_error hd h
  simp [Error.Unsound]

theorem moveToOutcome_sound {s : ReservationStatus} {reservationId : UUID}
    {visitorSession : VisitorSession} {now : Instant} {e : Error}
    (h : (moveToOutcome s reservationId visitorSession now d).1 = .error e) : ¬ e.Unsound := by
  unfold moveToOutcome moveOutcome at h
  split at h
  · cases h
    simp [Error.Unsound]
  · split_ifs at h <;> cases h <;> simp [Error.Unsound]

/-- **No call but `get`, which has no such error, answers with an unsound one.** -/
theorem Call.error_sound {c : Call} (hd : Inv d) {e : Error} (h : c.spec settings d (.error e) d')
    (hc : ∀ x v, c ≠ .get x v) : ¬ e.Unsound := by
  have of_map : ∀ {α : Type} {f : α → Response} {r : Except Error α}, .error e = r.map f →
      r = .error e := by
    intro α f r hr
    cases r <;> cases hr
    rfl
  cases c with
  | get x v => exact absurd rfl (hc x v)
  | cancel x v now => exact moveToOutcome_sound (of_map ((spec_cancel hd).1 h).1)
  | confirm x v now => exact moveToOutcome_sound (of_map ((spec_confirm hd).1 h).1)
  | expireBatch b now ids =>
    obtain ⟨xs, -, hr, -⟩ := (spec_expireBatch hd).1 h
    cases hr
  | reserveQuantity v p uuid4 now =>
    have hr := of_map ((spec_reserveQuantity hd).1 h).1
    unfold QuantityReservationService.reserveOutcome at hr
    split at hr
    · rename_i hl
      cases hr
      exact quantityLookup_sound hd hl
    · cases hr
    · split_ifs at hr <;> cases hr <;> simp [Error.Unsound]
  | reserveSeats v p uuid4 now =>
    have hr := of_map ((spec_reserveSeats hd).1 h).1
    unfold SeatReservationService.reserveOutcome at hr
    split at hr
    · rename_i hl
      cases hr
      exact seatLookup_sound hd hl
    · cases hr
    · split_ifs at hr <;> cases hr <;> simp [Error.Unsound]

end

/-- **Inventory conflicts are out of reach** in the configuration. -/
structure InventorySound (settings : Settings) (cfg : ServiceConfig) : Prop where
  /-- nothing is raised: no guarded update of a transition misses its row, no update fails a CHECK
  (nobody catches that `IntegrityError`), and no key is ambiguous -/
  raised : ∀ t ∈ cfg.threads, (∀ x v, t.call ≠ .get x v) → ∀ e, t.status = .returned (.error e) →
    ¬ e.Unsound
  /-- nothing is swallowed: a worker that commits expires and counts every reservation that it has
  locked -/
  swallowed : ∀ t ∈ cfg.threads, ∀ batchSize now ids k σ,
    t.call = .expireBatch batchSize now ids → t.status = .running (.commit k) σ →
      ∃ xs : List UUID, xs.Nodup ∧ (∀ x, .reservation x ∈ σ.locks ↔ x ∈ xs) ∧
        (∀ x ∈ xs, ∃ r ∈ cfg.db.reservations, r.id = x ∧ r.status = .reserved) ∧
        σ.view cfg.db = cfg.db.finishAll xs .expired ∧ k = .ret (.count xs.length)
  /-- the guarded updates of a RESERVED item find their row -/
  found : ∀ i ∈ cfg.db.reservationItems, i.status = .reserved → ∀ s,
    ((moveQuantity s i).run cfg.db ∅).1 = .ok true
  /-- the look-ups find the reservation of their kind, and raise nothing for any other key -/
  quantityReplay : ∀ r ∈ cfg.db.reservations, r.reservationType = .quantity →
    ∃ a, cfg.db.quantityLookup r.visitorSessionId r.idempotencyKey = .ok (some a) ∧
      a.reservationId = r.id
  seatReplay : ∀ r ∈ cfg.db.reservations, r.reservationType = .seats →
    ∃ a, cfg.db.seatLookup r.visitorSessionId r.idempotencyKey = .ok (some a) ∧
      a.reservationId = r.id
  unambiguous : ∀ u k, cfg.db.quantityLookup u k ≠ .error .multipleResultsFound ∧
    cfg.db.seatLookup u k ≠ .error .multipleResultsFound
  /-- the CHECKs of `ticket_types` and `reservation_items` -/
  ticketTypeChecks : ∀ t ∈ cfg.db.ticketTypes, t.Checks
  itemChecks : ∀ i ∈ cfg.db.reservationItems, 0 < i.quantity

theorem Worker.commits {settings : Settings} {d : Database} {batchSize : ℕ} {now : Instant}
    {reservationIds : Option (List UUID)} {ph : Phase} {k : Tx Response} {σ : Session}
    (hi : Inv d) (h : Worker settings d batchSize now reservationIds ph (.running (.commit k) σ)) :
    ∃ ws, ph = .selected ws ∧ Batch d batchSize now reservationIds ws ∧
      σ.view d = d.finishAll (ws.map fun w => w.reservation.id) .expired ∧
      k = .ret (.count ws.length) := by
  generalize hs : Status.running (Prog.commit k) σ = s at h
  cases h with
  | arrived | idle | committed | returned => cases hs
  | @busy ws p σ hne hb hl hset =>
    cases hset with
    | ret =>
      cases hs
      exact ⟨ws, rfl, hb, view_transitions .expired _ (by simp) hi hb.mem hb.nodup hb.reserved, rfl⟩
    | stmt => cases hs

/-- **Inventory conflicts are unreachable**, and for a positive quantity the three
    guarded updates, whatever rows they see, and the new item keep the CHECKs. -/
theorem inventory_sound {settings : Settings} {d₀ : Database} {cfg : ServiceConfig}
    (h : Inventory d₀) (r : ServiceRun settings (start d₀) cfg) :
    InventorySound settings cfg ∧ ∀ (eventId ticketTypeId : UUID) (quantity : ℤ), 0 < quantity →
      KeepsChecks (reserveTicketQuantity eventId ticketTypeId quantity) ∧
      KeepsChecks (releaseReservedQuantity ticketTypeId quantity) ∧
      KeepsChecks (confirmReservedQuantity ticketTypeId quantity) ∧
      ∀ uuid4, 0 < (QuantityReservationService.newItem ticketTypeId quantity uuid4).quantity := by
  obtain ⟨l, hl⟩ := System.tracks_run (S := system settings) h.inv r
  have hi : Inv cfg.db := hl.inv
  refine ⟨⟨?_, ?_, ?_, ?_, ?_, ?_, hi.ticketTypeChecks, hi.itemQuantities⟩, fun _ _ _ hq =>
    ⟨keepsChecks_reserve hq, keepsChecks_release hq, keepsChecks_confirm hq, fun _ => hq⟩⟩
  · intro t ht hget e he
    obtain ⟨n, hn⟩ := List.mem_iff_getElem?.1 ht
    obtain ⟨d, d', hd, -, -, hspec, -⟩ := hl.returned hn he
    exact Call.error_sound hd hspec hget
  · intro t ht batchSize now ids k σ hc hst
    obtain ⟨n, hn⟩ := List.mem_iff_getElem?.1 ht
    rcases worker_run h.inv r hn hc with ha | ⟨ph, hw⟩
    · rw [hst] at ha
      cases ha
    have hlocks := fun x => hw.locks (x := x)
    rw [hst] at hw hlocks
    obtain ⟨ws, rfl, hb, hview, hk⟩ := hw.commits hi
    refine ⟨_, hb.nodup, fun x => ?_, fun x hx => ?_, hview, by simpa using hk⟩
    · exact (hlocks x).trans ⟨fun ⟨_, h, hx⟩ => by cases h; exact hx, fun hx => ⟨ws, rfl, hx⟩⟩
    · obtain ⟨w, hw, rfl⟩ := List.mem_map.1 hx
      exact ⟨w.reservation, (hb.mem w hw).mem, rfl, hb.reserved w hw⟩
  · intro i hit hst s
    have := settled_moveQuantity (σ := ∅) (K := (cfg.db = ·)) s (by rintro _ rfl; exact ⟨hi, hit⟩) hst
    rw [this.run rfl]
  · intro r hr hty
    obtain ⟨i, -, hrec⟩ := quantityRecords_of_mem hi hr hty
    rw [Database.quantityLookup, if_neg (by simpa using hi.reservationKeys r hr), hrec]
    exact ⟨_, rfl, rfl⟩
  · intro r hr hty
    exact ⟨_, seatLookup_of_mem hi hr hty (hi.reservationKeys r hr), rfl⟩
  · intro u k
    constructor
    · exact fun he => quantityLookup_sound hi he (by simp [Error.Unsound])
    · exact fun he => seatLookup_sound hi he (by simp [Error.Unsound])

/-- Alice reserves two tickets, and a worker expires them. -/
def Sample.sweeps : List (Action Call) :=
  alone 0 6 (.reserveQuantity alice twoTickets (uuid4 100) 5) ++
    alone 1 8 (.expireBatch 10 900000006 none)

theorem inventory_sound_sweeps :
    InventorySound Sample.settings ((start Sample.inventory).after (Call.prog Sample.settings)
      Sample.sweeps) ∧ ∀ (eventId ticketTypeId : UUID) (quantity : ℤ), 0 < quantity →
      KeepsChecks (reserveTicketQuantity eventId ticketTypeId quantity) ∧
      KeepsChecks (releaseReservedQuantity ticketTypeId quantity) ∧
      KeepsChecks (confirmReservedQuantity ticketTypeId quantity) ∧
      ∀ uuid4, 0 < (QuantityReservationService.newItem ticketTypeId quantity uuid4).quantity :=
  inventory_sound Sample.inventory_inventory (run_after (by decide))

end TicketReservation
