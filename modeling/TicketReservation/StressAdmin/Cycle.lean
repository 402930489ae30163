/-
  A stress test from `seed` to `reset`.

  The test runs against the event that `seed` has inserted: it reserves its
  tickets and seats, confirms, cancels and expires, in any interleaving.  What
  `reset` then leaves is what it would have left before `seed`: the same database
  if the pattern of `reset` matches none of its events.

  * `seed_ok`: what a `seed` that succeeds has inserted;
  * `reset_restores`: the cycle.
-/
import Mathlib
import TicketReservation.EventCalls
import TicketReservation.StressAdmin.Reset
import TicketReservation.Locality

namespace TicketReservation

open Txn

namespace StressAdminService

/-! ## What `seed` inserts -/

variable {settings : Settings} {d d' d₁ : Database} {now : Instant} {uuid4 : ℕ → UUID}

/-- The database with the stress data of `seed`. -/
def seeded (d : Database) (now : Instant) (uuid4 : ℕ → UUID) : Database :=
  { d with
    events := d.events ++ [stressEvent now uuid4]
    ticketTypes := d.ticketTypes ++ [stressTicketType uuid4]
    seats := d.seats ++ stressSeats uuid4 }

theorem run_insertSeats {rows : List Seat} {σ : Session} : (insertSeats rows).run d σ =
    if ∀ row ∈ rows, row.Encodable then
      if FitAll rows (σ.view d) then
        (.ok (), d, ⟨σ.writes ++ rows.map .insertSeat, σ.locks ++ rows.map fun row => .seat row.id⟩)
      else (.error .integrityError, d, ∅)
    else (.error .dataError, d, ∅) := by
  rw [insertSeats, run_flushEncoded, run_insertEachSeat]

theorem view_seeded : (⟨[.insertEvent (stressEvent now uuid4),
    .insertTicketType (stressTicketType uuid4)] ++ (stressSeats uuid4).map .insertSeat, []⟩ :
      Session).view d = seeded d now uuid4 := by
  rw [Session.view_append _ _ [] []]
  exact view_insertSeats _ _ _

/-- **What `seed` inserts when it succeeds.** -/
theorem seed_ok {a : StressSeedResponse} (h : (seed now uuid4).alone d = (.ok a, d₁)) :
    a.eventId = uuid4 0 ∧ (∀ e ∈ d.events, e.id ≠ uuid4 0) ∧ d₁ = seeded d now uuid4 := by
  obtain ⟨σ, h⟩ := Prog.alone_eq_ok h
  obtain ⟨_, d₂, σ₂, h₂, h⟩ := Prog.run_bind_eq_ok h
  rw [run_insertEvent, Session.view_empty] at h₂
  split_ifs at h₂ with hname hevent <;> cases h₂
  obtain ⟨_, d₃, σ₃, h₃, h⟩ := Prog.run_bind_eq_ok h
  rw [run_insertTicketType] at h₃
  split_ifs at h₃ with henc hticketType <;> cases h₃
  obtain ⟨_, d₄, σ₄, h₄, h⟩ := Prog.run_bind_eq_ok h
  rw [run_insertSeats] at h₄
  split_ifs at h₄ with hpos hseats <;> cases h₄
  cases h
  exact ⟨rfl, hevent.id, view_seeded⟩

/-- The new rows are those of the event `u`. -/
theorem filter_new {α : Type} {key : α → UUID} {rows rows' : List α} {u : UUID}
    (h : ∀ a ∈ rows, key a ≠ u) (h' : ∀ a ∈ rows', key a = u) :
    ((rows ++ rows').filter fun a => key a ∉ [u]) = rows := by
  rw [List.filter_append, List.filter_eq_self.2 fun a ha => by simpa using h a ha,
    List.filter_eq_nil_iff.2 fun a ha => by simpa using h' a ha, List.append_nil]

theorem eventId_stressSeats : ∀ c ∈ stressSeats uuid4, c.eventId = uuid4 0 := by
  simp only [stressSeats, List.mem_flatMap, List.mem_map]
  rintro _ ⟨_, -, _, -, rfl⟩
  rfl

/-- Without the event of `seed`. -/
theorem withoutEvents_seeded (h : Schema d) (hnew : ∀ e ∈ d.events, e.id ≠ uuid4 0) :
    (seeded d now uuid4).withoutEvents [uuid4 0] = d := by
  have hold : ∀ u, (∃ e ∈ d.events, e.id = u) → u ≠ uuid4 0 := by
    rintro _ ⟨e, he, rfl⟩
    exact hnew e he
  have hids : (seeded d now uuid4).reservationIdsOf [uuid4 0] = [] := by
    rw [Database.reservationIdsOf, List.map_eq_nil_iff, List.filter_eq_nil_iff]
    intro r hr hrid
    exact hold _ (h.reservationEvents r hr) (by simpa using hrid)
  simp only [Database.withoutEvents, hids]
  refine Database.ext rfl rfl ?_ ?_ ?_ ?_ ?_ ?_
  · exact filter_new hnew (by simp [stressEvent])
  · exact filter_new (fun t ht => hold _ (h.ticketTypeEvents t ht)) (by simp [stressTicketType])
  · exact filter_new (fun c hc => hold _ (h.seatEvents c hc)) eventId_stressSeats
  · exact List.filter_eq_self.2 fun r hr => by simpa using hold _ (h.reservationEvents r hr)
  · simp [seeded]
  · simp [seeded]

/-! ## With new ids, `seed` succeeds -/

def stressSeat (uuid4 : ℕ → UUID) (n : ℕ) : Seat :=
  { id := uuid4 (n + 3), eventId := uuid4 0, section_ := "A", rowName := toString (n / 10 + 1),
    seatNumber := toString (n % 10 + 1) }

theorem stressSeats_eq (uuid4 : ℕ → UUID) :
    stressSeats uuid4 = (List.range 100).map (stressSeat uuid4) := rfl

/-- The seats have different positions. -/
theorem nodup_position_stressSeats : ((stressSeats uuid4).map Seat.position).Nodup := by
  rw [stressSeats_eq, List.map_map]
  refine List.nodup_range.map fun n m h => ?_
  simp only [Function.comp_apply, stressSeat, Seat.position, Prod.mk.injEq, true_and] at h
  have hrow := Nat.repr_injective h.1
  have hseat := Nat.repr_injective h.2
  omega

/-- The ids that `seed` draws are new. -/
structure NewIds (d : Database) (uuid4 : ℕ → UUID) : Prop where
  event : ∀ e ∈ d.events, e.id ≠ uuid4 0
  ticketType : ∀ t ∈ d.ticketTypes, t.id ≠ uuid4 2
  seats : ((d.seats ++ stressSeats uuid4).map Seat.id).Nodup

theorem varChar_name (u : UUID) : VarChar 255 (stressEventPrefix ++ hex u) := by
  have hlength : (stressEventPrefix ++ hex u).length ≤ 255 := by
    rw [String.length_append, hex, String.length_ofList, List.length_map, List.length_range]
    decide
  refine ⟨hlength, ?_⟩
  have hdigit : ∀ n < 16, Char.ofNat 0 ≠ Nat.digitChar n := by decide
  have hhex : Char.ofNat 0 ∉ (hex u).toList := by
    rw [hex, String.toList_ofList, List.mem_map]
    rintro ⟨k, -, hk⟩
    exact hdigit _ (Nat.mod_lt _ (by norm_num)) hk.symm
  rw [Storable, String.toList_append, List.mem_append, not_or]
  exact ⟨by decide, hhex⟩

theorem encodable_stressSeats : ∀ row ∈ stressSeats uuid4, row.Encodable := by
  have hten : ∀ n < 10, VarChar 50 (toString (n + 1)) := by decide
  rw [stressSeats_eq]
  intro row hrow
  obtain ⟨n, hn, rfl⟩ := List.mem_map.1 hrow
  have hn := List.mem_range.1 hn
  exact ⟨(by decide : VarChar 100 "A"), hten _ (by omega), hten _ (by omega)⟩

/-- **`seed` succeeds when its ids are new**, in the years that a `TIMESTAMPTZ` holds. -/
theorem alone_seed (h : Schema d) (hn : NewIds d uuid4)
    (ht : Timestamptz (now + 24 * hour) ∧ Timestamptz (now + 24 * hour + 3 * hour)) :
    (seed now uuid4).alone d =
    (.ok ⟨uuid4 0, uuid4 2, (stressSeats uuid4).map Seat.id⟩, seeded d now uuid4) := by
  have hevent : (stressEvent now uuid4).Fits d := ⟨hn.event⟩
  have henc : VarChar 255 "General Admission" ∧ Int32 1000 := by decide
  have hticketType : (stressTicketType uuid4).Fits (d.apply (.insertEvent (stressEvent now uuid4))) :=
    ⟨hn.ticketType, ⟨_, List.mem_append_right _ (List.mem_singleton_self _), rfl⟩,
      (by decide : (0 : ℤ) ≤ 1000), le_refl (0 : ℤ), le_refl (0 : ℤ), (by decide : (0 + 0 : ℤ) ≤ 1000)⟩
  have hseats : FitAll (stressSeats uuid4) ((d.apply (.insertEvent (stressEvent now uuid4))).apply
      (.insertTicketType (stressTicketType uuid4))) := by
    refine (fitAll_iff (d := (d.apply (.insertEvent (stressEvent now uuid4))).apply
      (.insertTicketType (stressTicketType uuid4))) h.seatPositions hn.seats fun c hc => ?_).2 ?_
    · exact ⟨_, List.mem_append_right _ (List.mem_singleton_self _), (eventId_stressSeats c hc).symm⟩
    · refine Table.nodup_append_key h.seatPositions nodup_position_stressSeats fun c hc c' hc' heq => ?_
      obtain ⟨e, he, hid⟩ := h.seatEvents c hc
      exact hn.event e he (hid.trans ((congrArg Prod.fst heq).trans (eventId_stressSeats c' hc')))
  have hinsertEvent : (insertEvent (stressEvent now uuid4)).run d ∅ =
      (.ok (), d, ⟨[.insertEvent (stressEvent now uuid4)], []⟩) := by
    rw [run_insertEvent, if_pos (by exact ⟨varChar_name (uuid4 1), ht⟩),
      if_pos (by exact hevent)]
    rfl
  have hinsertTicketType : (insertTicketType (stressTicketType uuid4)).run d
      ⟨[.insertEvent (stressEvent now uuid4)], []⟩ = (.ok (), d,
        ⟨[.insertEvent (stressEvent now uuid4), .insertTicketType (stressTicketType uuid4)],
          [.ticketType (uuid4 2)]⟩) := by
    rw [run_insertTicketType, if_pos (by exact henc), if_pos (by exact hticketType)]
    rfl
  rw [Prog.alone, seed, Prog.bind_eq, Prog.run_bind_ok hinsertEvent, Prog.bind_eq,
    Prog.run_bind_ok hinsertTicketType, Prog.bind_eq, Prog.run_bind, run_insertSeats,
    if_pos encodable_stressSeats, if_pos (by exact hseats)]
  exact Prod.ext rfl view_seeded

/-! ## The cycle -/

theorem isStressEvent_stressEvent : isStressEvent (stressEvent now uuid4) := by
  rw [isStressEvent_iff]
  exact Or.inl (decide_eq_true ⟨(hex (uuid4 1)).toList, by simp [stressEvent]⟩)

theorem events_leads (h : protocol.Leads d d') : d'.events = d.events := by
  induction h with
  | refl => rfl
  | tail _ h ih => exact (Effect.events h.choose_spec).trans ih

theorem filter_filter {α : Type} {key : α → UUID} {rows : List α} {old old' new : List UUID}
    (h : ∀ u, (u ∉ old' ∧ u ∉ old) ↔ u ∉ new) :
    ((rows.filter fun a => key a ∉ old).filter fun a => key a ∉ old') =
      rows.filter fun a => key a ∉ new := by
  simp only [List.filter_filter, ← Bool.decide_and, h]

/-- Events can be taken away one after another. -/
theorem withoutEvents_withoutEvents (d : Database) (ids ids' : List UUID) :
    (d.withoutEvents ids).withoutEvents ids' = d.withoutEvents (ids' ++ ids) := by
  have hids : ∀ u, (u ∉ (d.withoutEvents ids).reservationIdsOf ids' ∧ u ∉ d.reservationIdsOf ids) ↔
      u ∉ d.reservationIdsOf (ids' ++ ids) := by
    intro u
    rw [← not_or, not_iff_not, mem_reservationIdsOf, mem_reservationIdsOf, mem_reservationIdsOf]
    constructor
    · rintro (⟨r, hr, hid, rfl⟩ | ⟨r, hr, hid, rfl⟩)
      · exact ⟨r, List.mem_of_mem_filter hr, List.mem_append_left _ hid, rfl⟩
      · exact ⟨r, hr, List.mem_append_right _ hid, rfl⟩
    · rintro ⟨r, hr, hid, rfl⟩
      by_cases hin : r.eventId ∈ ids
      · exact Or.inr ⟨r, hr, hin, rfl⟩
      · exact Or.inl ⟨r, List.mem_filter.2 ⟨hr, decide_eq_true hin⟩,
          (List.mem_append.1 hid).resolve_right hin, rfl⟩
  have hout : ∀ u, (u ∉ ids' ∧ u ∉ ids) ↔ u ∉ ids' ++ ids := fun u => by simp
  exact Database.ext rfl rfl (filter_filter hout) (filter_filter hout) (filter_filter hout)
    (filter_filter hout) (filter_filter hids) (filter_filter hids)

theorem withoutEvents_nil (d : Database) : d.withoutEvents [] = d := by
  simp [Database.withoutEvents, Database.reservationIdsOf]

/-- With no event of the pattern there is nothing to do. -/
theorem alone_reset_none (h : Inv d) (hno : ∀ e ∈ d.events, ¬ isStressEvent e) :
    reset.alone d = (.ok 0, d) := by
  have hnone : d.events.filter isStressEvent = [] := List.filter_eq_nil_iff.2 hno
  rw [alone_reset h, stressEventIds, hnone, List.map_nil, withoutEvents_nil]
  rfl

/-- **After a stress test, `reset` leaves what it would have left before it**, and counts one event
    more.  If it would have found no event, the database is restored. -/
theorem reset_restores {a : StressSeedResponse} {cfg : ServiceConfig} (h : Served settings d)
    (hseed : (seed now uuid4).alone d = (.ok a, d₁))
    (r : ServiceRun settings (start d₁) cfg) (hw : AllWithin [a.eventId] (start d₁) cfg) :
    reset.alone cfg.db = ((reset.alone d).1.map (· + 1), (reset.alone d).2) ∧
    ((∀ e ∈ d.events, ¬ isStressEvent e) → reset.alone cfg.db = (.ok 1, d)) := by
  obtain ⟨ha, hnew, rfl⟩ := seed_ok hseed
  have hi : Inv (seeded d now uuid4) := by
    have := (Served.seed now uuid4 h).inv
    rwa [hseed] at this
  have hevents : cfg.db.events = d.events ++ [stressEvent now uuid4] := events_leads
    (System.leads_run (S := system settings) ⟨[], System.tracks_init hi⟩ r)
  have hstress : cfg.db.events.filter isStressEvent =
      d.events.filter isStressEvent ++ [stressEvent now uuid4] := by
    rw [hevents, List.filter_append]
    simp [isStressEvent_stressEvent]
  have hids : stressEventIds cfg.db = stressEventIds d ++ [a.eventId] := by
    rw [stressEventIds, hstress, List.map_append, ha]
    rfl
  have hrun := hw.run ⟨[], System.tracks_init hi⟩ r
  have hcycle : reset.alone cfg.db = ((reset.alone d).1.map (· + 1), (reset.alone d).2) := by
    rw [alone_reset (ServiceRun.inv hi r), alone_reset h.inv, hids, hstress,
      ← withoutEvents_withoutEvents, hrun, ha, withoutEvents_seeded h.inv.toSchema hnew]
    simp [Except.map]
  refine ⟨hcycle, fun hno => ?_⟩
  rw [hcycle, alone_reset_none h.inv hno]
  rfl

end StressAdminService

namespace Sample

/-- The inventory with the stress data, whose event is 1000. -/
def stressData : Database := StressAdminService.seeded inventory 5 (uuid4 1000)

theorem seed_stressData : (StressAdminService.seed 5 (uuid4 1000)).alone inventory =
    (.ok ⟨1000, 1002, (StressAdminService.stressSeats (uuid4 1000)).map Seat.id⟩, stressData) :=
  StressAdminService.alone_seed inventory_inventory.inv.toSchema
    ⟨by decide, by decide, by decide +kernel⟩ (by decide)

def stressTickets : QuantityReservationCreate :=
  { twoTickets with eventId := 1000, ticketTypeId := 1002 }

/-- Alice buys tickets of the stress data. -/
def stressTest : ServiceConfig := (start stressData).after (Call.prog Sample.settings)
  (alone 0 6 (.reserveQuantity alice stressTickets (uuid4 100) 5) ++
    alone 1 9 (.confirm 100 alice 6))

theorem stressTest_within : AllWithin [1000] (start stressData) stressTest := by
  have hcalls : stressTest.threads.map Thread.call =
    [.reserveQuantity alice stressTickets (uuid4 100) 5, .confirm 100 alice 6] := rfl
  intro i t ht _
  have hmem := List.mem_map_of_mem (f := Thread.call) (List.mem_of_getElem? ht)
  rw [hcalls] at hmem
  simp only [List.mem_cons, List.not_mem_nil, or_false] at hmem
  rcases hmem with h | h <;> rw [h]
  · exact List.mem_cons_self
  · exact fun r hr => absurd hr List.not_mem_nil

end Sample

theorem StressAdminService.reset_restores_stressTest :
    Sample.stressTest.db.reservations.length = 1 ∧
    StressAdminService.reset.alone Sample.stressTest.db = (.ok 1, Sample.inventory) := by
  have hcycle := StressAdminService.reset_restores Sample.inventory_inventory.served
    Sample.seed_stressData (run_after (by decide +kernel)) Sample.stressTest_within
  exact ⟨by decide +kernel, hcycle.2 (by decide)⟩

end TicketReservation
