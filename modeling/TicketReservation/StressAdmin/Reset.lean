/-
  What `StressAdminService.reset` deletes.

  The docstring promises to remove only the events of `seed`, those whose names
  begin with `STRESS_EVENT_PREFIX`.  The prefix has five underscores, and each
  is a wildcard of `LIKE`.

  * `isStressEvent_iff`: the pattern also matches the lookalikes, which have
    other characters in place of underscores;
  * `reset_iff`: `reset` deletes exactly the seeded events iff there is no
    lookalike.
-/
import TicketReservation.Served

namespace TicketReservation

open Txn

namespace StressAdminService

/-- The name begins with `stressEventPrefix`. -/
def isSeeded (e : Event) : Bool := decide (stressEventPrefix.toList <+: e.name.toList)

/-- The name agrees with `stressEventPrefix` but for some underscores. -/
def Lookalike (e : Event) : Prop :=
  ∃ t u, e.name.toList = t ++ u ∧ List.Forall₂ Sql.Covers stressEventPrefix.toList t ∧
    t ≠ stressEventPrefix.toList

/-- **What the pattern of `reset` matches.** -/
theorem isStressEvent_iff (e : Event) : isStressEvent e ↔ isSeeded e ∨ Lookalike e := by
  rw [isStressEvent, Sql.like_append_percent (by decide), isSeeded, decide_eq_true_iff]
  constructor
  · rintro ⟨t, u, hname, hcov⟩
    by_cases ht : t = stressEventPrefix.toList
    · exact Or.inl ⟨u, ht ▸ hname.symm⟩
    · exact Or.inr ⟨t, u, hname, hcov, ht⟩
  · rintro (⟨u, hname⟩ | ⟨t, u, hname, hcov, -⟩)
    · exact ⟨_, u, hname.symm, List.forall₂_same.2 fun c _ => Or.inr rfl⟩
    · exact ⟨t, u, hname, hcov⟩

theorem Lookalike.not_seeded {e : Event} (h : Lookalike e) : ¬ isSeeded e := by
  obtain ⟨t, u, hname, hcov, ht⟩ := h
  rw [isSeeded, decide_eq_true_iff, hname]
  intro hp
  have hlen := hcov.length_eq
  have hpre := List.prefix_of_prefix_length_le hp (List.prefix_append t u) hlen.le
  exact ht (hpre.eq_of_length hlen).symm

theorem lookalike_iff (e : Event) : Lookalike e ↔ isStressEvent e ∧ ¬ isSeeded e := by
  rw [isStressEvent_iff, or_and_right, and_not_self_iff, false_or]
  exact ⟨fun h => ⟨h, h.not_seeded⟩, And.left⟩

instance : DecidablePred Lookalike := fun e => decidable_of_iff' _ (lookalike_iff e)

end StressAdminService

namespace Sample

/-- An event with the prefix beside the inventory. -/
def stressed : Database :=
  ((EventService.createEvent "__stress_seed__:1" 0 1 11).alone inventory).2

theorem stressed_served : Served settings stressed :=
  .createEvent _ _ _ _ inventory_inventory.served

/-- Alice has reserved two tickets for an event that somebody named
    "A stress-seed 1: live". -/
def lookalike : Database :=
  ((start ((EventService.createTicketType 10 "General" 5 20).alone
    ((EventService.createEvent "A stress-seed 1: live" 0 1 10).alone
      { visitorSessions := [alice, bob] }).2).2).after (Call.prog settings)
    (alone 0 6 (.reserveQuantity alice twoTickets (uuid4 100) 5))).db

theorem lookalike_served : Served settings lookalike :=
  .run (.createTicketType _ _ _ _ (.createEvent _ _ _ _ (.sessions _ _ visitors_catalogue)))
    (run_after (by decide))

end Sample

namespace StressAdminService

variable {settings : Settings} {d : Database}

/-- The events that `reset` should delete. -/
def seededEvents (d : Database) : List Event := d.events.filter isSeeded

/-- **`reset` deletes exactly the seeded events**, with all that belongs to
    them, and counts them, iff no event is a lookalike. -/
theorem reset_iff (h : Served settings d) :
    reset.alone d = (.ok (seededEvents d).length, d.withoutEvents ((seededEvents d).map Event.id)) ↔
      ∀ e ∈ d.events, ¬ Lookalike e := by
  rw [alone_reset h.inv]
  constructor
  · intro heq e he hlook
    simp only [Prod.mk.injEq, Except.ok.injEq] at heq
    have hsub : (seededEvents d).Sublist (d.events.filter isStressEvent) :=
      List.monotone_filter_right _ fun e hs => (isStressEvent_iff e).2 (Or.inl hs)
    have hmem : e ∈ d.events.filter isStressEvent :=
      List.mem_filter.2 ⟨he, (isStressEvent_iff e).2 (Or.inr hlook)⟩
    rw [← hsub.eq_of_length heq.1.symm] at hmem
    exact hlook.not_seeded (List.mem_filter.1 hmem).2
  · intro hno
    have hfilter : d.events.filter isStressEvent = seededEvents d := by
      refine List.filter_congr fun e he => ?_
      rw [Bool.eq_iff_iff, isStressEvent_iff, or_iff_left (hno e he)]
    rw [stressEventIds, hfilter]

theorem reset_stressed : reset.alone Sample.stressed = (.ok 1, Sample.inventory) :=
  ((reset_iff Sample.stressed_served).2 (by decide)).trans (by decide)

/-- Her reservation goes although no event is seeded. -/
theorem reset_lookalike : Served Sample.settings Sample.lookalike ∧
    seededEvents Sample.lookalike = [] ∧ Sample.lookalike.reservations.length = 1 ∧
    reset.alone Sample.lookalike ≠ (.ok (seededEvents Sample.lookalike).length,
      Sample.lookalike.withoutEvents ((seededEvents Sample.lookalike).map Event.id)) ∧
    (reset.alone Sample.lookalike).2.reservations = [] :=
  ⟨Sample.lookalike_served, by decide, by decide, by decide, by decide⟩

end StressAdminService

end TicketReservation
