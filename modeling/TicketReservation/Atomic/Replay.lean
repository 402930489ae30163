/-
  `_resolve_conflict_or_replay`, for both services.

  A call that has lost a race rolls back and looks its key up again.  If it
  finds a reservation, the call takes effect there, as a replay.  If it finds
  none, then there was none either when the call lost (reservations do not
  disappear), so it takes effect at that moment, as a refusal.
-/
import TicketReservation.Atomic.Lifecycle

namespace TicketReservation

open Txn

/-- Is the key used by a reservation of the kind? -/
def Database.KeyUsed (d : Database) (u : UUID) (k : String) (kind : ReservationType) : Prop :=
  ∃ r ∈ d.reservations, r.visitorSessionId = u ∧ r.idempotencyKey = k ∧ r.reservationType = kind

theorem keeps_keyUsed {Λ : List Lock} {u : UUID} {k : String} (kind : ReservationType) :
    protocol.Keeps Λ fun d => d.KeyUsed u k kind :=
  keeps_reservation fun r r' hm h => by rwa [hm.same]

section
variable {ρ β : Type} {query : Database → Except Error (Option ρ)}
  {spec : Database → Except Error Response → Database → Prop} {conflict : Error}

/-- The look-up finds a reservation iff the key is used. -/
def Finds (query : Database → Except Error (Option ρ)) (u : UUID) (k : String)
    (kind : ReservationType) : Prop :=
  ∀ d, Inv d → (d.KeyUsed u k kind ∧ ∃ a, query d = .ok (some a)) ∨
    (¬ d.KeyUsed u k kind ∧ query d = .ok none)

theorem Finds.ok {u : UUID} {k : String} {kind : ReservationType} (h : Finds query u k kind)
    {d : Database} (hi : Inv d) : ∃ o, query d = .ok o := by
  rcases h d hi with ⟨-, a, ha⟩ | ⟨-, hn⟩
  · exact ⟨_, ha⟩
  · exact ⟨_, hn⟩

/-- A key stays used. -/
theorem Finds.keeps {u : UUID} {k : String} {kind : ReservationType} (h : Finds query u k kind) :
    protocol.Keeps [] fun d => query d ≠ .ok none := by
  intro Λ d d' hi hd hs hne
  have hused : d.KeyUsed u k kind := (h d hi).elim (fun h => h.1) fun h => absurd h.2 hne
  rcases h d' (Effect.inv hs hi) with ⟨-, a, ha⟩ | ⟨hn, -⟩
  · rw [ha]; simp
  · exact absurd (keeps_keyUsed kind hi hd hs hused) hn

/-- The call may refuse, or its key is used by now. -/
def Loses (spec : Database → Except Error Response → Database → Prop)
    (query : Database → Except Error (Option ρ)) (conflict : Error) (v : CallPoint) : Prop :=
  v.promise = none ∧ (Could spec (.error conflict) v ∨ query v.db ≠ .ok none)

theorem Loses.stable (hkeep : protocol.Keeps [] fun d => query d ≠ .ok none) :
    Stable (Loses spec query conflict) := by
  rintro v v' ⟨hp, hv⟩ hi
  refine ⟨hi.promise.trans hp, ?_⟩
  rcases hv with hv | hv
  · exact Or.inl (Could.stable _ v v' hv hi)
  · exact Or.inr (hkeep.interfere hi (List.nil_subset _) hv)

theorem Loses.of_refused {u : UUID} {k : String} {kind : ReservationType}
    (hf : Finds query u k kind) {v : CallPoint} (hp : v.promise = none)
    (h : query v.db = .ok none → spec v.db (.error conflict) v.db) : Loses spec query conflict v := by
  refine ⟨hp, ?_⟩
  rcases hf v.db v.inv with ⟨-, a, ha⟩ | ⟨-, hnone⟩
  · exact Or.inr (by simp [ha])
  · exact Or.inl (Could.here hp (h hnone))

/-- **One flushed `INSERT`**: it succeeds, or the call has lost. -/
theorem wp_flushInsert {fits : Database → Prop} [DecidablePred fits] {waits : Database → List Lock}
    {takes : List Lock} {write : Write} {σ : Session} {K : Database → Prop}
    {Q : Except Error Unit → CallPoint → Prop}
    (hkeep : protocol.Keeps [] fun d => query d ≠ .ok none) (hK : protocol.Keeps σ.locks K)
    (hok : ∀ v : CallPoint, v.At ⟨σ.writes ++ [write], σ.locks ++ takes⟩
      (fun d => K d ∧ fits (σ.view d)) → Q (.ok ()) v)
    (hbad : ∀ v : CallPoint, v.At σ K → ¬ fits (σ.view v.db) → Loses spec query conflict v)
    (hQ : ∀ v, Loses spec query conflict v → Q (.error .integrityError) v)
    {v : CallPoint} (hv : v.At σ K) : wp spec (flushInsert fits waits takes write) Q v := by
  refine wp_bind (wp_exec (Point.At.stable hK) (fun v hv => hv.promise) (fun v _ hv _ => ?_) hv)
  have hσ := hv.session
  simp only [Stmt.ofPlan, hσ]
  by_cases hf : fits (σ.view v.db)
  · simp only [hf, if_true]
    exact hok _ ⟨hv.promise, rfl, hv.known, hf⟩
  · simp only [hf, if_false]
    refine wp_bind (wp_exec (Loses.stable hkeep) (fun v hv => hv.1) (fun v _ hv _ => ?_)
      (hbad v hv hf))
    exact hQ (v.goto ∅) hv

/-- **A call that has lost replays or refuses.** -/
theorem wp_resolve {toResponse : ρ → β} {f : β → Response} {u : UUID} {k : String}
    {kind : ReservationType} (hfinds : Finds query u k kind)
    (hreplay : ∀ d a, Inv d → query d = .ok (some a) → spec d (.ok (f (toResponse a))) d)
    {v : CallPoint} (hv : Loses spec query conflict v) :
    wp spec (resolveConflictOrReplayBy (executeOrRaise fun d => { result := query d }) toResponse
      conflict) (fun r => Answers spec (r.map f)) v := by
  have hstable : Stable (Loses spec query conflict) := Loses.stable hfinds.keeps
  refine wp_bind (wp_exec hstable (fun v hv => hv.1) (fun v _ hv _ => ?_) hv)
  -- the second look-up is made in a fresh session
  refine wp_bind (wp_bind (wp_exec
    (A := fun v : CallPoint => Loses spec query conflict v ∧ v.session = ∅)
    (fun v v' hv hi => ⟨hstable v v' hv.1 hi, hi.session.trans hv.2⟩) (fun v hv => hv.1.1)
    (fun v _ hv _ => ?_) ⟨hv, rfl⟩))
  obtain ⟨⟨hp, hl⟩, hσ⟩ := hv
  simp only [Stmt.ofPlan, hσ, Session.view_empty]
  obtain ⟨o, ho⟩ := hfinds.ok v.inv
  rw [ho]
  cases o with
  | some a => exact Or.inr (Could.here hp (hreplay v.db a v.inv ho))
  | none =>
    refine wp_rollback ?_ (hl.resolve_right fun h => h ho)
    exact fun v hv => hv.answers

end

end TicketReservation
