/-
  Concurrent requests for one ticket type.

  Requests with new keys for units of one ticket type run together and nothing
  else does.  Their run takes effect like a serial one (`Tracks.serializable`),
  and one after another they are admitted greedily (`Call.Asks.step`): the free
  units shrink by what is accepted, and a request that is turned away asked for
  more than is left then, hence for more than is left in the end.  A key that
  cannot be stored is turned away before anything is counted.

  * `quantity_admission`: what is accepted, what is left, who is turned away, if
    the keys can be stored;
  * `quantity_inexact`: what goes wrong with a key that contains U+0000.
-/
import TicketReservation.Conflicts

namespace TicketReservation

open Txn

/-! ## Requests -/

/-- The units that are neither sold nor reserved. -/
def TicketType.free (t : TicketType) : ℤ := t.totalQuantity - t.soldQuantity - t.reservedQuantity

/-- What a quantity request asks for. -/
def Call.quantity : Call → ℤ
  | .reserveQuantity _ payload _ _ => payload.quantity
  | _ => 0

def Call.StorableKey : Call → Prop
  | .reserveQuantity _ payload _ _ => Storable payload.idempotencyKey
  | _ => True

/-- The call asks for units of the ticket type `t`, with a key that is not used and new ids. -/
def Call.Asks (d : Database) (t : TicketType) : Call → Prop
  | .reserveQuantity visitorSession payload uuid4 _ =>
    visitorSession ∈ d.visitorSessions ∧ payload.eventId = t.eventId ∧
      payload.ticketTypeId = t.id ∧
      (∀ kind, ¬ d.KeyUsed visitorSession.id payload.idempotencyKey kind) ∧ FreshIds d uuid4
  | _ => False

/-- The requests have different keys and draw different ids. -/
def Call.Apart : Call → Call → Prop
  | .reserveQuantity visitorSession payload uuid4 _,
    .reserveQuantity visitorSession' payload' uuid4' _ =>
    (visitorSession.id, payload.idempotencyKey) ≠ (visitorSession'.id, payload'.idempotencyKey) ∧
      ∀ m n, uuid4 m ≠ uuid4' n
  | _, _ => True

theorem Call.Apart.symm {c c' : Call} (h : c.Apart c') : c'.Apart c := by
  cases c <;> cases c' <;> first
    | trivial
    | exact ⟨h.1.symm, fun m n => (h.2 n m).symm⟩

/-- The units that an answer grants. -/
def granted (a : Call × Except Error Response) : ℤ :=
  match a.2 with
  | .ok _ => a.1.quantity
  | .error _ => 0

theorem granted_nonneg (a : Call × Except Error Response) : 0 ≤ granted a := by
  obtain ⟨c, e | b⟩ := a
  · exact le_rfl
  · cases c with
    | reserveQuantity v p uuid4 now => exact p.quantity_pos.le
    | reserveSeats | get | cancel | confirm | expireBatch => exact le_rfl

section
variable {settings : Settings} {d d' : Database} {t : TicketType} {c : Call}
  {r : Except Error Response}

/-- A request still asks when another one has been granted. -/
theorem Call.Asks.addQuantity {c' : Call} {x : Reservation} {i : ReservationItem}
    (h : c'.Asks d t) (hx : ∀ v p uuid4 now, c' = .reserveQuantity v p uuid4 now →
      (x.visitorSessionId, x.idempotencyKey) ≠ (v.id, p.idempotencyKey) ∧
        (∀ n, x.id ≠ uuid4 n) ∧ ∀ n, i.id ≠ uuid4 n) (Δ : ℤ) :
    c'.Asks (d.addQuantity x i) (t.add Δ 0) := by
  cases c' with
  | reserveQuantity v p uuid4 now =>
    obtain ⟨hv, he, ht, hkey, hids⟩ := h
    obtain ⟨hne, hxid, hiid⟩ := hx v p uuid4 now rfl
    refine ⟨hv, he, ht, fun kind hused => ?_, hids.injective, fun r hr n => ?_, fun j hj n => ?_,
      hids.seat⟩
    · obtain ⟨r, hr, h1, h2, h3⟩ := hused
      rcases List.mem_append.1 hr with hr | hr
      · exact hkey kind ⟨r, hr, h1, h2, h3⟩
      · obtain rfl := List.mem_singleton.1 hr
        exact hne (by rw [h1, h2])
    · rcases List.mem_append.1 hr with hr | hr
      · exact hids.reservation r hr n
      · rw [List.mem_singleton.1 hr]
        exact hxid n
    · rcases List.mem_append.1 hj with hj | hj
      · exact hids.item j hj n
      · rw [List.mem_singleton.1 hj]
        exact hiid n
  | reserveSeats | get | cancel | confirm | expireBatch => exact h.elim

/-- **One request after the others**: it is granted what it asks for, or turned away because less is
    free. -/
theorem Call.Asks.step (hd : Inv d) (ht : t ∈ d.ticketTypes) (hc : c.Asks d t)
    (h : c.spec settings d r d') :
    (∃ a, r = .ok a ∧ Inv d' ∧ t.add c.quantity 0 ∈ d'.ticketTypes ∧
      ∀ c', c'.Asks d t → c.Apart c' → c'.Asks d' (t.add c.quantity 0)) ∨
    (∃ e, r = .error e ∧ d' = d ∧ (c.StorableKey → t.free < c.quantity)) := by
  cases c with
  | reserveSeats | get | cancel | confirm | expireBatch => exact hc.elim
  | reserveQuantity v p uuid4 now =>
    obtain ⟨hv, he, htid, hkey, hids⟩ := hc
    obtain ⟨rfl, rfl⟩ := (Call.spec_reserveQuantity hd).1 h
    simp only [Call.StorableKey, Call.quantity]
    by_cases hk : Storable p.idempotencyKey
    · by_cases hint : Int32 p.quantity
      · by_cases hstock : d.Stock p.eventId p.ticketTypeId p.quantity
        · rw [(QuantityReservationService.reserveOutcome_fresh hd hv hids hk hkey p.quantity_pos
            hint).1 hstock]
          refine Or.inl ⟨_, rfl, hd.addQuantity ?_, ?_, fun c' hc' hap => hc'.addQuantity ?_ _⟩
          · exact (QuantityReservationService.canReserve_iff_key hd hv hids hk p.quantity_pos).2
              ⟨hstock, hkey .quantity, hkey .seats⟩
          · exact List.mem_map.2 ⟨t, ht, if_pos htid.symm⟩
          · rintro v' p' uuid4' now' rfl
            exact ⟨hap.1, hap.2 0, hap.2 1⟩
        · rw [(QuantityReservationService.reserveOutcome_fresh hd hv hids hk hkey p.quantity_pos
            hint).2 hstock]
          refine Or.inr ⟨_, rfl, rfl, fun _ => not_le.1 fun hle => hstock ?_⟩
          exact ⟨t, ht, htid.symm, he.symm, hle⟩
      · have hl := (quantityLookup_eq_none hd).2 ⟨hk, hkey .quantity⟩
        rw [QuantityReservationService.reserveOutcome, hl]
        simp only [if_pos hint]
        refine Or.inr ⟨_, rfl, trivial, fun _ => ?_⟩
        have hc := hd.ticketTypeChecks t ht
        have h1 := hd.ticketTypeInts t ht
        have h2 := hc.sold
        have h3 := hc.reserved
        have h4 := p.quantity_pos
        unfold TicketType.free
        by_contra hle
        exact hint ⟨by omega, by omega⟩
    · rw [QuantityReservationService.reserveOutcome_unstorable hk]
      exact Or.inr ⟨_, rfl, rfl, fun h => absurd h hk⟩

theorem Call.Asks.quantity_pos (h : c.Asks d t) : 0 < c.quantity := by
  cases c with
  | reserveQuantity v p uuid4 now => exact p.quantity_pos
  | reserveSeats | get | cancel | confirm | expireBatch => exact h.elim

/-- **Requests one after another.** -/
theorem admission_serial {order : List (Call × Except Error Response)}
    (h : Serial (Call.spec settings) d order d') (hd : Inv d) (ht : t ∈ d.ticketTypes)
    (hasks : ∀ a ∈ order, a.1.Asks d t) (hapart : order.Pairwise fun a b => a.1.Apart b.1)
    (hkeys : ∀ a ∈ order, a.1.StorableKey ∨ t.free < a.1.quantity) :
    ∃ t' ∈ d'.ticketTypes, t'.id = t.id ∧ t'.free = t.free - (order.map granted).sum ∧
      ∀ a ∈ order, ∀ e, a.2 = .error e → t'.free < a.1.quantity := by
  induction h generalizing t with
  | nil => exact ⟨t, ht, rfl, by simp, by simp⟩
  | @cons c r d d₁ d' l hspec hrest ih =>
    rw [List.pairwise_cons] at hapart
    have hc := hasks _ List.mem_cons_self
    have hl : ∀ a ∈ l, a.1.Asks d t := fun a ha => hasks a (List.mem_cons_of_mem _ ha)
    have hk : ∀ a ∈ l, a.1.StorableKey ∨ t.free < a.1.quantity := fun a ha =>
      hkeys a (List.mem_cons_of_mem _ ha)
    rcases hc.step hd ht hspec with ⟨b, rfl, hd₁, ht₁, hmore⟩ | ⟨e, rfl, rfl, hless⟩
    · have hadd : (t.add c.quantity 0).free = t.free - c.quantity := by
        simp only [TicketType.free, TicketType.add]
        omega
      -- less is free now, so what was too much before is still too much
      have hk₁ : ∀ a ∈ l, a.1.StorableKey ∨ (t.add c.quantity 0).free < a.1.quantity :=
        fun a ha => (hk a ha).imp_right fun h => by
          have hpos : 0 < c.quantity := hc.quantity_pos
          omega
      obtain ⟨t', ht', hid, hfree, hno⟩ := ih hd₁ ht₁
        (fun a ha => hmore _ (hl a ha) (hapart.1 a ha)) hapart.2 hk₁
      refine ⟨t', ht', hid, ?_, List.forall_mem_cons.2 ⟨?_, hno⟩⟩
      · rw [hfree, List.map_cons, List.sum_cons, hadd]
        simp only [granted]
        omega
      · intro e he
        cases he
    · obtain ⟨t', ht', hid, hfree, hno⟩ := ih hd ht hl hapart.2 hk
      have hpos : 0 ≤ (l.map granted).sum :=
        Table.sum_nonneg fun a _ => granted_nonneg a
      have hmore : t.free < c.quantity := (hkeys _ List.mem_cons_self).elim hless id
      refine ⟨t', ht', hid, ?_, List.forall_mem_cons.2 ⟨fun _ _ => ?_, hno⟩⟩
      · rw [hfree, List.map_cons, List.sum_cons]
        simp [granted]
      · show t'.free < c.quantity
        omega

end

/-! ## Every interleaving -/

/-- Only requests for units of `t` have arrived, with different keys and ids. -/
structure QuantityRace (d : Database) (t : TicketType) (cfg : ServiceConfig) : Prop where
  asks : ∀ s ∈ cfg.threads, s.call.Asks d t
  apart : cfg.threads.Pairwise fun s s' => s.call.Apart s'.call

/-- A success. -/
def accepted (a : Call × Except Error Response) : Bool := a.2.isOk

/-- **Quantity admission is exact.** -/
structure ExactAdmission (t : TicketType) (answers : List (Call × Except Error Response))
    (t' : TicketType) : Prop where
  free : t'.free = t.free - (answers.map granted).sum
  nonneg : 0 ≤ t'.free
  /-- who is turned away asked for more than is left -/
  rejected : ∀ a ∈ answers, ∀ e, a.2 = .error e → t'.free < a.1.quantity
  /-- single tickets are sold out or given to everybody -/
  single : (∀ a ∈ answers, a.1.quantity = 1) →
    ((answers.countP accepted : ℕ) : ℤ) = min (answers.length : ℤ) t.free

theorem sum_granted {answers : List (Call × Except Error Response)}
    (h : ∀ a ∈ answers, a.1.quantity = 1) :
    (answers.map granted).sum = (answers.countP accepted : ℕ) := by
  induction answers with
  | nil => rfl
  | cons a l ih =>
    obtain ⟨hq, hl⟩ := List.forall_mem_cons.1 h
    rw [List.map_cons, List.sum_cons, ih hl, List.countP_cons]
    obtain ⟨c, e | b⟩ := a
    · simp [granted, accepted, Except.isOk, Except.toBool]
    · simp only [granted, accepted, Except.isOk, Except.toBool] at hq ⊢
      rw [hq]
      push_cast
      omega

/-- Single tickets: everybody gets one, or somebody does not and nothing is left. -/
theorem countP_accepted {t t' : TicketType} {answers : List (Call × Except Error Response)}
    (hfree : t'.free = t.free - (answers.map granted).sum) (hnonneg : 0 ≤ t'.free)
    (hno : ∀ a ∈ answers, ∀ e, a.2 = .error e → t'.free < a.1.quantity)
    (hone : ∀ a ∈ answers, a.1.quantity = 1) :
    ((answers.countP accepted : ℕ) : ℤ) = min (answers.length : ℤ) t.free := by
  rw [sum_granted hone] at hfree
  have hle : answers.countP accepted ≤ answers.length := List.countP_le_length
  by_cases hall : ∀ a ∈ answers, accepted a
  · have hge : answers.countP accepted = answers.length := List.countP_eq_length.2 hall
    omega
  · push Not at hall
    obtain ⟨⟨c, e | b⟩, ha, hrej⟩ := hall
    · have := hno _ ha e rfl
      rw [hone _ ha] at this
      omega
    · exact absurd rfl hrej

/-- **Concurrent requests for a ticket type are admitted exactly**, if each has a key that can be
    stored or asks for more than is free. -/
theorem quantity_admission {settings : Settings} {d : Database} {t : TicketType} {cfg : ServiceConfig}
    (h : Reachable settings d) (ht : t ∈ d.ticketTypes) (r : ServiceRun settings (start d) cfg)
    (hf : cfg.Finished) (hrace : QuantityRace d t cfg)
    (hkeys : ∀ s ∈ cfg.threads, s.call.StorableKey ∨ t.free < s.call.quantity) :
    ∃ t' ∈ cfg.db.ticketTypes, t'.id = t.id ∧ ExactAdmission t cfg.answers t' := by
  obtain ⟨l, hl⟩ := System.tracks_run (S := system settings) h.inv r
  have hd' : Inv cfg.db := hl.inv
  obtain ⟨order, hperm, hserial⟩ := hl.serializable hf
  have hmem : ∀ a ∈ order, ∃ s ∈ cfg.threads, s.answer = some a := fun a ha =>
    List.mem_filterMap.1 (hperm.mem_iff.1 ha)
  have hcall : ∀ {s : Thread Call Database Write Lock Error Response} {a}, s.answer = some a →
      s.call = a.1 := by
    rintro s ⟨c, r⟩ hs
    exact (Thread.answer_eq_some.1 hs).2
  have hasks : ∀ a ∈ order, a.1.Asks d t ∧ (a.1.StorableKey ∨ t.free < a.1.quantity) := by
    intro a ha
    obtain ⟨s, hs, hans⟩ := hmem a ha
    rw [← hcall hans]
    exact ⟨hrace.asks s hs, hkeys s hs⟩
  have hapart : order.Pairwise fun a b => a.1.Apart b.1 := by
    refine (hperm.pairwise_iff fun h => h.symm).2 ?_
    refine List.Pairwise.filterMap _ (fun s s' hap a ha b hb => ?_) hrace.apart
    rw [← hcall ha, ← hcall hb]
    exact hap
  obtain ⟨t', ht', hid, hfree, hno⟩ := admission_serial hserial h.inv ht
    (fun a ha => (hasks a ha).1) hapart fun a ha => (hasks a ha).2
  have hnonneg : 0 ≤ t'.free := by
    have := (hd'.ticketTypeChecks t' ht').allocated
    unfold TicketType.free
    omega
  rw [(hperm.map granted).sum_eq] at hfree
  have hno : ∀ a ∈ cfg.answers, ∀ e, a.2 = .error e → t'.free < a.1.quantity :=
    fun a ha => hno a (hperm.mem_iff.2 ha)
  exact ⟨t', ht', hid, hfree, hnonneg, hno, countP_accepted hfree hnonneg hno⟩

namespace Sample

def evenIds (n : ℕ) : UUID := 100 + 2 * n

def oddIds (n : ℕ) : UUID := 101 + 2 * n

/-- Two requests for four of the five tickets, statement by statement in turn. -/
def contends : List (Action Call) :=
  [.arrive (.reserveQuantity alice fourTickets evenIds 5),
    .arrive (.reserveQuantity bob fourTickets oddIds 6)] ++
  [0, 1, 0, 0, 0, 0, 1, 0, 1, 1, 1, 1].map .step

/-- The ticket type before anybody asks. -/
def unsold : TicketType := ⟨20, 10, "General", 5, 0, 0⟩

/-- Alice asks with a key that is one U+0000, while Bob takes two tickets. -/
def slips : List (Action Call) :=
  [.arrive (.reserveQuantity bob twoTickets evenIds 5),
    .arrive (.reserveQuantity alice nulTickets oddIds 6)] ++
  [0, 1, 0, 0, 0, 0, 0, 1].map .step

theorem race {p p' : QuantityReservationCreate} {v v' : VisitorSession} {now now' : Instant}
    {cfg : ServiceConfig} (hcalls : cfg.threads.map Thread.call =
      [.reserveQuantity v p evenIds now, .reserveQuantity v' p' oddIds now'])
    (hv : v ∈ inventory.visitorSessions ∧ v' ∈ inventory.visitorSessions) (hne : v.id ≠ v'.id)
    (hp : p.eventId = 10 ∧ p.ticketTypeId = 20) (hp' : p'.eventId = 10 ∧ p'.ticketTypeId = 20) :
    QuantityRace inventory unsold cfg := by
  have hfree : ∀ {u k kind}, ¬ inventory.KeyUsed u k kind := by
    rintro u k kind ⟨r, hr, -⟩
    cases hr
  have hids : ∀ {uuid4 : ℕ → UUID}, Function.Injective uuid4 → FreshIds inventory uuid4 := by
    intro uuid4 hinj
    refine ⟨hinj, ?_, ?_, ?_⟩ <;>
    · intro r hr
      cases hr
  have heven : Function.Injective evenIds := by
    intro m n h
    have h : 100 + 2 * m = 100 + 2 * n := h
    omega
  have hodd : Function.Injective oddIds := by
    intro m n h
    have h : 101 + 2 * m = 101 + 2 * n := h
    omega
  constructor
  · intro s hs
    have hmem := List.mem_map_of_mem (f := Thread.call) hs
    rw [hcalls] at hmem
    rcases List.mem_cons.1 hmem with h | h
    · rw [h]
      exact ⟨hv.1, hp.1, hp.2, fun _ => hfree, hids heven⟩
    · rw [List.mem_singleton.1 h]
      exact ⟨hv.2, hp'.1, hp'.2, fun _ => hfree, hids hodd⟩
  · rw [← List.pairwise_map (R := Call.Apart), hcalls]
    refine List.pairwise_pair.2 ⟨fun h => hne (Prod.mk.inj h).1, fun m n h => ?_⟩
    have h : 100 + 2 * m = 101 + 2 * n := h
    omega

/-- The keys of the two requests that contend can be stored. -/
theorem contends_keys : ∀ s ∈ ((start inventory).after (Call.prog settings) contends).threads,
    s.call.StorableKey ∨ unsold.free < s.call.quantity := by
  intro s hs
  have hmem := List.mem_map_of_mem (f := Thread.call) hs
  rcases List.mem_cons.1 hmem with h | h
  · exact .inl (h ▸ (by decide : Storable "k"))
  · exact .inl (List.mem_singleton.1 h ▸ (by decide : Storable "k"))

end Sample

theorem quantity_admission_contends :
    ∃ t' ∈ ((start Sample.inventory).after (Call.prog Sample.settings)
      Sample.contends).db.ticketTypes, t'.id = 20 ∧ ExactAdmission Sample.unsold
        ((start Sample.inventory).after (Call.prog Sample.settings) Sample.contends).answers t' :=
  quantity_admission Sample.inventory_inventory.reachable (by decide) (run_after (by decide))
    (by decide) (Sample.race rfl (by decide) (by decide) (by decide) (by decide))
    Sample.contends_keys

/-- Three tickets are left, and Alice is refused two. -/
theorem quantity_inexact :
    Reachable Sample.settings Sample.inventory ∧ Sample.unsold ∈ Sample.inventory.ticketTypes ∧
    ∃ cfg, ServiceRun Sample.settings (start Sample.inventory) cfg ∧ cfg.Finished ∧
      QuantityRace Sample.inventory Sample.unsold cfg ∧
      ∀ t' ∈ cfg.db.ticketTypes, ¬ ExactAdmission Sample.unsold cfg.answers t' := by
  refine ⟨Sample.inventory_inventory.reachable, by decide,
    (start Sample.inventory).after (Call.prog Sample.settings) Sample.slips, run_after (by decide),
    by decide, Sample.race rfl (by decide) (by decide) (by decide) (by decide), fun t' ht' h => ?_⟩
  obtain rfl := List.mem_singleton.1 ht'
  exact absurd (h.rejected (.reserveQuantity Sample.alice Sample.nulTickets Sample.oddIds 6,
    .error .dataError) (List.mem_cons_of_mem _ List.mem_cons_self) .dataError rfl) (by decide)

end TicketReservation
