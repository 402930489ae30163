/-
  What deadlocks are made of.

  A quantity request waits for its ticket type while it holds nothing; after
  that it could only wait for the (visitor, key) entry.  `cancel`, `confirm` and
  a worker want ticket types when they hold reservations; only a worker can
  want one while it holds another.  Seat requests lock in the order of
  `SeatRequest.Wants`.  So every deadlock contains two workers, or two requests
  with the same visitor and key.

  * `Blocked`: what a waiting call of any kind holds and wants;
  * `deadlock_pair`: every deadlock contains such a pair;
  * `orderly_ends`: calls without such a pair come to their end, whichever moves next.
-/
import TicketReservation.SeatDeadlock
import TicketReservation.FirstLock
import TicketReservation.Txn.Termination

namespace TicketReservation

open Txn

/-! ## Quantity requests -/

/-- What a quantity request asks for. -/
structure QuantityRequest where
  visitorSessionId : UUID
  idempotencyKey : String
  ticketTypeId : UUID
  uuid4 : ℕ → UUID

def Call.quantityRequest? : Call → Option QuantityRequest
  | .reserveQuantity visitorSession payload uuid4 _ =>
    some ⟨visitorSession.id, payload.idempotencyKey, payload.ticketTypeId, uuid4⟩
  | _ => none

namespace QuantityRequest

/-- What a lock is that the request wants after its first. -/
inductive Wants (a : QuantityRequest) (d : Database) : Lock → Prop
  | header : (∀ r ∈ d.reservations, r.id ≠ a.uuid4 0) → Wants a d (.reservation (a.uuid4 0))
  | key : Wants a d (.visitorKey a.visitorSessionId a.idempotencyKey)
  | item : (∀ i ∈ d.reservationItems, i.id ≠ a.uuid4 1) → Wants a d (.reservationItem (a.uuid4 1))

/-- Every statement of a quantity request: nothing is held and the ticket type is wanted, or the
    rows are inserted. -/
def guard (a : QuantityRequest) : Guard Database Write Lock where
  stmt d σ Λ := (σ.locks = [] ∧ ∀ l ∈ Λ, l = .ticketType a.ticketTypeId) ∨
    (σ.locks ⊆ [.ticketType a.ticketTypeId, .reservation (a.uuid4 0),
      .visitorKey a.visitorSessionId a.idempotencyKey] ∧ ∀ l ∈ Λ, a.Wants d l)
  commit _ _ := True

end QuantityRequest

section
variable {G : Guard Database Write Lock} {d : Database} {σ : Session}

/-- One flushed `INSERT` that meets the guard. -/
theorem always_insert {fits : Database → Prop} [DecidablePred fits] {takes : List Lock}
    {write : Write} {Q : Except Error Unit → Database → Session → Prop}
    (hG : ∀ d, G.stmt d σ []) (hok : ∀ d, Inv d → fits (σ.view d) → G.stmt d σ takes ∧
      Q (.ok ()) d ⟨σ.writes ++ [write], σ.locks ++ takes⟩)
    (hbad : ∀ d, Inv d → Q (.error .integrityError) d ∅) (hi : Inv d) :
    always protocol G (flushInsert fits (fun _ => []) takes write) Q d σ := by
  have htrue : protocol.Keeps σ.locks fun _ => True := .const
  refine always_bind (always_ofPlan htrue (fun d hi _ => ?_) hi trivial)
  by_cases hf : fits (σ.view d)
  · simp only [hf, if_true, List.nil_append]
    exact hok d hi hf
  · simp only [hf, if_false, List.append_nil]
    exact ⟨hG d, always_bind (always_rollback htrue (fun d _ _ => hG d) (fun d hi _ => hbad d hi) hi
      trivial)⟩

variable {settings : Settings} {visitorSession : VisitorSession} {uuid4 : ℕ → UUID} {now : Instant}

namespace QuantityRequest

theorem guard_nil (a : QuantityRequest) (d : Database) : a.guard.stmt d ∅ [] :=
  Or.inl ⟨rfl, by simp⟩

/-- **The two `INSERT`s** of a request that has locked its ticket type. -/
theorem always_create {a : QuantityRequest} {x : Reservation} {i : ReservationItem} {Δr Δs : ℤ}
    (hx : x.id = a.uuid4 0) (hv : x.visitorSessionId = a.visitorSessionId)
    (hk : x.idempotencyKey = a.idempotencyKey) (hit : i.id = a.uuid4 1) (hi : Inv d) :
    always protocol a.guard (QuantityReservationService.create x i)
      (fun r d σ => match r with
        | .ok _ => True
        | .error _ => Inv d ∧ σ = ∅) d
      ⟨[.addQuantities a.ticketTypeId Δr Δs], [.ticketType a.ticketTypeId]⟩ := by
  have htrue : ∀ Λ, protocol.Keeps Λ fun _ => True := fun _ => .const
  refine always_bind (always_insert (fun d => Or.inr ⟨by simp, by simp⟩) (fun d hi hf => ⟨?_, ?_⟩)
    (fun d hi => ⟨hi, rfl⟩) hi)
  · refine Or.inr ⟨by simp, ?_⟩
    simp only [List.forall_mem_cons, List.not_mem_nil, false_imp_iff, implies_true, and_true]
    rw [hx, hv, hk]
    exact ⟨.header (hx ▸ hf.id), .key⟩
  · refine always_bind (always_insert (fun d => Or.inr ⟨by simp [hx, hv, hk], by simp⟩)
      (fun d hi hf => ⟨?_, ?_⟩) (fun d hi => ⟨hi, rfl⟩) hi)
    · refine Or.inr ⟨by simp [hx, hv, hk], ?_⟩
      rw [List.forall_mem_singleton, hit]
      exact .item (hit ▸ hf.id)
    · exact always_bind (always_commitTx (htrue _) (fun _ _ _ => ⟨trivial, trivial⟩) hi trivial)

end QuantityRequest

/-- **All statements of a quantity request are guarded.** -/
theorem QuantityRequest.always_reserve {c : Call} {a : QuantityRequest}
    (hc : c.quantityRequest? = some a) (hi : Inv d) :
    always protocol a.guard (c.prog settings) (fun _ _ _ => True) d ∅ := by
  cases c with
  | reserveQuantity visitorSession payload uuid4 now =>
    obtain rfl := Option.some.inj hc
    refine always_map (always_bind (always_lookup (guard_nil _) (fun d hi => ?_) hi))
    cases hq : d.quantityLookup visitorSession.id payload.idempotencyKey with
    | error e => trivial
    | ok o =>
      cases o with
      | some existing => trivial
      | none =>
        refine always_bind ?_
        unfold reserveTicketQuantity
        split_ifs
        · refine always_bind (always_ofPlan (K := fun _ => True) .const (fun d hi _ => ?_) hi trivial)
          simp only [Session.view_empty, Session.empty_writes, Session.empty_locks, List.nil_append]
          unfold Database.updateTicketType
          split
          · exact ⟨guard_nil _ d, always_resolve (guard_nil _) (fun _ _ => trivial) hi⟩
          · split_ifs
            · refine ⟨Or.inl ⟨rfl, by simp⟩, always_tryCatch (always_mono (fun r d σ hr => ?_)
                (always_create rfl rfl rfl rfl hi))⟩
              cases r with
              | ok a => trivial
              | error e =>
                obtain ⟨hi, rfl⟩ := hr
                simp only
                split_ifs
                · exact always_resolve (guard_nil _) (fun _ _ => trivial) hi
                · trivial
            · exact ⟨Or.inl ⟨rfl, by simp⟩, trivial⟩
        · trivial
  | _ => cases hc

end

/-! ## What a waiting call holds and wants -/

/-- The ids that a call draws: for its reservation, and for an item or for each of its seats. -/
def Call.drawn : Call → List UUID
  | .reserveQuantity _ _ uuid4 _ => [uuid4 0, uuid4 1]
  | .reserveSeats _ payload uuid4 _ => (List.range (payload.seatIds.length + 1)).map uuid4
  | _ => []

/-- The visitor and key of a request. -/
def Call.visitorKey? : Call → Option (UUID × String)
  | .reserveQuantity visitorSession payload _ _ => some (visitorSession.id, payload.idempotencyKey)
  | .reserveSeats visitorSession payload _ _ => some (visitorSession.id, payload.idempotencyKey)
  | _ => none

def Call.isWorker : Call → Bool
  | .expireBatch _ _ _ => true
  | _ => false

/-- A call that is at work on the reservations `ws` holds and wants only what belongs to them. -/
structure AtWork (d : Database) (s : CallStatus) (ws : List Whole) : Prop where
  mem : ∀ w ∈ ws, w.In d
  parent : ∀ w ∈ ws, .reservation w.reservation.id ∈ s.locks
  locks : s.locks ⊆ ws.flatMap Whole.locks
  wants : s.wants d ⊆ ws.flatMap Whole.locks

/-- **What a waiting call holds and wants.** -/
inductive Blocked (d : Database) (c : Call) (s : CallStatus) : Prop
  | empty : s.locks = [] → (∀ u k, .visitorKey u k ∉ s.wants d) → Blocked d c s
  | quantity (a : QuantityRequest) : c.quantityRequest? = some a →
      s.locks ⊆ [.ticketType a.ticketTypeId, .reservation (a.uuid4 0),
        .visitorKey a.visitorSessionId a.idempotencyKey] →
      (∀ l ∈ s.wants d, a.Wants d l) → Blocked d c s
  | seats (a : SeatRequest) : c.seatRequest? = some a → (∀ l ∈ s.locks, a.Holds d s.locks l) →
      (∀ l ∈ s.wants d, a.Wants d s.locks l) → Blocked d c s
  | atWork (ws : List Whole) : AtWork d s ws → (¬ c.isWorker → ∃ w, ws = [w]) → Blocked d c s

section
variable {d : Database} {c c' : Call} {s s' : CallStatus} {ws : List Whole} {l l' : Lock} {x : UUID}

theorem QuantityRequest.uuid4_mem_drawn {a : QuantityRequest} (h : c.quantityRequest? = some a) :
    a.uuid4 0 ∈ c.drawn := by
  cases c <;> cases h
  exact List.mem_cons_self

theorem SeatRequest.uuid4_mem_drawn {a : SeatRequest} {n : ℕ} (h : c.seatRequest? = some a)
    (hn : n ≤ a.orderedSeatIds.length) : a.uuid4 n ∈ c.drawn := by
  cases c <;> cases h
  rw [List.length_insertionSort] at hn
  exact List.mem_map_of_mem (List.mem_range.2 (Nat.lt_succ_of_le hn))

/-- The locks of reservations with their children. -/
theorem AtWork.cases (h : AtWork d s ws) (hl : l ∈ ws.flatMap Whole.locks) :
    ∃ w ∈ ws, l = .reservation w.reservation.id ∨
      (∃ q ∈ d.reservationSeats, q.reservationId = w.reservation.id ∧ l = .reservationSeat q.id) ∨
      ∃ i ∈ d.reservationItems, i.reservationId = w.reservation.id ∧
        w.reservation.reservationType = .quantity ∧
        (l = .reservationItem i.id ∨ l = .ticketType i.ticketTypeId) := by
  obtain ⟨w, hw, hl⟩ := List.mem_flatMap.1 hl
  refine ⟨w, hw, ?_⟩
  rw [Whole.locks] at hl
  rcases List.mem_append.1 hl with hl | hl
  · cases hty : w.reservation.reservationType with
    | quantity =>
      simp only [hty, List.mem_flatMap] at hl
      obtain ⟨i, hi, hl⟩ := hl
      rw [← (h.mem w hw).items, mem_orderBy] at hi
      obtain ⟨hid, hir⟩ := List.mem_filter.1 hi
      refine Or.inr (Or.inr ⟨i, hid, of_decide_eq_true hir, rfl, ?_⟩)
      simpa [or_comm] using hl
    | seats =>
      simp only [hty, List.mem_map] at hl
      obtain ⟨q, hq, rfl⟩ := hl
      rw [← (h.mem w hw).seats, mem_orderBy] at hq
      obtain ⟨hqd, hqr⟩ := List.mem_filter.1 hq
      exact Or.inr (Or.inl ⟨q, hqd, of_decide_eq_true hqr, rfl⟩)
  · exact Or.inl (List.mem_singleton.1 hl)

namespace Blocked

/-- Who has locked a row has locked its reservation. -/
theorem parent_seat (h : Blocked d c s) (hi : Inv d) {q : ReservationSeat}
    (hq : q ∈ d.reservationSeats) (hl : .reservationSeat q.id ∈ s.locks) :
    .reservation q.reservationId ∈ s.locks := by
  cases h with
  | empty h0 => simp [h0] at hl
  | quantity a hc hlocks => simpa using hlocks hl
  | seats a hc hholds =>
    generalize hx : Lock.reservationSeat q.id = x at hl
    cases hholds x hl with
    | row q' hq' _ _ hparent =>
      obtain rfl := Table.eq_of_key hi.seatRowIds hq hq' (Lock.reservationSeat.inj hx)
      exact hparent
    | newRow n _ hnew => exact absurd (Lock.reservationSeat.inj hx) (hnew q hq)
    | seat | parent | header | key | active => cases hx
  | atWork ws h =>
    obtain ⟨w, hw, hx | ⟨q', hq', hid, hx⟩ | ⟨i, -, -, -, hx | hx⟩⟩ := h.cases (h.locks hl)
    · cases hx
    · obtain rfl := Table.eq_of_key hi.seatRowIds hq hq' (Lock.reservationSeat.inj hx)
      exact hid ▸ h.parent w hw
    · cases hx
    · cases hx

theorem parent_item (h : Blocked d c s) (hi : Inv d) {i : ReservationItem}
    (hq : i ∈ d.reservationItems) (hl : .reservationItem i.id ∈ s.locks) :
    .reservation i.reservationId ∈ s.locks := by
  cases h with
  | empty h0 => simp [h0] at hl
  | quantity a hc hlocks => simpa using hlocks hl
  | seats a hc hholds => cases hholds _ hl
  | atWork ws h =>
    obtain ⟨w, hw, hx | ⟨q', hq', hid, hx⟩ | ⟨j, hj, hid, -, hx | hx⟩⟩ := h.cases (h.locks hl)
    · cases hx
    · cases hx
    · obtain rfl := Table.eq_of_key hi.itemIds hq hj (Lock.reservationItem.inj hx)
      exact hid ▸ h.parent w hw
    · cases hx

/-- Who has locked a reservation has found it or draws its id. -/
theorem reservation (h : Blocked d c s) (hl : .reservation x ∈ s.locks) :
    (∃ r ∈ d.reservations, r.id = x) ∨ x ∈ c.drawn := by
  cases h with
  | empty h0 => simp [h0] at hl
  | quantity a hc hlocks =>
    have hx : x = a.uuid4 0 := by simpa using hlocks hl
    exact Or.inr (hx ▸ QuantityRequest.uuid4_mem_drawn hc)
  | seats a hc hholds =>
    generalize hx : Lock.reservation x = m at hl
    cases hholds m hl with
    | parent r hr => exact Or.inl ⟨r, hr, (Lock.reservation.inj hx).symm⟩
    | header =>
      exact Or.inr (Lock.reservation.inj hx ▸ SeatRequest.uuid4_mem_drawn hc (Nat.zero_le _))
    | seat | row | key | newRow | active => cases hx
  | atWork ws h =>
    obtain ⟨w, hw, hx | ⟨q, -, -, hx⟩ | ⟨i, -, -, -, hx | hx⟩⟩ := h.cases (h.locks hl)
    · exact Or.inl ⟨_, (h.mem w hw).mem, (Lock.reservation.inj hx).symm⟩
    · cases hx
    · cases hx
    · cases hx

/-- So it is with a row. -/
theorem reservationSeat (h : Blocked d c s) (hl : .reservationSeat x ∈ s.locks) :
    (∃ q ∈ d.reservationSeats, q.id = x) ∨ x ∈ c.drawn := by
  cases h with
  | empty h0 => simp [h0] at hl
  | quantity a hc hlocks => simpa using hlocks hl
  | seats a hc hholds =>
    generalize hx : Lock.reservationSeat x = m at hl
    cases hholds m hl with
    | row q hq => exact Or.inl ⟨q, hq, (Lock.reservationSeat.inj hx).symm⟩
    | newRow n hn =>
      exact Or.inr (Lock.reservationSeat.inj hx ▸ SeatRequest.uuid4_mem_drawn hc hn)
    | seat | parent | header | key | active => cases hx
  | atWork ws h =>
    obtain ⟨w, hw, hx | ⟨q, hq, -, hx⟩ | ⟨i, -, -, -, hx | hx⟩⟩ := h.cases (h.locks hl)
    · cases hx
    · exact Or.inl ⟨q, hq, (Lock.reservationSeat.inj hx).symm⟩
    · cases hx
    · cases hx

/-- An item that a waiting call has locked is there. -/
theorem reservationItem (h : Blocked d c s) (hl : .reservationItem x ∈ s.locks) :
    ∃ i ∈ d.reservationItems, i.id = x := by
  cases h with
  | empty h0 => simp [h0] at hl
  | quantity a hc hlocks => simpa using hlocks hl
  | seats a hc hholds => cases hholds _ hl
  | atWork ws h =>
    obtain ⟨w, hw, hx | ⟨q, hq, -, hx⟩ | ⟨i, hi, -, -, hx | hx⟩⟩ := h.cases (h.locks hl)
    · cases hx
    · cases hx
    · exact ⟨i, hi, (Lock.reservationItem.inj hx).symm⟩
    · cases hx

theorem activeSeat (h : Blocked d c s) (hl : .activeSeat x ∈ s.locks) : .seat x ∈ s.locks := by
  cases h with
  | empty h0 => simp [h0] at hl
  | quantity a hc hlocks => simpa using hlocks hl
  | seats a hc hholds =>
    generalize hx : Lock.activeSeat x = m at hl
    cases hholds m hl with
    | active y hy => exact Lock.activeSeat.inj hx ▸ hy
    | seat | parent | row | header | key | newRow => cases hx
  | atWork ws h =>
    obtain ⟨w, hw, hx | ⟨q, hq, -, hx⟩ | ⟨i, -, -, -, hx | hx⟩⟩ := h.cases (h.locks hl) <;> cases hx

/-- Only the requests of a visitor and key hold the (visitor, key) entry. -/
theorem holds_key (h : Blocked d c s) {u : UUID} {k : String} (hl : .visitorKey u k ∈ s.locks) :
    c.visitorKey? = some (u, k) := by
  cases h with
  | empty h0 => simp [h0] at hl
  | quantity a hc hlocks =>
    have hx : u = a.visitorSessionId ∧ k = a.idempotencyKey := by simpa using hlocks hl
    obtain ⟨rfl, rfl⟩ := hx
    cases c <;> cases hc
    rfl
  | seats a hc hholds =>
    generalize hx : Lock.visitorKey u k = m at hl
    cases hholds m hl with
    | key =>
      obtain ⟨rfl, rfl⟩ := Lock.visitorKey.inj hx
      cases c <;> cases hc
      rfl
    | seat | parent | row | header | newRow | active => cases hx
  | atWork ws h =>
    obtain ⟨w, hw, hx | ⟨q, hq, -, hx⟩ | ⟨i, -, -, -, hx | hx⟩⟩ := h.cases (h.locks hl) <;> cases hx

/-- Only they wait for it. -/
theorem wants_key (h : Blocked d c s) {u : UUID} {k : String} (hl : .visitorKey u k ∈ s.wants d) :
    c.visitorKey? = some (u, k) := by
  have hall := h
  cases h with
  | empty _ hno => exact absurd hl (hno u k)
  | quantity a hc _ hwants =>
    generalize hx : Lock.visitorKey u k = m at hl
    cases hwants m hl with
    | key =>
      obtain ⟨rfl, rfl⟩ := Lock.visitorKey.inj hx
      cases c <;> cases hc
      rfl
    | header | item => cases hx
  | seats a hc hholds hwants =>
    generalize hx : Lock.visitorKey u k = m at hl
    cases hwants m hl with
    | held _ hm => exact hall.holds_key (hx ▸ hm)
    | key =>
      obtain ⟨rfl, rfl⟩ := Lock.visitorKey.inj hx
      cases c <;> cases hc
      rfl
    | seat | parent | child | header | newRow | active | hold => cases hx
  | atWork ws h =>
    obtain ⟨w, hw, hx | ⟨q, hq, -, hx⟩ | ⟨i, -, -, -, hx | hx⟩⟩ := h.cases (h.wants hl) <;> cases hx

end Blocked

end

/-! ## Waits lead upwards -/

/-- How high a call waits for a lock: below ticket types as in `waitHeight`, then other calls for a
    ticket type, then workers. -/
def lockHeight (d : Database) (isWorker : Bool) : Lock → ℕ ×ₗ ℤ ×ₗ ℕ
  | .ticketType _ => toLex (4, toLex (if isWorker then 1 else 0, 0))
  | l => waitHeight d 0 l

section
variable {d : Database} {c c' : Call} {s s' : CallStatus} {ws : List Whole} {l l' : Lock}

theorem waitHeight_lt_four (d : Database) (now : Instant) (l : Lock) (n : ℤ) :
    waitHeight d now l < toLex (4, toLex (n, 0)) := by
  cases l with
  | reservationSeat x =>
    simp only [waitHeight]
    split
    · split_ifs <;> simp [Prod.Lex.toLex_lt_toLex]
    · simp [Prod.Lex.toLex_lt_toLex]
  | _ => simp [waitHeight, Prod.Lex.toLex_lt_toLex]

theorem lockHeight_of_ne {b : Bool} (h : ∀ t, l ≠ .ticketType t) :
    lockHeight d b l = waitHeight d 0 l := by
  cases l with
  | ticketType t => exact absurd rfl (h t)
  | _ => rfl

/-- A quantity reservation has one ticket type. -/
theorem AtWork.ticketType_unique {w : Whole} {i j : ReservationItem} (hi : Inv d) (hw : w.In d)
    (hq : w.reservation.reservationType = .quantity) (him : i ∈ d.reservationItems)
    (hir : i.reservationId = w.reservation.id) (hjm : j ∈ d.reservationItems)
    (hjr : j.reservationId = w.reservation.id) : i = j := by
  obtain ⟨k, hk⟩ := hi.oneItem w.reservation hw.mem hq
  have hmem : ∀ {i : ReservationItem}, i ∈ d.reservationItems → i.reservationId = w.reservation.id →
      i = k := by
    intro i him hir
    have : i ∈ d.itemsOf w.reservation.id := List.mem_filter.2 ⟨him, decide_eq_true hir⟩
    rw [hk] at this
    exact List.mem_singleton.1 this
  rw [hmem him hir, hmem hjm hjr]

/-- **A call that waits for a waiting one is waited for at a lower height.** -/
theorem Blocked.height_lt {b : Bool} (h : Blocked d c s) (h' : Blocked d c' s') (hi : Inv d)
    (hdisj : s.locks.Disjoint s'.locks)
    (hids : c.drawn.Disjoint c'.drawn)
    (hkeys : c.visitorKey? = c'.visitorKey? → c.visitorKey? = none) (hb : c.isWorker → b = false)
    (hl : l ∈ s.locks) (hkey : ∀ u k, l ≠ .visitorKey u k) (hwant : l' ∈ s.wants d)
    (hl' : l' ∈ s'.locks) : lockHeight d b l < lockHeight d c.isWorker l' := by
  have hfree : l' ∉ s.locks := fun hm => hdisj hm hl'
  have hnokey : ∀ u k, l' ≠ .visitorKey u k := by
    rintro u k rfl
    have hc := h.wants_key hwant
    rw [hkeys (hc.trans (h'.holds_key hl').symm)] at hc
    cases hc
  -- nobody else has locked a row that is still to be inserted
  have hheader : ∀ {x}, x ∈ c.drawn → (∀ r ∈ d.reservations, r.id ≠ x) → l' ≠ .reservation x := by
    rintro x hx hnew rfl
    rcases h'.reservation hl' with ⟨r, hr, hid⟩ | hx'
    · exact hnew r hr hid
    · exact hids hx hx'
  cases h with
  | empty h0 => simp [h0] at hl
  | quantity a hc hlocks hwants =>
    cases hwants l' hwant with
    | header hnew => exact absurd rfl (hheader (QuantityRequest.uuid4_mem_drawn hc) hnew)
    | key => exact absurd rfl (hnokey _ _)
    | item hnew =>
      obtain ⟨i, him, hid⟩ := h'.reservationItem hl'
      exact absurd hid (hnew i him)
  | seats a hc hholds hwants =>
    have hle := ((hholds l hl).height_le hi 0).resolve_left (hkey _ _)
    rw [lockHeight_of_ne fun t ht => by subst ht; cases hholds _ hl]
    rw [lockHeight_of_ne fun t ht => by subst ht; cases hwants _ hwant; exact hfree ‹_›]
    cases hwants l' hwant with
    | held _ hm => exact absurd hm hfree
    | seat x hx =>
      obtain ⟨y, hy, rfl⟩ := hx l hl
      simp [waitHeight, Prod.Lex.toLex_lt_toLex, hy]
    | parent r hr hx =>
      rcases hx l hl with ⟨y, rfl⟩ | ⟨y, hy, rfl⟩
      · simp [waitHeight, Prod.Lex.toLex_lt_toLex]
      · simp [waitHeight, Prod.Lex.toLex_lt_toLex, hy]
    | child q hq hparent => exact absurd (h'.parent_seat hi hq hl') (hdisj hparent)
    | header hnew =>
      exact absurd rfl (hheader (SeatRequest.uuid4_mem_drawn hc (Nat.zero_le _)) hnew)
    | newRow m hm hnew =>
      rcases h'.reservationSeat hl' with ⟨q, hq, hid⟩ | hx'
      · exact absurd hid (hnew q hq)
      · exact (hids (SeatRequest.uuid4_mem_drawn hc hm) hx').elim
    | active x hx => exact absurd (h'.activeSeat hl') (hdisj hx)
    | key hseats => exact absurd rfl (hnokey _ _)
    | hold q hq hseat hlive hseats => exact hle.trans_lt (height_lt_hold hi hq hlive 0)
  | atWork ws hw hone =>
    obtain ⟨w, hwm, rfl | ⟨q, hq, hid, rfl⟩ | ⟨i, him, hir, hty, rfl | rfl⟩⟩ := hw.cases (hw.wants hwant)
    · exact absurd (hw.parent w hwm) hfree
    · exact absurd (hid ▸ h'.parent_seat hi hq hl') (hdisj (hw.parent w hwm))
    · exact absurd (hir ▸ h'.parent_item hi him hl') (hdisj (hw.parent w hwm))
    · by_cases hticket : ∃ t, l = .ticketType t
      · -- only a worker holds a ticket type and wants another one
        obtain ⟨t, rfl⟩ := hticket
        cases hwk : c.isWorker with
        | true => simp [lockHeight, hb hwk, Prod.Lex.toLex_lt_toLex]
        | false =>
          obtain ⟨w', rfl⟩ := hone (by simp [hwk])
          obtain ⟨v, hv, hx | ⟨q, -, -, hx⟩ | ⟨j, hjm, hjr, -, hx | hx⟩⟩ := hw.cases (hw.locks hl)
          · cases hx
          · cases hx
          · cases hx
          · obtain rfl := List.mem_singleton.1 hv
            obtain rfl := List.mem_singleton.1 hwm
            obtain rfl := AtWork.ticketType_unique hi (hw.mem _ (List.mem_singleton_self _)) hty him
              hir hjm hjr
            exact absurd (hx ▸ hl) hfree
      · rw [lockHeight_of_ne fun t ht => hticket ⟨t, ht⟩]
        exact waitHeight_lt_four d 0 l _

end

/-! ## Runs -/

section
variable {settings : Settings} {d : Database} {cfg cfg' : ServiceConfig} {i : ℕ} {l : Lock} {ok}
  {t : Thread Call Database Write Lock Error Response}

/-- `get` waits for nothing. -/
theorem always_get {reservationId : UUID} {visitorSession : VisitorSession} (hi : Inv d) :
    always protocol (moveGuard reservationId) ((Call.get reservationId visitorSession).prog settings)
      (fun _ _ _ => True) d ∅ := by
  have hnil : ∀ d, (moveGuard reservationId).stmt d ∅ [] := fun d => Or.inl ⟨rfl, by simp⟩
  -- one `SELECT`, which leaves the session as it is
  have hselect : ∀ {β : Type} (f : Database → β) {Q : Except Error β → Database → Session → Prop},
      (∀ d, Inv d → Q (.ok (f d)) d ∅) → ∀ {d}, Inv d → always protocol (moveGuard reservationId)
        (execute fun d => { result := f d }) Q d ∅ := fun f Q hQ d hi =>
    always_ofPlan (K := fun _ => True) .const (fun d hi _ => ⟨hnil d, hQ d hi⟩) hi trivial
  have hrollback : ∀ {α : Type} {k : Unit → Tx α} {d}, (∀ d, always protocol
      (moveGuard reservationId) (k ()) (fun _ _ _ => True) d ∅) → Inv d → always protocol
        (moveGuard reservationId) (Prog.rollback.bind k) (fun _ _ _ => True) d ∅ := fun hk hi =>
    always_bind (always_rollback (K := fun _ => True) .const (fun d _ _ => hnil d)
      (fun d _ _ => hk d) hi trivial)
  refine always_map (always_bind (hselect _ (fun d hi => ?_) hi))
  cases d.ownedReservation reservationId visitorSession.id visitorSession.userId with
  | none => exact hrollback (fun _ => trivial) hi
  | some x =>
    refine always_bind (always_bind (hselect _ (fun d hi => ?_) hi))
    refine always_bind (hselect _ (fun d hi => ?_) hi)
    exact hrollback (fun _ => trivial) hi

/-- A waiting `cancel` or `confirm`. -/
theorem blocked_moveGuard {reservationId : UUID}
    (ha : t.status.Always protocol (moveGuard reservationId) (fun _ => True) d)
    (hl : l ∈ t.status.wants d) : Blocked d t.call t.status := by
  obtain ⟨σ, hσ, hg⟩ := ha.wants hl
  rcases hg with ⟨h0, hwants⟩ | ⟨w, hw, hid, hown, hlocks, hwants⟩
  · exact .empty (hσ.trans h0) fun u k hk => by cases hwants _ hk
  · refine .atWork [w] ⟨List.forall_mem_singleton.2 hw, List.forall_mem_singleton.2 (hσ ▸ hown), ?_, ?_⟩
      fun _ => ⟨w, rfl⟩
    · simpa [hσ] using hlocks
    · simpa using hwants

/-- A waiting worker. -/
theorem Worker.blocked {batchSize : ℕ} {now : Instant} {reservationIds : Option (List UUID)}
    {ph : Phase} {s : CallStatus} {c : Call} (hi : Inv d)
    (h : Worker settings d batchSize now reservationIds ph s) (hc : c.isWorker)
    (hl : l ∈ s.wants d) : Blocked d c s := by
  cases h with
  | arrived | idle | committed | returned => cases hl
  | @busy ws p σ hne hb hpre hset =>
    have hsub : (expiredSession ws).locks ⊆ ws.flatMap Whole.locks := by
      refine List.append_subset.2 ⟨fun l hl => ?_, List.Subset.refl _⟩
      obtain ⟨w, hw, rfl⟩ := List.mem_map.1 hl
      exact List.mem_flatMap.2 ⟨w, hw, w.reservation_mem_locks⟩
    refine .atWork ws ⟨hb.mem, fun w hw => hpre.subset (List.mem_map_of_mem hw),
      fun l hl => hsub (hset.locks.subset hl), ?_⟩ fun hno => absurd hc hno
    rcases hset.wants (f := fun n => .commit (.ret (Response.count n))) ⟨hi, hb.mem⟩ with
      ⟨rfl, -⟩ | ⟨Λ, hwants, hnext⟩
    · cases hl
    · exact fun l hl => hsub (hnext.subset (hwants hl))

/-- **What a waiting call of a run holds and wants.** -/
theorem blocked_run (h : Inv d) (r : Run.Where (Call.prog settings) ok (start d) cfg)
    (ht : cfg.threads[i]? = some t) (hl : l ∈ t.status.wants cfg.db) :
    Blocked cfg.db t.call t.status := by
  have hi : Inv cfg.db := ServiceRun.inv h r
  cases hc : t.call with
  | reserveQuantity visitorSession payload uuid4 now =>
    have ha := guarded_run (· = t.call) (fun c d hkind hi =>
      QuantityRequest.always_reserve (a := _) (by rw [hkind, hc]; rfl) hi) h r ht rfl
    obtain ⟨σ, hσ, ⟨h0, hwants⟩ | ⟨hlocks, hwants⟩⟩ := ha.wants hl
    · exact .empty (hσ.trans h0) fun u k hk => by cases hwants _ hk
    · exact .quantity _ rfl (hσ ▸ hlocks) hwants
  | reserveSeats visitorSession payload uuid4 now =>
    have ha := guarded_run (· = t.call) (fun c d hkind hi =>
      SeatRequest.always_reserve (a := _) (by rw [hkind, hc]; rfl) hi) h r ht rfl
    obtain ⟨σ, hσ, hholds, hwants⟩ := ha.wants hl
    exact .seats _ rfl (hσ ▸ hholds) (hσ ▸ hwants)
  | get reservationId visitorSession =>
    have ha := guarded_run (· = t.call) (fun c d hkind hi => by
      rw [hkind, hc]; exact always_get hi) h r ht rfl
    exact hc ▸ blocked_moveGuard ha hl
  | cancel reservationId visitorSession now =>
    have ha := guarded_run (· = t.call) (fun c d hkind hi => by
      rw [hkind, hc]; exact always_moveTo _ hi) h r ht rfl
    exact hc ▸ blocked_moveGuard ha hl
  | confirm reservationId visitorSession now =>
    have ha := guarded_run (· = t.call) (fun c d hkind hi => by
      rw [hkind, hc]; exact always_moveTo _ hi) h r ht rfl
    exact hc ▸ blocked_moveGuard ha hl
  | expireBatch batchSize now reservationIds =>
    rcases worker_run h r ht hc with ha | ⟨ph, hw⟩
    · rw [ha] at hl
      cases hl
    · exact hw.blocked hi rfl hl

omit settings in
theorem isRunning_of_wants (hl : l ∈ t.status.wants d) : t.status.isRunning := by
  cases hs : t.status with
  | running => rfl
  | returned | aborted => rw [hs] at hl; cases hl

/-- Two calls that cannot be the cause of a deadlock: not both are running workers, they are not
    running requests with the same visitor and key, and they draw different ids. -/
structure Compatible (t t' : Thread Call Database Write Lock Error Response) : Prop where
  worker : t.status.isRunning → t'.status.isRunning → ¬ (t.call.isWorker ∧ t'.call.isWorker)
  keys : t.status.isRunning → t'.status.isRunning → t.call.visitorKey? = t'.call.visitorKey? →
    t.call.visitorKey? = none
  drawn : t.call.drawn.Disjoint t'.call.drawn

/-- **No two of these calls can be the cause of a deadlock.** -/
def Orderly (cfg : ServiceConfig) (calls : Set ℕ) : Prop :=
  ∀ i ∈ calls, ∀ j ∈ calls, i ≠ j → ∀ t t', cfg.threads[i]? = some t →
    cfg.threads[j]? = some t' → Compatible t t'

/-- Orderly calls are not deadlocked, whatever else runs. -/
theorem Orderly.not_deadlocked {calls : Set ℕ} (h : Reachable settings d)
    (r : Run.Where (Call.prog settings) ok (start d) cfg) (ho : Orderly cfg calls) :
    ¬ Deadlocked (fun _ => True) cfg calls := by
  intro hd
  have hi : Inv cfg.db := ServiceRun.inv h.inv r
  obtain ⟨l, hl⟩ := System.tracks_run (S := system settings) h.inv r
  have hblocked : ∀ i ∈ calls, ∀ t, cfg.threads[i]? = some t →
      Blocked cfg.db t.call t.status ∧ t.status.isRunning := by
    intro i hmem t ht
    obtain ⟨l, -, j, -, hw⟩ := hd.waits i hmem
    obtain ⟨t', ht', hl⟩ := hw.wants
    obtain rfl : t = t' := Option.some.inj (ht.symm.trans ht')
    exact ⟨blocked_run h.inv r ht hl, isRunning_of_wants hl⟩
  let isWorker (i : ℕ) : Bool := (cfg.threads[i]?.map fun t => t.call.isWorker).getD false
  refine not_deadlocked_of_height (fun i => lockHeight cfg.db (isWorker i))
    (fun i hi' j hj k hk l l' _ _ hij hjk => ?_) hd
  obtain ⟨ti, hti, hwant⟩ := hij.wants
  obtain ⟨tj, htj, hheld⟩ := hij.holds
  obtain ⟨tj', htj', hwant'⟩ := hjk.wants
  obtain ⟨tk, htk, hheld'⟩ := hjk.holds
  obtain rfl : tj = tj' := Option.some.inj (htj.symm.trans htj')
  obtain ⟨hbi, hri⟩ := hblocked i hi' ti hti
  obtain ⟨hbj, hrj⟩ := hblocked j hj tj htj
  obtain ⟨hbk, hrk⟩ := hblocked k hk tk htk
  have hcij := ho i hi' j hj hij.ne ti tj hti htj
  have hcjk := ho j hj k hk hjk.ne tj tk htj htk
  have hworker : isWorker j = tj.call.isWorker := by simp [isWorker, htj]
  rw [hworker]
  refine hbj.height_lt hbk hi (hl.locks j k tj tk hjk.ne htj htk) hcjk.drawn (hcjk.keys hrj hrk)
    (fun hw => ?_) hheld ?_ hwant' hheld'
  · have hno := hcij.worker hri hrj
    simpa [isWorker, hti, hw] using hno
  · rintro u key rfl
    have hkey := hbi.wants_key hwant
    rw [hcij.keys hri hrj (hkey.trans (hbj.holds_key hheld).symm)] at hkey
    cases hkey

/-- **Every deadlock contains two workers, or two requests with the same visitor and key** (or two
    calls that draw the same id). -/
theorem deadlock_pair {calls : Set ℕ} (h : Reachable settings d)
    (r : Run.Where (Call.prog settings) ok (start d) cfg)
    (hd : Deadlocked (fun _ => True) cfg calls) :
    ∃ i ∈ calls, ∃ j ∈ calls, i ≠ j ∧ ∃ t t', cfg.threads[i]? = some t ∧
      cfg.threads[j]? = some t' ∧ ((t.call.isWorker ∧ t'.call.isWorker) ∨
        (∃ key, t.call.visitorKey? = some key ∧ t'.call.visitorKey? = some key) ∨
        ∃ x ∈ t.call.drawn, x ∈ t'.call.drawn) := by
  by_contra hno
  refine Orderly.not_deadlocked h r (fun i hi j hj hij t t' ht ht' => ?_) hd
  have hpair := fun hbad => hno ⟨i, hi, j, hj, hij, t, t', ht, ht', hbad⟩
  refine ⟨fun _ _ hw => hpair (Or.inl hw), fun _ _ heq => ?_, fun x hx hx' =>
    hpair (Or.inr (Or.inr ⟨x, hx, hx'⟩))⟩
  cases hkey : t.call.visitorKey? with
  | none => rfl
  | some key => exact absurd (Or.inr (Or.inl ⟨key, hkey, heq ▸ hkey⟩)) hpair

/-- A step leaves the calls orderly: it starts none. -/
theorem Orderly.step {calls : Set ℕ} (ho : Orderly cfg calls)
    (hact : cfg.act (Call.prog settings) (.step i) = some cfg') : Orderly cfg' calls := by
  obtain ⟨u, s', d', hp, hm⟩ := step_cases hact
  have hback : ∀ (j : ℕ) t', cfg'.threads[j]? = some t' → ∃ t, cfg.threads[j]? = some t ∧
      t'.call = t.call ∧ (t'.status.isRunning → t.status.isRunning) := by
    intro j t' ht'
    by_cases hij : i = j
    · subst hij
      rw [hm.get_self] at ht'
      cases ht'
      exact ⟨u, hm.at_i, rfl, fun _ => hp.isRunning⟩
    · exact ⟨t', hm.get_other hij ▸ ht', rfl, id⟩
  intro j hj k hk hjk tj tk htj htk
  obtain ⟨tj', htj', hcj, hrj⟩ := hback j tj htj
  obtain ⟨tk', htk', hck, hrk⟩ := hback k tk htk
  have hc := ho j hj k hk hjk tj' tk' htj' htk'
  refine ⟨fun h h' => ?_, fun h h' => ?_, ?_⟩
  · rw [hcj, hck]
    exact hc.worker (hrj h) (hrk h')
  · rw [hcj, hck]
    exact hc.keys (hrj h) (hrk h')
  · rw [hcj, hck]
    exact hc.drawn

/-- **Orderly calls come to their end**, whichever of them moves next. -/
theorem orderly_ends (h : Reachable settings d) (r : ServiceRun settings (start d) cfg)
    (ho : Orderly cfg Set.univ) : Ends (Call.prog settings) cfg := by
  refine ends_of_not_deadlocked (I := fun c => ServiceRun settings (start d) c ∧
    Orderly c Set.univ) ?_ ?_ ⟨r, ho⟩
  · exact fun hI hact => ⟨.tail _ hI.1 trivial hact, hI.2.step hact⟩
  · exact fun hI => Orderly.not_deadlocked h hI.1 fun i _ j _ hij => hI.2 i trivial j trivial hij

end

/-! ## Runs on a small inventory -/

/-- The two workers that wait for each other. -/
theorem deadlock_pair_crosses : ∃ i ∈ ({0, 1} : Set ℕ), ∃ j ∈ ({0, 1} : Set ℕ), i ≠ j ∧ ∃ t t',
    ((start Sample.fourHeld).after (Call.prog Sample.settings) Sample.crosses).threads[i]? = some t ∧
      ((start Sample.fourHeld).after (Call.prog Sample.settings) Sample.crosses).threads[j]? =
        some t' ∧ ((t.call.isWorker ∧ t'.call.isWorker) ∨
        (∃ key, t.call.visitorKey? = some key ∧ t'.call.visitorKey? = some key) ∨
        ∃ x ∈ t.call.drawn, x ∈ t'.call.drawn) := by
  have r : ServiceRun Sample.settings (start Sample.fourHeld)
    ((start Sample.fourHeld).after (Call.prog Sample.settings) Sample.crosses) := run_after (by decide)
  refine deadlock_pair Sample.fourHeld_reachable r ⟨⟨0, Set.mem_insert _ _⟩, ?_⟩
  rintro i (rfl | rfl)
  · exact ⟨.ticketType 21, trivial, 1, by simp, by decide⟩
  · exact ⟨.ticketType 20, trivial, 0, by simp, by decide⟩

namespace Sample

/-- A worker, and two requests of Alice and Bob. -/
def orderlyCalls : List Call :=
  [.expireBatch 2 900000009 none,
    .reserveQuantity alice twoTickets (fun n => 500 + 2 * n) 900000009,
    .reserveSeats bob oneSeat (fun n => 501 + 2 * n) 900000009]

/-- The worker has locked the ticket type that Alice wants. -/
def orderly : ServiceConfig := (start fourHeld).after (Call.prog Sample.settings)
  (orderlyCalls.map .arrive ++ (List.replicate 5 (.step 0) ++ [.step 1]))

theorem orderly_orderly : Orderly orderly Set.univ := by
  have hcalls : orderly.threads.map Thread.call = orderlyCalls := rfl
  have hcall : ∀ {i : ℕ} {t}, orderly.threads[i]? = some t → orderlyCalls[i]? = some t.call := by
    intro i t ht
    rw [← hcalls, List.getElem?_map, ht]
    rfl
  have hpair : ∀ (i j : ℕ) c c', orderlyCalls[i]? = some c → orderlyCalls[j]? = some c' → i ≠ j →
      ¬ (c.isWorker ∧ c'.isWorker) ∧ (c.visitorKey? = c'.visitorKey? → c.visitorKey? = none) ∧
        ∀ x ∈ c.drawn, x ∉ c'.drawn := by
    intro i j c c' hc hc' hij
    rcases i with _ | _ | _ | i <;> cases hc <;> rcases j with _ | _ | _ | j <;> cases hc' <;>
      first | exact absurd rfl hij | decide
  intro i _ j _ hij t t' ht ht'
  obtain ⟨hworker, hkeys, hdrawn⟩ := hpair i j _ _ (hcall ht) (hcall ht') hij
  exact ⟨fun _ _ => hworker, fun _ _ => hkeys, hdrawn⟩

end Sample

/-- Alice waits for the worker, and yet all calls come to their end. -/
theorem orderly_ends_waiting : WaitsFor Sample.orderly 1 (.ticketType 20) 0 ∧
    Ends (Call.prog Sample.settings) Sample.orderly :=
  ⟨by decide, orderly_ends Sample.fourHeld_reachable (run_after (by decide)) Sample.orderly_orderly⟩

end TicketReservation
