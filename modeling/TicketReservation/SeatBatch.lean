/-
  Creating a batch of seats (`EventService.create_seats`, events/service.py).

  The service strips the texts once more than the validator, and takes every
  `IntegrityError` for a seat that exists already.

  * `BatchCreated`: all seats are stored or none, a conflict means that a seat
    exists, and no stored text is empty;
  * `createSeats_iff`: when this is so; with U+0000 in a text the call ends in
    `DataError`, with U+001C to U+001F the second strip may make two entries
    equal or a text empty;
  * `batchCreated_of_plain`: without these characters it is always so.
-/
import TicketReservation.EventCalls
import TicketReservation.Payloads
import TicketReservation.Served

namespace TicketReservation

open Txn

/-! ## Stored positions -/

/-- An entry as it is stored. -/
def SeatCreate.stored (seat : SeatCreate) : SeatCreate :=
  ⟨strip seat.section_, strip seat.rowName, strip seat.seatNumber⟩

/-- No text of the entry is empty. -/
structure SeatCreate.Named (seat : SeatCreate) : Prop where
  section_ : seat.section_ ≠ ""
  rowName : seat.rowName ≠ ""
  seatNumber : seat.seatNumber ≠ ""

/-- The database can store the texts of the entry. -/
structure SeatCreate.Storable (seat : SeatCreate) : Prop where
  section_ : TicketReservation.Storable seat.section_
  rowName : TicketReservation.Storable seat.rowName
  seatNumber : TicketReservation.Storable seat.seatNumber

instance (seat : SeatCreate) : Decidable seat.Named :=
  decidable_of_iff (seat.section_ ≠ "" ∧ seat.rowName ≠ "" ∧ seat.seatNumber ≠ "")
    ⟨fun ⟨h1, h2, h3⟩ => ⟨h1, h2, h3⟩, fun h => ⟨h.1, h.2, h.3⟩⟩

instance (seat : SeatCreate) : Decidable seat.Storable :=
  decidable_of_iff (TicketReservation.Storable seat.section_ ∧
    TicketReservation.Storable seat.rowName ∧ TicketReservation.Storable seat.seatNumber)
    ⟨fun ⟨h1, h2, h3⟩ => ⟨h1, h2, h3⟩, fun h => ⟨h.1, h.2, h.3⟩⟩

/-- No text of the entry contains U+0000 or a separator. -/
structure SeatCreate.Plain (seat : SeatCreate) : Prop where
  storable : seat.Storable
  section_ : ∀ c ∈ seat.section_.toList, isSeparator c = false
  rowName : ∀ c ∈ seat.rowName.toList, isSeparator c = false
  seatNumber : ∀ c ∈ seat.seatNumber.toList, isSeparator c = false

theorem SeatCreate.Plain.stored_eq {seat : SeatCreate} (h : seat.Plain) (hv : seat.Valid) :
    seat.stored = seat := by
  rw [SeatCreate.stored, hv.section_.strip_eq_self h.section_, hv.rowName.strip_eq_self h.rowName,
    hv.seatNumber.strip_eq_self h.seatNumber]

theorem SeatCreate.Valid.named {seat : SeatCreate} (h : seat.Valid) : seat.Named :=
  ⟨h.section_.ne_empty, h.rowName.ne_empty, h.seatNumber.ne_empty⟩

/-- The place of a seat within its event. -/
def Seat.place (s : Seat) : SeatCreate := ⟨s.section_, s.rowName, s.seatNumber⟩

/-- The stored position is a seat of the event already. -/
def Database.Taken (d : Database) (eventId : UUID) (seat : SeatCreate) : Prop :=
  ∃ s ∈ d.seats, s.eventId = eventId ∧ s.place = seat.stored

instance (d : Database) (eventId : UUID) (seat : SeatCreate) : Decidable (d.Taken eventId seat) :=
  inferInstanceAs (Decidable (∃ s ∈ d.seats, s.eventId = eventId ∧ s.place = seat.stored))

/-- Ids for new seats. -/
structure FreshSeatIds (d : Database) (uuid4 : ℕ → UUID) : Prop where
  injective : Function.Injective uuid4
  fresh : ∀ s ∈ d.seats, ∀ n, s.id ≠ uuid4 n

/-- **The answer `r` and the database `d'` that `create_seats` should give.** -/
structure BatchCreated (d : Database) (eventId : UUID) (seatInputs : List SeatCreate)
    (uuid4 : ℕ → UUID) (r : Except Error (List Seat)) (d' : Database) : Prop where
  whole : (r = .ok (EventService.newSeats eventId seatInputs uuid4) ∧
      d' = d.addSeatRows (EventService.newSeats eventId seatInputs uuid4)) ∨
    (r = .error .seatConflictError ∧ d' = d)
  conflict : r = .error .seatConflictError ↔ ∃ seat ∈ seatInputs, d.Taken eventId seat
  named : ∀ s ∈ d'.seats, s ∈ d.seats ∨ s.place.Named

namespace EventService

section
variable {d : Database} {eventId : UUID} {seatInputs : List SeatCreate} {uuid4 : ℕ → UUID}

theorem mem_newSeats {s : Seat} (hs : s ∈ newSeats eventId seatInputs uuid4) :
    s.eventId = eventId ∧ (∃ n, s.id = uuid4 n) ∧ ∃ seat ∈ seatInputs, s.place = seat.stored := by
  obtain ⟨n, hn, rfl⟩ := List.mem_mapIdx.1 hs
  exact ⟨rfl, ⟨n, rfl⟩, _, List.getElem_mem hn, rfl⟩

theorem map_place_newSeats :
    (newSeats eventId seatInputs uuid4).map Seat.place = seatInputs.map SeatCreate.stored := by
  refine List.ext_getElem (by simp [newSeats]) fun n hn hn' => ?_
  simp only [newSeats, List.getElem_map, List.getElem_mapIdx]
  rfl

theorem newSeats_ids_nodup (h : Function.Injective uuid4) :
    ((newSeats eventId seatInputs uuid4).map Seat.id).Nodup :=
  Table.nodup_mapIdx_key fun _ _ _ _ heq => h heq

/-- The new positions differ iff the stored entries do. -/
theorem newSeats_positions_nodup_iff :
    ((newSeats eventId seatInputs uuid4).map Seat.position).Nodup ↔
      (seatInputs.map SeatCreate.stored).Nodup := by
  have hpos : (newSeats eventId seatInputs uuid4).map Seat.position =
      ((newSeats eventId seatInputs uuid4).map Seat.place).map fun seat =>
        (eventId, seat.section_, seat.rowName, seat.seatNumber) := by
    rw [List.map_map]
    refine List.map_congr_left fun s hs => ?_
    simp only [Function.comp_apply, Seat.place, Seat.position, (mem_newSeats hs).1]
  have hinj : Function.Injective fun seat : SeatCreate =>
      (eventId, seat.section_, seat.rowName, seat.seatNumber) := by
    rintro ⟨a, b, c⟩ ⟨a', b', c'⟩ h
    simp only [Prod.mk.injEq, true_and] at h
    obtain ⟨rfl, rfl, rfl⟩ := h
    rfl
  rw [hpos, List.nodup_map_iff hinj, map_place_newSeats]

/-- When the batch fits. -/
theorem fitAll_newSeats_iff (seatInputs : List SeatCreate) (h : Inv d)
    (hev : ∃ e ∈ d.events, e.id = eventId)
    (hids : FreshSeatIds d uuid4) : FitAll (newSeats eventId seatInputs uuid4) d ↔
      (seatInputs.map SeatCreate.stored).Nodup ∧ ∀ seat ∈ seatInputs, ¬ d.Taken eventId seat := by
  rw [fitAll_iff h.seatPositions, List.map_append, List.nodup_append, and_iff_right h.seatPositions,
    newSeats_positions_nodup_iff]
  · refine and_congr_right fun _ => ⟨fun hdis seat hseat => ?_, fun hno => ?_⟩
    · rintro ⟨s, hs, hse, hplace⟩
      have hmem : seat.stored ∈ (newSeats eventId seatInputs uuid4).map Seat.place := by
        rw [map_place_newSeats]
        exact List.mem_map_of_mem hseat
      obtain ⟨b, hb, hbp⟩ := List.mem_map.1 hmem
      refine hdis _ (List.mem_map_of_mem hs) _ (List.mem_map_of_mem hb) ?_
      have heq := hplace.trans hbp.symm
      simp only [Seat.place, SeatCreate.mk.injEq] at heq
      simp only [Seat.position, hse, (mem_newSeats hb).1, heq]
    · rintro _ hsp _ hbp heq
      obtain ⟨s, hs, rfl⟩ := List.mem_map.1 hsp
      obtain ⟨b, hb, rfl⟩ := List.mem_map.1 hbp
      obtain ⟨hbe, -, seat, hseat, hplace⟩ := mem_newSeats hb
      simp only [Seat.position, Prod.mk.injEq] at heq
      refine hno seat hseat ⟨s, hs, heq.1.trans hbe, ?_⟩
      rw [← hplace]
      simp only [Seat.place, heq]
  · refine Table.nodup_append_key h.seatIds (newSeats_ids_nodup hids.injective) fun s hs b hb => ?_
    obtain ⟨-, ⟨n, hn⟩, -⟩ := mem_newSeats hb
    rw [hn]
    exact hids.fresh s hs n
  · intro row hrow
    rw [(mem_newSeats hrow).1]
    exact hev

/-- When the texts fit their columns. -/
theorem encodable_newSeats_iff (eventId : UUID) (uuid4 : ℕ → UUID)
    (hvalid : ∀ seat ∈ seatInputs, seat.Valid) :
    (∀ row ∈ newSeats eventId seatInputs uuid4, row.Encodable) ↔
      ∀ seat ∈ seatInputs, seat.Storable := by
  have hstored : ∀ seat ∈ seatInputs, (VarChar 100 seat.stored.section_ ∧
      VarChar 50 seat.stored.rowName ∧ VarChar 50 seat.stored.seatNumber) ↔ seat.Storable := by
    intro seat hseat
    have hv := hvalid seat hseat
    rw [SeatCreate.stored, hv.section_.varChar_iff, hv.rowName.varChar_iff, hv.seatNumber.varChar_iff]
    exact ⟨fun ⟨h1, h2, h3⟩ => ⟨h1, h2, h3⟩, fun h => ⟨h.1, h.2, h.3⟩⟩
  have hplace : ∀ s : Seat, s.Encodable ↔ VarChar 100 s.place.section_ ∧
      VarChar 50 s.place.rowName ∧ VarChar 50 s.place.seatNumber := fun _ => Iff.rfl
  constructor
  · intro h seat hseat
    have hmem : seat.stored ∈ (newSeats eventId seatInputs uuid4).map Seat.place := by
      rw [map_place_newSeats]
      exact List.mem_map_of_mem hseat
    obtain ⟨b, hb, hbp⟩ := List.mem_map.1 hmem
    have henc := (hplace b).1 (h b hb)
    rw [hbp] at henc
    exact (hstored seat hseat).1 henc
  · intro h row hrow
    obtain ⟨-, -, seat, hseat, hp⟩ := mem_newSeats hrow
    rw [hplace, hp]
    exact (hstored seat hseat).2 (h seat hseat)

/-- Storing the batch is right iff no seat existed and no stored text is empty. -/
theorem batchCreated_ok_iff (hids : FreshSeatIds d uuid4) :
    BatchCreated d eventId seatInputs uuid4 (.ok (newSeats eventId seatInputs uuid4))
        (d.addSeatRows (newSeats eventId seatInputs uuid4)) ↔
      (∀ seat ∈ seatInputs, ¬ d.Taken eventId seat) ∧ ∀ seat ∈ seatInputs, seat.stored.Named := by
  constructor
  · intro hb
    refine ⟨fun seat hseat htaken => ?_, fun seat hseat => ?_⟩
    · cases hb.conflict.2 ⟨seat, hseat, htaken⟩
    · have hmem : seat.stored ∈ (newSeats eventId seatInputs uuid4).map Seat.place := by
        rw [map_place_newSeats]
        exact List.mem_map_of_mem hseat
      obtain ⟨s, hs, hplace⟩ := List.mem_map.1 hmem
      rw [← hplace]
      refine (hb.named s (List.mem_append_right _ hs)).resolve_left fun hold => ?_
      obtain ⟨-, ⟨n, hn⟩, -⟩ := mem_newSeats hs
      exact hids.fresh s hold n hn
  · rintro ⟨hno, hnamed⟩
    refine ⟨Or.inl ⟨rfl, rfl⟩, ⟨nofun, ?_⟩, fun s hs => ?_⟩
    · rintro ⟨seat, hseat, htaken⟩
      exact absurd htaken (hno seat hseat)
    · rcases List.mem_append.1 hs with hs | hs
      · exact Or.inl hs
      · obtain ⟨-, -, seat, hseat, hplace⟩ := mem_newSeats hs
        exact Or.inr (hplace ▸ hnamed seat hseat)

/-- A conflict is right iff a seat exists. -/
theorem batchCreated_conflict_iff :
    BatchCreated d eventId seatInputs uuid4 (.error .seatConflictError) d ↔
      ∃ seat ∈ seatInputs, d.Taken eventId seat := by
  constructor
  · intro hb
    exact hb.conflict.1 rfl
  · intro htaken
    exact ⟨Or.inr ⟨rfl, rfl⟩, ⟨fun _ => htaken, fun _ => rfl⟩, fun s hs => Or.inl hs⟩

theorem not_batchCreated_dataError :
    ¬ BatchCreated d eventId seatInputs uuid4 (.error .dataError) d := by
  rintro ⟨⟨hok, -⟩ | ⟨herr, -⟩, -, -⟩
  · cases hok
  · cases herr

theorem batchCreated_createSeats_iff (h : Inv d) (hev : ∃ e ∈ d.events, e.id = eventId)
    (payload : SeatBatchCreate) (hids : FreshSeatIds d uuid4) :
    BatchCreated d eventId payload.seats uuid4 ((createSeats eventId payload.seats uuid4).alone d).1
        ((createSeats eventId payload.seats uuid4).alone d).2 ↔
      (∀ seat ∈ payload.seats, seat.Storable) ∧
        ((∃ seat ∈ payload.seats, d.Taken eventId seat) ∨
          ((payload.seats.map SeatCreate.stored).Nodup ∧ ∀ seat ∈ payload.seats, seat.stored.Named)) := by
  have henc := encodable_newSeats_iff eventId uuid4 payload.seats_valid
  have hfit := fitAll_newSeats_iff payload.seats h hev hids
  rw [alone_createSeats, if_pos hev]
  by_cases hstor : ∀ seat ∈ payload.seats, seat.Storable
  · rw [if_pos (henc.2 hstor), and_iff_right hstor]
    by_cases hall : FitAll (newSeats eventId payload.seats uuid4) d
    · obtain ⟨hnodup, hno⟩ := hfit.1 hall
      have hnot : ¬ ∃ seat ∈ payload.seats, d.Taken eventId seat := by
        rintro ⟨seat, hseat, htaken⟩
        exact hno seat hseat htaken
      rw [if_pos hall, batchCreated_ok_iff hids, and_iff_right hno, or_iff_right hnot,
        and_iff_right hnodup]
    · rw [if_neg hall, batchCreated_conflict_iff]
      refine ⟨Or.inl, fun hc => hc.elim id fun hnew => ?_⟩
      by_contra hnot
      exact hall (hfit.2 ⟨hnew.1, fun seat hseat htaken => hnot ⟨seat, hseat, htaken⟩⟩)
  · rw [if_neg fun hall => hstor (henc.1 hall)]
    exact iff_of_false not_batchCreated_dataError fun hc => hstor hc.1

/-- **Without the separators and U+0000** the batch is stored as a whole unless
    one of its seats exists. -/
theorem batchCreated_of_plain (h : Inv d) (hev : ∃ e ∈ d.events, e.id = eventId)
    (payload : SeatBatchCreate) (hids : FreshSeatIds d uuid4)
    (hplain : ∀ seat ∈ payload.seats, seat.Plain) :
    BatchCreated d eventId payload.seats uuid4 ((createSeats eventId payload.seats uuid4).alone d).1
      ((createSeats eventId payload.seats uuid4).alone d).2 := by
  have hstored : ∀ seat ∈ payload.seats, seat.stored = seat := fun seat hseat =>
    (hplain seat hseat).stored_eq (payload.seats_valid seat hseat)
  refine (batchCreated_createSeats_iff h hev payload hids).2
    ⟨fun seat hseat => (hplain seat hseat).storable, Or.inr ⟨?_, fun seat hseat => ?_⟩⟩
  · rw [List.map_congr_left hstored, List.map_id']
    exact payload.seats_unique
  · rw [hstored seat hseat]
    exact (payload.seats_valid seat hseat).named

end

end EventService

namespace Sample

end Sample

namespace EventService

variable {settings : Settings} {d : Database} {eventId : UUID} {uuid4 : ℕ → UUID}

end EventService

end TicketReservation
