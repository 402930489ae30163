/-
  What the validators of events/schemas.py accept.

  Pydantic strips a text of the characters with the Unicode property
  White_Space before it checks the length; the service strips it again with
  `str.strip`, which also drops U+001C to U+001F.  A payload is a structure
  that carries what its validators have checked, `validate` computes it from
  the body of a request.

  * `ValidText.varChar_iff`: a valid text, stripped, fits its column unless it
    contains U+0000;
  * `ValidText.strip_eq_self`: the second strip changes nothing unless the text
    contains one of U+001C to U+001F.
-/
import TicketReservation.Events
import TicketReservation.Trim

namespace TicketReservation

/-! ## Texts -/

/-- The Unicode property White_Space. -/
def isWhiteSpace (c : Char) : Bool :=
  let n := c.toNat
  (0x9 ≤ n && n ≤ 0xd) || n = 0x20 || n = 0x85 || n = 0xa0 || n = 0x1680 ||
    (0x2000 ≤ n && n ≤ 0x200a) || n = 0x2028 || n = 0x2029 || n = 0x202f || n = 0x205f || n = 0x3000

/-- The information separators, which only `str.isspace` takes for spaces. -/
def isSeparator (c : Char) : Bool := 0x1c ≤ c.toNat && c.toNat ≤ 0x1f

/-- `str_strip_whitespace`. -/
def stripWhitespace (s : String) : String := Text.trim isWhiteSpace s

theorem strip_eq_trim (s : String) : strip s = Text.trim isSpace s := rfl

theorem isSpace_iff (c : Char) : isSpace c ↔ isWhiteSpace c ∨ isSeparator c := by
  simp only [isSpace, isWhiteSpace, isSeparator, Bool.or_eq_true, Bool.and_eq_true,
    decide_eq_true_eq]
  omega

/-- A field with `min_length=1, max_length=n`, after `str_strip_whitespace`. -/
structure ValidText (n : ℕ) (s : String) : Prop where
  stripped : stripWhitespace s = s
  length : 1 ≤ s.length ∧ s.length ≤ n

instance (n : ℕ) (s : String) : Decidable (ValidText n s) :=
  decidable_of_iff (stripWhitespace s = s ∧ 1 ≤ s.length ∧ s.length ≤ n)
    ⟨fun h => ⟨h.1, h.2⟩, fun h => ⟨h.1, h.2⟩⟩

/-- After the strip only the length is checked. -/
theorem validText_stripWhitespace_iff {n : ℕ} {s : String} : ValidText n (stripWhitespace s) ↔
    1 ≤ (stripWhitespace s).length ∧ (stripWhitespace s).length ≤ n :=
  ⟨ValidText.length, fun h => ⟨Text.trim_trim s, h⟩⟩

theorem storable_strip (s : String) : Storable (strip s) ↔ Storable s := by
  rw [Storable, Storable, strip_eq_trim, Text.mem_trim_iff (by decide)]

namespace ValidText
variable {n : ℕ} {s : String}

theorem varChar_iff (h : ValidText n s) : VarChar n (strip s) ↔ Storable s := by
  have hlen : (strip s).length ≤ n := (Text.length_trim_le s).trans h.length.2
  rw [VarChar, storable_strip, and_iff_right hlen]

theorem strip_eq_self (h : ValidText n s) (hs : ∀ c ∈ s.toList, isSeparator c = false) :
    strip s = s := by
  refine Text.trim_eq_self_of h.stripped fun c hc hspace => ?_
  rcases (isSpace_iff c).1 hspace with hw | hsep
  · exact hw
  · rw [hs c hc] at hsep
    cases hsep

theorem ne_empty (h : ValidText n s) : s ≠ "" := by
  rintro rfl
  have := h.length.1
  simp at this

end ValidText

/-! ## Payloads -/

/-- A validated body of `POST /v1/events`. -/
structure EventCreate where
  name : String
  startsAt : Instant
  endsAt : Instant
  name_valid : ValidText 255 name
  schedule : startsAt < endsAt

/-- A validated body of `POST /v1/events/{event_id}/ticket-types`. -/
structure TicketTypeCreate where
  name : String
  totalQuantity : ℤ
  name_valid : ValidText 255 name
  total_nonneg : 0 ≤ totalQuantity

structure SeatCreate.Valid (seat : SeatCreate) : Prop where
  section_ : ValidText 100 seat.section_
  rowName : ValidText 50 seat.rowName
  seatNumber : ValidText 50 seat.seatNumber

instance (seat : SeatCreate) : Decidable seat.Valid :=
  decidable_of_iff (ValidText 100 seat.section_ ∧ ValidText 50 seat.rowName ∧
    ValidText 50 seat.seatNumber) ⟨fun h => ⟨h.1, h.2.1, h.2.2⟩, fun h => ⟨h.1, h.2, h.3⟩⟩

/-- A validated body of `POST /v1/events/{event_id}/seats`. -/
structure SeatBatchCreate where
  seats : List SeatCreate
  seats_length : 1 ≤ seats.length ∧ seats.length ≤ 5000
  seats_valid : ∀ seat ∈ seats, seat.Valid
  seats_unique : seats.Nodup

def EventCreate.validate (name : String) (startsAt endsAt : Instant) : Option EventCreate :=
  if h : ValidText 255 (stripWhitespace name) ∧ startsAt < endsAt then
    some ⟨stripWhitespace name, startsAt, endsAt, h.1, h.2⟩
  else none

/-- The bodies that are accepted are those of payloads. -/
theorem EventCreate.validate_eq_some {name : String} {startsAt endsAt : Instant} {p : EventCreate} :
    validate name startsAt endsAt = some p ↔
      p.name = stripWhitespace name ∧ p.startsAt = startsAt ∧ p.endsAt = endsAt := by
  unfold validate
  constructor
  · intro h
    split_ifs at h
    cases h
    exact ⟨rfl, rfl, rfl⟩
  · obtain ⟨_, _, _, hname, hschedule⟩ := p
    rintro ⟨rfl, rfl, rfl⟩
    exact dif_pos ⟨hname, hschedule⟩

def TicketTypeCreate.validate (name : String) (totalQuantity : ℤ) : Option TicketTypeCreate :=
  if h : ValidText 255 (stripWhitespace name) ∧ 0 ≤ totalQuantity then
    some ⟨stripWhitespace name, totalQuantity, h.1, h.2⟩
  else none

theorem TicketTypeCreate.validate_eq_some {name : String} {totalQuantity : ℤ}
    {p : TicketTypeCreate} : validate name totalQuantity = some p ↔
      p.name = stripWhitespace name ∧ p.totalQuantity = totalQuantity := by
  unfold validate
  constructor
  · intro h
    split_ifs at h
    cases h
    exact ⟨rfl, rfl⟩
  · obtain ⟨_, _, hname, htotal⟩ := p
    rintro ⟨rfl, rfl⟩
    exact dif_pos ⟨hname, htotal⟩

def SeatCreate.stripWhitespace (seat : SeatCreate) : SeatCreate :=
  ⟨TicketReservation.stripWhitespace seat.section_, TicketReservation.stripWhitespace seat.rowName,
    TicketReservation.stripWhitespace seat.seatNumber⟩

def SeatBatchCreate.validate (body : List SeatCreate) : Option SeatBatchCreate :=
  if h : (1 ≤ body.length ∧ body.length ≤ 5000) ∧
      (∀ seat ∈ body.map SeatCreate.stripWhitespace, seat.Valid) ∧
      (body.map SeatCreate.stripWhitespace).Nodup then
    some ⟨body.map SeatCreate.stripWhitespace, by rw [List.length_map]; exact h.1, h.2.1, h.2.2⟩
  else none

theorem SeatBatchCreate.validate_eq_some {body : List SeatCreate} {p : SeatBatchCreate} :
    validate body = some p ↔ p.seats = body.map SeatCreate.stripWhitespace := by
  unfold validate
  constructor
  · intro h
    split_ifs at h
    cases h
    rfl
  · obtain ⟨_, hlength, hvalid, hunique⟩ := p
    rintro rfl
    rw [List.length_map] at hlength
    exact dif_pos ⟨hlength, hvalid, hunique⟩

end TicketReservation
