/-
  HTTP messages between a server and an ASGI application.

  Header names and values are byte strings; a text of them is their Latin-1
  decoding.  Of a message the server and the middleware read its type, and of a
  `http.response.start` its status and headers; the messages of the protocol's
  extensions (early hints, trailers) are kept as they are.

  * `Starlette`: what the service uses of Starlette's headers and responses;
  * `encodeLatin1_decodeLatin1`, `decodeUtf8_encodeUtf8`: decoding and encoding.
-/
import TicketReservation.Http.Json

namespace TicketReservation.Http

abbrev Bytes := List UInt8

/-! ## Encodings -/

/-- `bytes.decode("latin-1")`. -/
def decodeLatin1 (b : Bytes) : String := String.ofList (b.map fun x => Char.ofNat x.toNat)

/-- The text has only characters of Latin-1. -/
def Latin1 (s : String) : Prop := ∀ c ∈ s.toList, c.toNat < 256

instance (s : String) : Decidable (Latin1 s) := List.decidableBAll _ s.toList

/-- The text has only characters of ASCII. -/
def Ascii (s : String) : Prop := ∀ c ∈ s.toList, c.toNat < 128

instance (s : String) : Decidable (Ascii s) := List.decidableBAll _ s.toList

/-- `str.encode("latin-1")`, which raises `UnicodeEncodeError` for other texts. -/
def encodeLatin1 (s : String) : Option Bytes :=
  if Latin1 s then some (s.toList.map fun c => UInt8.ofNat c.toNat) else none

/-- `str.encode("utf-8")`. -/
def encodeUtf8 (s : String) : Bytes := s.toUTF8.data.toList

/-- `bytes.decode("utf-8")`, unless it raises `UnicodeDecodeError`. -/
def decodeUtf8 (b : Bytes) : Option String := String.fromUTF8? ⟨b.toArray⟩

theorem toNat_ofNat_byte (x : UInt8) : (Char.ofNat x.toNat).toNat = x.toNat := by
  have hvalid : x.toNat.isValidChar := Or.inl (Nat.lt_trans x.toNat_lt (by decide))
  rw [Char.ofNat, dif_pos hvalid]
  rfl

theorem latin1_decodeLatin1 (b : Bytes) : Latin1 (decodeLatin1 b) := by
  intro c hc
  rw [decodeLatin1, String.toList_ofList] at hc
  obtain ⟨x, -, rfl⟩ := List.mem_map.1 hc
  rw [toNat_ofNat_byte]
  exact x.toNat_lt

theorem encodeLatin1_decodeLatin1 (b : Bytes) : encodeLatin1 (decodeLatin1 b) = some b := by
  rw [encodeLatin1, if_pos (latin1_decodeLatin1 b), decodeLatin1, String.toList_ofList, List.map_map]
  refine congrArg some (List.map_id'' (fun x => ?_) b)
  simp only [Function.comp_apply, toNat_ofNat_byte, UInt8.ofNat_toNat]

theorem decodeLatin1_of_encodeLatin1 {s : String} {b : Bytes} (h : encodeLatin1 s = some b) :
    decodeLatin1 b = s := by
  rw [encodeLatin1, Option.ite_none_right_eq_some, Option.some.injEq] at h
  obtain ⟨hs, rfl⟩ := h
  have hmap : s.toList.map (fun c => Char.ofNat (UInt8.ofNat c.toNat).toNat) = s.toList.map id := by
    refine List.map_congr_left fun c hc => ?_
    rw [UInt8.toNat_ofNat_of_lt' (hs c hc), Char.ofNat_toNat, id]
  rw [decodeLatin1, List.map_map, Function.comp_def, hmap, List.map_id, String.ofList_toList]

theorem decodeUtf8_encodeUtf8 (s : String) : decodeUtf8 (encodeUtf8 s) = some s := by
  have hbytes : (⟨s.toUTF8.data.toList.toArray⟩ : ByteArray) = s.toUTF8 := by
    rw [Array.toArray_toList]
  rw [decodeUtf8, encodeUtf8, hbytes, String.toUTF8_eq_toByteArray, String.fromUTF8?,
    dif_pos s.isValidUTF8]
  rfl

/-! ## Messages -/

structure Header where
  name : Bytes
  value : Bytes
  deriving DecidableEq, Repr

/-- Names are compared without regard to the case of their letters. -/
def Header.named (key : String) (h : Header) : Bool :=
  h.name.map (fun x => (Char.ofNat x.toNat).toLower) = key.toList.map Char.toLower

/-- The values of a header. -/
def values (key : String) (headers : List Header) : List Bytes :=
  (headers.filter (Header.named key)).map Header.value

/-- The messages that an application sends to its server.  A `http.response.start` without `headers`,
    which the protocol allows, is left out: FastAPI sends none. -/
inductive Message where
  /-- `http.response.start` -/
  | start (status : ℕ) (headers : List Header)
  /-- `http.response.body` -/
  | body (body : Bytes) (moreBody : Bool)
  /-- any other `type` -/
  | extension (type : String)
      (other : type ≠ "http.response.start" ∧ type ≠ "http.response.body")
  deriving DecidableEq, Repr

def Message.isStart : Message → Bool
  | .start .. => true
  | _ => false

def Message.isExtension : Message → Bool
  | .extension .. => true
  | _ => false

/-- The status that a message starts a response with. -/
def Message.status : Message → Option ℕ
  | .start status _ => some status
  | _ => none

/-! ## Starlette -/

/-- **What the service uses of Starlette.**  Starlette itself compares the stored names byte by byte
    with the key in lower case, so it meets `get_eq` and `values_setItem` for stored names in lower
    case, as the protocol asks servers and applications to send them. -/
structure Starlette where
  /-- `Headers.get` -/
  get : List Header → String → Option String
  /-- `MutableHeaders.__setitem__`, for a value in Latin-1 -/
  setItem : List Header → String → String → List Header
  /-- what a `JSONResponse` sends when it is called -/
  jsonResponse : (statusCode : ℕ) → (content : Json) → (headers : List (String × String)) → List Message
  get_eq : ∀ headers key, Ascii key →
    get headers key = (values key headers).head?.map decodeLatin1
  values_setItem : ∀ headers key value bytes, Ascii key → encodeLatin1 value = some bytes →
    values key (setItem headers key value) = [bytes]
  jsonResponse_eq : ∀ statusCode content headers, (∀ h ∈ headers, Latin1 h.1 ∧ Latin1 h.2) →
    ∃ raw, jsonResponse statusCode content headers =
      [.start statusCode raw, .body (encodeUtf8 content.dumps) false]

/-! ## Bodies of errors -/

/-- The content of an error response. -/
def errorContent (code message requestId : String) : Json :=
  .obj [("error", .obj [("code", .str code), ("message", .str message),
    ("request_id", .str requestId)])]

/-- The JSON value that a response body is. -/
def jsonOf (body : Bytes) : Option Json := (decodeUtf8 body).bind Json.loads

theorem jsonOf_dumps (j : Json) : jsonOf (encodeUtf8 j.dumps) = some j := by
  rw [jsonOf, decodeUtf8_encodeUtf8, Option.bind_some, Json.loads_dumps]

/-- The request id that the body of an error names. -/
def errorRequestId (body : Bytes) : Option String := do
  let error ← (← jsonOf body).get "error"
  (← error.get "request_id").text

theorem errorRequestId_errorContent (code message requestId : String) :
    errorRequestId (encodeUtf8 (errorContent code message requestId).dumps) = some requestId := by
  rw [errorRequestId, jsonOf_dumps]
  rfl

end TicketReservation.Http
