/-
  JSON texts of strings and objects.

  `dumps` is Python's `json.dumps(value, ensure_ascii=False, separators=(",", ":"))`
  and `loads` a reader of such texts: it knows the escapes of RFC 8259 but those
  of surrogates, and no white space between tokens.

  * `readString_escapeAll`: no character of a string closes its literal or is lost;
  * `loads_dumps`: what was written is read back.
-/
import Mathlib.Data.List.Basic
import Mathlib.Tactic.SplitIfs

/-- A JSON value without numbers, arrays and literals. -/
inductive Json where
  | str (s : String)
  | obj (fields : List (String × Json))

namespace Json

/-- The value of a field. -/
def get (key : String) : Json → Option Json
  | .str _ => none
  | .obj fields => (fields.find? fun f => f.1 = key).map Prod.snd

/-- The text that a value is. -/
def text : Json → Option String
  | .str s => some s
  | .obj _ => none

/-! ## Writing -/

/-- The characters that have an escape of two characters, with its second one. -/
def shortEscapes : List (Char × Char) :=
  [('\"', '\"'), ('\\', '\\'), ('\n', 'n'), ('\r', 'r'), ('\t', 't'), ('\x0c', 'f'), ('\x08', 'b')]

/-- A character in a string literal. -/
def escape (c : Char) : List Char :=
  match shortEscapes.lookup c with
  | some e => ['\\', e]
  | none =>
    if c.toNat < 0x20 then
      ['\\', 'u', '0', '0', Nat.digitChar (c.toNat / 16), Nat.digitChar (c.toNat % 16)]
    else [c]

def escapeAll (cs : List Char) : List Char := cs.flatMap escape

def writeString (s : String) : List Char := '\"' :: escapeAll s.toList ++ ['\"']

mutual
def write : Json → List Char
  | .str s => writeString s
  | .obj [] => ['\x7b', '\x7d']
  | .obj ((key, value) :: fields) =>
    '\x7b' :: writeString key ++ ':' :: write value ++ writeFields fields

/-- The fields after the first one and the closing brace. -/
def writeFields : List (String × Json) → List Char
  | [] => ['\x7d']
  | (key, value) :: fields => ',' :: writeString key ++ ':' :: write value ++ writeFields fields
end

def dumps (j : Json) : String := String.ofList j.write

/-! ## Reading -/

/-- The value of a hexadecimal digit. -/
def hexValue (c : Char) : Option ℕ :=
  if '0' ≤ c ∧ c ≤ '9' then some (c.toNat - '0'.toNat)
  else if 'a' ≤ c ∧ c ≤ 'f' then some (c.toNat - 'a'.toNat + 10)
  else if 'A' ≤ c ∧ c ≤ 'F' then some (c.toNat - 'A'.toNat + 10)
  else none

/-- The character with this code, unless it is a surrogate. -/
def charOf (n : ℕ) : Option Char := if n.isValidChar then some (Char.ofNat n) else none

/-- The character that follows a backslash. -/
def unescape (e : Char) : Option Char :=
  if e = '/' then some '/' else (shortEscapes.find? fun p => p.2 = e).map Prod.fst

/-- The character whose code has these hexadecimal digits. -/
def unescapeHex (h₃ h₂ h₁ h₀ : Char) : Option Char := do
  charOf ((((← hexValue h₃) * 16 + (← hexValue h₂)) * 16 + (← hexValue h₁)) * 16 + (← hexValue h₀))

/-- A string literal from after its opening quote on, and what follows it. -/
def readString : List Char → Option (List Char × List Char)
  | [] => none
  | c :: cs =>
    if c = '\"' then some ([], cs)
    else if c = '\\' then
      match cs with
      | [] => none
      | e :: cs =>
        if e = 'u' then
          match cs with
          | h₃ :: h₂ :: h₁ :: h₀ :: cs => do
            let x ← unescapeHex h₃ h₂ h₁ h₀
            (readString cs).map fun p => (x :: p.1, p.2)
          | _ => none
        else do
          let x ← unescape e
          (readString cs).map fun p => (x :: p.1, p.2)
    else if c.toNat < 0x20 then none
    else (readString cs).map fun p => (c :: p.1, p.2)

mutual
/-- A value and what follows it.  The number bounds the recursion. -/
def readValue : ℕ → List Char → Option (Json × List Char)
  | 0, _ => none
  | n + 1, cs =>
    match cs with
    | '\"' :: cs => (readString cs).map fun p => (.str (String.ofList p.1), p.2)
    | '\x7b' :: '\x7d' :: cs => some (.obj [], cs)
    | '\x7b' :: cs => do
      let (field, cs) ← readField n cs
      let (fields, cs) ← readFields n cs
      some (.obj (field :: fields), cs)
    | _ => none

def readField : ℕ → List Char → Option ((String × Json) × List Char)
  | 0, _ => none
  | n + 1, cs =>
    match cs with
    | '\"' :: cs => do
      match ← readString cs with
      | (key, ':' :: cs) => (readValue n cs).map fun p => ((String.ofList key, p.1), p.2)
      | _ => none
    | _ => none

/-- The fields after the first one and the closing brace. -/
def readFields : ℕ → List Char → Option (List (String × Json) × List Char)
  | 0, _ => none
  | n + 1, cs =>
    match cs with
    | '\x7d' :: cs => some ([], cs)
    | ',' :: cs => do
      let (field, cs) ← readField n cs
      (readFields n cs).map fun p => (field :: p.1, p.2)
    | _ => none
end

/-- The value that a text is. -/
def loads (s : String) : Option Json :=
  match readValue (s.toList.length + 1) s.toList with
  | some (j, []) => some j
  | _ => none

/-! ## What was written is read -/

theorem lookup_shortEscapes {c e : Char} (h : shortEscapes.lookup c = some e) :
    e ≠ 'u' ∧ unescape e = some c := by
  have hall : ∀ p ∈ shortEscapes, p.2 ≠ 'u' ∧ unescape p.2 = some p.1 := by decide
  obtain ⟨before, after, heq, -⟩ := List.lookup_eq_some_iff.1 h
  exact hall (c, e) (heq ▸ List.mem_append_right _ List.mem_cons_self)

theorem lookup_shortEscapes_eq_none {c : Char} (h : shortEscapes.lookup c = none) :
    c ≠ '\"' ∧ c ≠ '\\' := by
  constructor <;> rintro rfl <;> cases h

theorem unescapeHex_control : ∀ n < 0x20,
    unescapeHex '0' '0' (Nat.digitChar (n / 16)) (Nat.digitChar (n % 16)) = some (Char.ofNat n) := by
  decide

theorem readString_escape (c : Char) (rest : List Char) :
    readString (escape c ++ rest) = (readString rest).map fun p => (c :: p.1, p.2) := by
  unfold escape
  cases h : shortEscapes.lookup c with
  | some e =>
    obtain ⟨hu, he⟩ := lookup_shortEscapes h
    rw [readString.eq_def]
    simp only [List.cons_append, List.nil_append, Char.reduceEq, if_false, if_true, if_neg hu, he]
    rfl
  | none =>
    obtain ⟨hquote, hback⟩ := lookup_shortEscapes_eq_none h
    dsimp only
    split_ifs with hc
    · rw [readString.eq_def]
      simp only [List.cons_append, List.nil_append, Char.reduceEq, if_false, if_true,
        unescapeHex_control _ hc, Char.ofNat_toNat]
      rfl
    · rw [readString.eq_def]
      simp only [List.cons_append, List.nil_append, if_neg hquote, if_neg hback, if_neg hc]

/-- **No character of a string closes its literal or is lost.** -/
theorem readString_escapeAll (cs rest : List Char) :
    readString (escapeAll cs ++ '\"' :: rest) = some (cs, rest) := by
  induction cs with
  | nil =>
    rw [readString.eq_def]
    rfl
  | cons c cs ih =>
    rw [escapeAll, List.flatMap_cons, List.append_assoc, readString_escape, ← escapeAll, ih,
      Option.map_some]

/-- A string literal, from its opening quote on. -/
theorem writeString_append (s : String) (rest : List Char) :
    writeString s ++ rest = '\"' :: (escapeAll s.toList ++ '\"' :: rest) := by
  simp [writeString]

theorem readField_write {key : String} {value : Json} {n : ℕ} {rest : List Char}
    (h : readValue n (value.write ++ rest) = some (value, rest)) :
    readField (n + 1) (writeString key ++ ':' :: (value.write ++ rest)) =
      some ((key, value), rest) := by
  rw [writeString_append, readField]
  simp only [readString_escapeAll, Option.bind_eq_bind, Option.bind_some, h, Option.map_some,
    String.ofList_toList]

mutual
theorem readValue_write : ∀ (j : Json) (n : ℕ) (rest : List Char), j.write.length ≤ n →
    readValue n (j.write ++ rest) = some (j, rest)
  | .str s, n, rest, h => by
    obtain ⟨n, rfl⟩ : ∃ m, n = m + 1 := ⟨n - 1, by simp [write, writeString] at h; omega⟩
    rw [write, writeString_append, readValue]
    simp only [readString_escapeAll, Option.map_some, String.ofList_toList]
  | .obj [], n, rest, h => by
    obtain ⟨n, rfl⟩ : ∃ m, n = m + 1 := ⟨n - 1, by simp [write] at h; omega⟩
    rfl
  | .obj ((key, value) :: fields), n, rest, h => by
    simp only [write, writeString, List.length_append, List.length_cons] at h
    obtain ⟨n, rfl⟩ : ∃ m, n = m + 2 := ⟨n - 2, by omega⟩
    have hvalue := readValue_write value n (writeFields fields ++ rest) (by omega)
    have hfields := readFields_write fields (n + 1) rest (by omega)
    simp only [write, List.cons_append, List.append_assoc]
    rw [readValue]
    · simp only [readField_write hvalue, hfields, Option.bind_eq_bind, Option.bind_some]
    · simp [writeString_append]

theorem readFields_write : ∀ (fields : List (String × Json)) (n : ℕ) (rest : List Char),
    (writeFields fields).length ≤ n →
    readFields n (writeFields fields ++ rest) = some (fields, rest)
  | [], n, rest, h => by
    obtain ⟨n, rfl⟩ : ∃ m, n = m + 1 := ⟨n - 1, by simp [writeFields] at h; omega⟩
    rfl
  | (key, value) :: fields, n, rest, h => by
    simp only [writeFields, writeString, List.length_append, List.length_cons] at h
    obtain ⟨n, rfl⟩ : ∃ m, n = m + 2 := ⟨n - 2, by omega⟩
    have hvalue := readValue_write value n (writeFields fields ++ rest) (by omega)
    have hfields := readFields_write fields (n + 1) rest (by omega)
    simp only [writeFields, List.cons_append, List.append_assoc]
    rw [readFields]
    simp only [readField_write hvalue, hfields, Option.bind_eq_bind, Option.bind_some, Option.map_some]
end

/-- **What was written is read back.** -/
theorem loads_dumps (j : Json) : loads j.dumps = some j := by
  have h := readValue_write j (j.write.length + 1) [] (Nat.le_succ _)
  rw [List.append_nil] at h
  rw [loads, dumps, String.toList_ofList, h]

end Json
