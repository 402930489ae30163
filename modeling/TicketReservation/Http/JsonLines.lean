/-
  Streams of JSON objects, one on each line.

  An object is flat: its values are strings and numbers.  The writer is Python's
  `json.dumps(fields, ensure_ascii=False)`, which puts a blank after each comma
  and colon, and ends each line with a line feed.  A number is its text, so that
  the format of floats does not matter.

  * `readObject_writeObject`: an object is read back;
  * `newline_not_mem_writeObject`: whatever its strings are, it is on one line;
  * `readLines_writeLines`: so is a stream; `readLines_take`: what is read of a
    stream that was cut off are the objects whose lines are complete.
-/
import TicketReservation.Http.Json
import Mathlib.Data.List.TakeWhile

namespace JsonLines

open Json

/-! ## Objects -/

/-- A character of a number. -/
def isNumberChar (c : Char) : Bool := c.isDigit || ['-', '+', '.', 'e', 'E'].contains c

/-- The text of a number. -/
structure NumberText where
  text : List Char
  ne_nil : text ≠ []
  chars : ∀ c ∈ text, isNumberChar c = true
  deriving DecidableEq, Repr

/-- The decimal digits of a natural number. -/
def NumberText.ofNat (n : ℕ) : NumberText where
  text := Nat.toDigits 10 n
  ne_nil := Nat.toDigits_ne_nil
  chars c hc := by
    rw [isNumberChar, Nat.isDigit_of_mem_toDigits (by decide) (by decide) hc, Bool.true_or]

inductive Scalar where
  | str (s : String)
  | num (n : NumberText)
  deriving DecidableEq, Repr

/-- The fields of an object, in their order. -/
abbrev Fields := List (String × Scalar)

def valueOf (key : String) (fields : Fields) : Option Scalar :=
  (fields.find? fun f => f.1 = key).map Prod.snd

/-! ## Writing -/

def Scalar.write : Scalar → List Char
  | str s => writeString s
  | num n => n.text

def writeField (field : String × Scalar) : List Char :=
  writeString field.1 ++ ':' :: ' ' :: field.2.write

/-- The fields after the first one and the closing brace. -/
def writeFields : Fields → List Char
  | [] => ['\x7d']
  | field :: fields => ',' :: ' ' :: (writeField field ++ writeFields fields)

def writeObject : Fields → List Char
  | [] => ['\x7b', '\x7d']
  | field :: fields => '\x7b' :: (writeField field ++ writeFields fields)

/-- Each object on a line of its own. -/
def writeLines (objects : List Fields) : List Char :=
  objects.flatMap fun fields => writeObject fields ++ ['\n']

/-! ## Reading -/

def readScalar : List Char → Option (Scalar × List Char)
  | '\"' :: cs => (readString cs).map fun p => (.str (String.ofList p.1), p.2)
  | cs =>
    if h : cs.takeWhile isNumberChar ≠ [] then
      some (.num ⟨cs.takeWhile isNumberChar, h, fun _ => List.mem_takeWhile_imp⟩,
        cs.dropWhile isNumberChar)
    else none

def readField : List Char → Option ((String × Scalar) × List Char)
  | '\"' :: cs => do
    match ← readString cs with
    | (key, ':' :: ' ' :: cs) => (readScalar cs).map fun p => ((String.ofList key, p.1), p.2)
    | _ => none
  | _ => none

/-- The fields after the first one and the closing brace.  The number bounds the recursion. -/
def readFields : ℕ → List Char → Option (Fields × List Char)
  | 0, _ => none
  | n + 1, cs =>
    match cs with
    | '\x7d' :: cs => some ([], cs)
    | ',' :: ' ' :: cs => do
      let (field, cs) ← readField cs
      (readFields n cs).map fun p => (field :: p.1, p.2)
    | _ => none

/-- The object that a line is. -/
def readObject (line : List Char) : Option Fields :=
  match line with
  | ['\x7b', '\x7d'] => some []
  | '\x7b' :: cs => do
    let (field, cs) ← readField cs
    match ← readFields line.length cs with
    | (fields, []) => some (field :: fields)
    | _ => none
  | _ => none

/-- The objects of a stream; an unfinished last line is left out. -/
def readLines (cs : List Char) : Option (List Fields) := (cs.splitOn '\n').dropLast.mapM readObject

/-! ## An object is read back -/

/-- What follows a value in an object. -/
def NumberText.Ends (rest : List Char) : Prop := ∀ c ∈ rest.head?, isNumberChar c = false

theorem readScalar_write (v : Scalar) {rest : List Char} (h : NumberText.Ends rest) :
    readScalar (v.write ++ rest) = some (v, rest) := by
  cases v with
  | str s =>
    rw [Scalar.write, writeString_append, readScalar, readString_escapeAll]
    simp
  | num n =>
    have hquote : ∀ cs, n.text ++ rest ≠ '\"' :: cs := by
      intro cs heq
      obtain ⟨c, cs', htext⟩ := List.exists_cons_of_ne_nil n.ne_nil
      have hc := n.chars c (by simp [htext])
      rw [htext] at heq
      cases heq
      exact absurd hc (by decide)
    have htake : (n.text ++ rest).takeWhile isNumberChar = n.text := by
      rw [List.takeWhile_append_of_pos n.chars]
      cases rest with
      | nil => simp
      | cons c rest => simp [h c rfl]
    have hdrop : (n.text ++ rest).dropWhile isNumberChar = rest := by
      rw [List.dropWhile_append_of_pos n.chars]
      cases rest with
      | nil => rfl
      | cons c rest => simp [h c rfl]
    rw [Scalar.write, readScalar]
    · simp only [htake, hdrop, ne_eq, n.ne_nil, not_false_eq_true, dite_true]
    · exact hquote

theorem readField_write (field : String × Scalar) {rest : List Char} (h : NumberText.Ends rest) :
    readField (writeField field ++ rest) = some (field, rest) := by
  rw [writeField, List.append_assoc, writeString_append, readField]
  simp only [readString_escapeAll, List.cons_append, Option.bind_eq_bind, Option.bind_some,
    readScalar_write _ h, Option.map_some, String.ofList_toList]

theorem ends_writeFields (fields : Fields) (rest : List Char) :
    NumberText.Ends (writeFields fields ++ rest) := by
  cases fields <;> simp [writeFields, NumberText.Ends] <;> decide

theorem readFields_write (fields : Fields) {n : ℕ} (h : fields.length < n) :
    readFields n (writeFields fields) = some (fields, []) := by
  induction fields generalizing n with
  | nil =>
    obtain ⟨n, rfl⟩ := Nat.exists_eq_add_one_of_ne_zero (Nat.ne_zero_of_lt h)
    rfl
  | cons field fields ih =>
    obtain ⟨n, rfl⟩ := Nat.exists_eq_add_one_of_ne_zero (Nat.ne_zero_of_lt h)
    have hends := ends_writeFields fields []
    rw [List.append_nil] at hends
    rw [writeFields, readFields]
    simp only [readField_write field hends, Option.bind_eq_bind, Option.bind_some,
      ih (Nat.lt_of_succ_lt_succ h), Option.map_some]

theorem length_lt_writeFields (fields : Fields) : fields.length < (writeFields fields).length := by
  induction fields with
  | nil => simp [writeFields]
  | cons field fields ih =>
    simp only [writeFields, List.length_cons, List.length_append]
    omega

/-- **An object is read back.** -/
theorem readObject_writeObject (fields : Fields) :
    readObject (writeObject fields) = some fields := by
  cases fields with
  | nil => rfl
  | cons field fields =>
    have hends := ends_writeFields fields []
    rw [List.append_nil] at hends
    have hlen := length_lt_writeFields fields
    rw [writeObject, readObject]
    · rw [readField_write field hends]
      simp only [Option.bind_eq_bind, Option.bind_some]
      rw [readFields_write fields (by simp only [List.length_cons, List.length_append]; omega)]
      rfl
    · simp [writeField, writeString]

/-! ## A stream is read back -/

theorem newline_not_mem_escape (c : Char) : '\n' ∉ escape c := by
  unfold escape
  cases h : shortEscapes.lookup c with
  | some e =>
    have hall : ∀ p ∈ shortEscapes, p.2 ≠ '\n' := by decide
    obtain ⟨before, after, heq, -⟩ := List.lookup_eq_some_iff.1 h
    have he : e ≠ '\n' := hall (c, e) (heq ▸ List.mem_append_right _ List.mem_cons_self)
    simp [he.symm]
  | none =>
    have hdigit : ∀ n < 16, Nat.digitChar n ≠ '\n' := by decide
    dsimp only
    split_ifs with hc
    · have h₁ := hdigit (c.toNat / 16) (by omega)
      have h₀ := hdigit (c.toNat % 16) (by omega)
      simp [h₁.symm, h₀.symm]
    · have hne : c ≠ '\n' := by
        rintro rfl
        exact hc (by decide)
      simp [hne.symm]

theorem newline_not_mem_writeString (s : String) : '\n' ∉ writeString s := by
  simp only [writeString, escapeAll, List.cons_append, List.mem_cons, List.mem_append,
    List.mem_flatMap, not_or, not_exists, not_and]
  exact ⟨by decide, fun c _ => newline_not_mem_escape c, by decide, by simp⟩

theorem newline_not_mem_writeField (field : String × Scalar) : '\n' ∉ writeField field := by
  obtain ⟨key, value⟩ := field
  have hvalue : '\n' ∉ value.write := by
    cases value with
    | str s => exact newline_not_mem_writeString s
    | num n => exact fun h => absurd (n.chars _ h) (by decide)
  simp [writeField, newline_not_mem_writeString, hvalue]

/-- **An object is on one line**, whatever its strings are. -/
theorem newline_not_mem_writeObject (fields : Fields) : '\n' ∉ writeObject fields := by
  have hrest : ∀ fields, '\n' ∉ writeFields fields := by
    intro fields
    induction fields with
    | nil => simp [writeFields]
    | cons field fields ih => simp [writeFields, newline_not_mem_writeField, ih]
  cases fields with
  | nil => simp [writeObject]
  | cons field fields => simp [writeObject, newline_not_mem_writeField, hrest]

theorem count_writeObject (fields : Fields) : (writeObject fields).count '\n' = 0 :=
  List.count_eq_zero.2 (newline_not_mem_writeObject fields)

theorem count_writeLines (objects : List Fields) :
    (writeLines objects).count '\n' = objects.length := by
  induction objects with
  | nil => rfl
  | cons fields objects ih =>
    have hcons : writeLines (fields :: objects) =
        writeObject fields ++ '\n' :: writeLines objects := by simp [writeLines]
    rw [hcons, List.count_append, count_writeObject, List.count_cons_self, ih, Nat.zero_add,
      List.length_cons]

/-- A stream whose last line is not complete. -/
theorem count_writeLines_append (objects : List Fields) (fields : Fields) :
    (writeLines (objects ++ [fields])).dropLast.count '\n' = objects.length := by
  have hlast : writeLines (objects ++ [fields]) =
      (writeLines objects ++ writeObject fields) ++ ['\n'] := by simp [writeLines]
  rw [hlast, List.dropLast_concat, List.count_append, count_writeLines, count_writeObject,
    Nat.add_zero]

/-- A line and what follows it. -/
theorem readLines_append (fields : Fields) (cs : List Char) :
    readLines (writeObject fields ++ '\n' :: cs) = (readLines cs).map (fields :: ·) := by
  rw [readLines, List.splitOn_append_cons_self_of_not_mem (newline_not_mem_writeObject fields),
    List.dropLast_cons_of_ne_nil (List.splitOn_ne_nil _ _), List.mapM_cons,
    readObject_writeObject]
  rw [readLines]
  cases (cs.splitOn '\n').dropLast.mapM readObject <;> rfl

/-- **A stream is read back.** -/
theorem readLines_writeLines (objects : List Fields) :
    readLines (writeLines objects) = some objects := by
  induction objects with
  | nil => rfl
  | cons fields objects ih =>
    have hcons : writeLines (fields :: objects) =
        writeObject fields ++ '\n' :: writeLines objects := by simp [writeLines]
    rw [hcons, readLines_append, ih, Option.map_some]

/-- **Of a stream that was cut off, the complete lines are read**: as many as it has line feeds. -/
theorem readLines_take (objects : List Fields) (n : ℕ) :
    readLines ((writeLines objects).take n) =
      some (objects.take (((writeLines objects).take n).count '\n')) := by
  induction objects generalizing n with
  | nil => simp [writeLines, readLines]
  | cons fields objects ih =>
    have hcons : writeLines (fields :: objects) =
        writeObject fields ++ '\n' :: writeLines objects := by simp [writeLines]
    rw [hcons]
    rcases Nat.lt_or_ge (writeObject fields).length n with hn | hn
    · obtain ⟨m, rfl⟩ := Nat.exists_eq_add_of_lt hn
      rw [Nat.add_assoc, List.take_length_add_append, List.take_succ_cons, readLines_append, ih,
        List.count_append, count_writeObject, Nat.zero_add, List.count_cons_self,
        List.take_succ_cons, Option.map_some]
    · -- the cut is in the first line
      have hno : '\n' ∉ (writeObject fields).take n := fun h =>
        newline_not_mem_writeObject fields (List.mem_of_mem_take h)
      rw [List.take_append_of_le_length hn, readLines, List.splitOn_eq_singleton hno,
        List.count_eq_zero.2 hno]
      rfl

end JsonLines
