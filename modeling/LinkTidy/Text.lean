/-!
Text as a list of characters, measured in the bytes of its encoding, and the cuts that the rest of the library
makes in it: at a separator, at the first occurrence of a word, at a byte offset, at line ends. Hexadecimal digits as
the readers of patterns and of JSON take them.
-/

set_option autoImplicit false

namespace LinkTidy

abbrev Text := List Char

def byteLength : Text → Nat
  | [] => 0
  | c :: rest => c.utf8Size + byteLength rest

theorem byte_length_append (a b : Text) : byteLength (a ++ b) = byteLength a + byteLength b := by
  induction a with
  | nil => simp [byteLength]
  | cons c rest ih => simp [byteLength, ih, Nat.add_assoc]

/-- Cuts a list at every separator: `n` separators give `n + 1` fields, empty ones included. -/
def fields {α : Type} [DecidableEq α] (sep : α) : List α → List (List α)
  | [] => [[]]
  | x :: rest =>
      if x = sep then [] :: fields sep rest
      else match fields sep rest with
        | [] => [[x]]
        | field :: others => (x :: field) :: others

theorem fields_ne_nil {α : Type} [DecidableEq α] (sep : α) (xs : List α) : fields sep xs ≠ [] := by
  cases xs with
  | nil => simp [fields]
  | cons x rest =>
      by_cases same : x = sep
      · simp [fields, same]
      · simp only [fields, if_neg same]
        split <;> simp

def occursIn (word : Text) : Text → Bool
  | [] => word.isEmpty
  | c :: rest => word.isPrefixOf (c :: rest) || occursIn word rest

def cutAt? (word : Text) : Text → Option (Text × Text)
  | [] => if word.isEmpty then some ([], []) else none
  | c :: rest =>
      match word.isPrefixOf? (c :: rest) with
      | some after => some ([], after)
      | none => (cutAt? word rest).map fun (before, after) => (c :: before, after)

/-- The two parts of a text around a byte offset; `none` inside a character and past the end. -/
def cutAtByte? : Nat → Text → Option (Text × Text)
  | 0, text => some ([], text)
  | _ + 1, [] => none
  | offset + 1, c :: rest =>
      if c.utf8Size ≤ offset + 1 then
        (cutAtByte? (offset + 1 - c.utf8Size) rest).map fun (before, after) => (c :: before, after)
      else none

def dropLastChar (c : Char) (text : Text) : Text :=
  if text.getLast? = some c then text.dropLast else text

/-- Turns the fields between line feeds into lines: every field but the last was ended by a line feed and loses a
carriage return before it; the last one is a line only if something stands in it. -/
def endLines : List Text → List Text
  | [] => []
  | [last] => if last.isEmpty then [] else [last]
  | line :: next :: others => dropLastChar '\r' line :: endLines (next :: others)

def lines (text : Text) : List Text :=
  endLines (fields '\n' text)

def unlines (texts : List Text) : Text :=
  texts.flatMap (· ++ ['\n'])

def hexDigit? (c : Char) : Option Nat :=
  if '0' ≤ c ∧ c ≤ '9' then some (c.toNat - '0'.toNat)
  else if 'a' ≤ c ∧ c ≤ 'f' then some (c.toNat - 'a'.toNat + 10)
  else if 'A' ≤ c ∧ c ≤ 'F' then some (c.toNat - 'A'.toNat + 10)
  else none

def hexNumber? : Nat → Text → Option Nat
  | value, [] => some value
  | value, c :: rest => (hexDigit? c).bind fun digit => hexNumber? (value * 16 + digit) rest

end LinkTidy
