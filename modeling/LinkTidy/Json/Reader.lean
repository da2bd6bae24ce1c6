import LinkTidy.Json.Fault
/-!
Reading JSON strictly. Readers take the text from where they start and return what they read with the text behind it.
Values that nobody asks for are passed over: they must be well formed, but the surrogates in their strings need not
pair.
-/

set_option autoImplicit false

namespace LinkTidy.Json

def isSpace (c : Char) : Bool :=
  c = ' ' || c = '\n' || c = '\t' || c = '\r'

def dropSpace (text : Text) : Text :=
  text.dropWhile isSpace

def faultAt {α : Type} (reason : Reason) (rest : Text) : Except Fault α :=
  .error ⟨reason, rest, true⟩

def faultBehind {α : Type} (reason : Reason) (rest : Text) : Except Fault α :=
  .error ⟨reason, rest, false⟩

def shortEscape? : Char → Option Char
  | '"' => some '"'
  | '\\' => some '\\'
  | '/' => some '/'
  | 'b' => some '\x08'
  | 'f' => some '\x0C'
  | 'n' => some '\n'
  | 'r' => some '\r'
  | 't' => some '\t'
  | _ => none

def isHighSurrogate (n : Nat) : Bool := 0xD800 ≤ n && n ≤ 0xDBFF

def isLowSurrogate (n : Nat) : Bool := 0xDC00 ≤ n && n ≤ 0xDFFF

def pairedSurrogates (high low : Nat) : Char :=
  Char.ofNat ((high - 0xD800) * 0x400 + (low - 0xDC00) + 0x10000)

def prepend (c : Char) : Except Fault (Text × Text) → Except Fault (Text × Text)
  | .ok (text, rest) => .ok (c :: text, rest)
  | .error fault => .error fault

def readString : Text → Except Fault (Text × Text)
  | [] => faultBehind .endInString []
  | '"' :: rest => .ok ([], rest)
  | '\\' :: 'u' :: a :: b :: c :: d :: rest =>
      match hexNumber? 0 [a, b, c, d] with
      | none => faultBehind .badEscape rest
      | some n =>
          if isLowSurrogate n then faultBehind .loneSurrogate rest
          else if isHighSurrogate n then
            match rest with
            | '\\' :: 'u' :: e :: f :: g :: h :: behind =>
                match hexNumber? 0 [e, f, g, h] with
                | none => faultBehind .badEscape behind
                | some low =>
                    if isLowSurrogate low then prepend (pairedSurrogates n low) (readString behind)
                    else faultBehind .loneSurrogate behind
            | '\\' :: 'u' :: _ => faultBehind .endInString []
            | '\\' :: _ :: behind => faultBehind .badHexEnd behind
            | ['\\'] | [] => faultBehind .endInString []
            | _ :: behind => faultBehind .badHexEnd behind
          else prepend (Char.ofNat n) (readString rest)
  | '\\' :: 'u' :: _ => faultBehind .endInString []
  | '\\' :: c :: rest =>
      match shortEscape? c with
      | some char => prepend char (readString rest)
      | none => faultBehind .badEscape rest
  | ['\\'] => faultBehind .endInString []
  | c :: rest => if c.toNat < 0x20 then faultBehind .controlCharacter rest else prepend c (readString rest)

def skipString : Text → Except Fault Text
  | [] => faultBehind .endInString []
  | '"' :: rest => .ok rest
  | '\\' :: 'u' :: a :: b :: c :: d :: rest =>
      if (hexNumber? 0 [a, b, c, d]).isSome then skipString rest else faultBehind .badEscape rest
  | '\\' :: 'u' :: _ => faultBehind .endInString []
  | '\\' :: c :: rest => if (shortEscape? c).isSome then skipString rest else faultBehind .badEscape rest
  | ['\\'] => faultBehind .endInString []
  | c :: rest => if c.toNat < 0x20 then faultBehind .controlCharacter rest else skipString rest

def skipWord : Text → Text → Except Fault Text
  | [], text => .ok text
  | _ :: _, [] => faultBehind .endInValue []
  | c :: word, d :: rest => if c = d then skipWord word rest else faultBehind .expectedWord rest

def dropDigits (text : Text) : Text :=
  text.dropWhile Char.isDigit

/-- Passes over the exponent of a number behind its `e`. `ending` is the fault of a number that the text cuts off. -/
def skipExponent (ending : Reason) (text : Text) : Except Fault Text :=
  let start := match text with
    | '+' :: rest | '-' :: rest => rest
    | _ => text
  match start with
  | d :: rest => if d.isDigit then .ok (dropDigits rest) else faultBehind .badNumber rest
  | [] => faultBehind ending []

def skipFraction (ending : Reason) (text : Text) : Except Fault Text :=
  match text with
  | '.' :: rest =>
      match rest with
      | d :: _ =>
          if d.isDigit then
            match dropDigits rest with
            | 'e' :: behind | 'E' :: behind => skipExponent ending behind
            | behind => .ok behind
          else faultAt .badNumber rest
      | [] => faultAt ending []
  | 'e' :: rest | 'E' :: rest => skipExponent ending rest
  | _ => .ok text

/-- Passes over a number without its sign. A zero in front may only stand alone. -/
def skipNumber (ending : Reason) (text : Text) : Except Fault Text :=
  match text with
  | '0' :: d :: rest => if d.isDigit then faultAt .badNumber (d :: rest) else skipFraction ending (d :: rest)
  | ['0'] => .ok []
  | d :: rest => if d.isDigit then skipFraction ending (dropDigits rest) else faultBehind .badNumber rest
  | [] => faultBehind ending []

mutual
def skipValue : Nat → Text → Except Fault Text
  | 0, text => faultAt .endInValue text
  | fuel + 1, text =>
      match dropSpace text with
      | [] => faultAt .endInValue []
      | 'n' :: rest => skipWord "ull".toList rest
      | 't' :: rest => skipWord "rue".toList rest
      | 'f' :: rest => skipWord "alse".toList rest
      | '-' :: rest => skipNumber .badNumber rest
      | '"' :: rest => skipString rest
      | '[' :: rest =>
          match dropSpace rest with
          | ']' :: behind => .ok behind
          | [] => faultAt .endInList []
          | inside => skipElements fuel inside
      | '\x7b' :: rest =>
          match dropSpace rest with
          | '\x7d' :: behind => .ok behind
          | [] => faultAt .endInObject []
          | inside => skipMembers fuel inside
      | c :: rest => if c.isDigit then skipNumber .badNumber (c :: rest) else faultAt .expectedValue (c :: rest)
def skipElements : Nat → Text → Except Fault Text
  | 0, text => faultAt .endInList text
  | fuel + 1, text =>
      match skipValue fuel text with
      | .error fault => .error fault
      | .ok behind =>
          match dropSpace behind with
          | ',' :: rest => skipElements fuel rest
          | ']' :: rest => .ok rest
          | [] => faultAt .endInList []
          | rest => faultAt .expectedListEnd rest
def skipMembers : Nat → Text → Except Fault Text
  | 0, text => faultAt .endInObject text
  | fuel + 1, text =>
      match dropSpace text with
      | '"' :: rest =>
          match skipString rest with
          | .error fault => .error fault
          | .ok behind =>
              match dropSpace behind with
              | ':' :: value =>
                  match skipValue fuel value with
                  | .error fault => .error fault
                  | .ok after =>
                      match dropSpace after with
                      | ',' :: next => skipMembers fuel next
                      | '\x7d' :: next => .ok next
                      | [] => faultAt .endInObject []
                      | next => faultAt .expectedObjectEnd next
              | [] => faultAt .endInObject []
              | rest => faultAt .expectedColon rest
      | [] => faultAt .endInObject []
      | rest => faultAt .keyNotString rest
end

def skipAny (text : Text) : Except Fault Text :=
  skipValue (2 * text.length + 2) text

/-- A number as it is written: its sign, its text without the sign, and the text behind it. -/
structure Numeral where
  negative : Bool
  written : Text
  rest : Text
deriving DecidableEq, Repr

def readNumeral (negative : Bool) (text : Text) : Except Fault Numeral :=
  match skipNumber .endInValue text with
  | .ok rest => .ok ⟨negative, text.take (text.length - rest.length), rest⟩
  | .error fault => .error fault

def decimalValue (digits : Text) : Nat :=
  digits.foldl (fun value digit => value * 10 + (digit.toNat - '0'.toNat)) 0

/-- Whether a number is whole and fits a word of 64 bits, with a sign if it has one. There is no negative zero. -/
def Numeral.isWhole (number : Numeral) : Bool :=
  number.written.all Char.isDigit &&
    if number.negative then 0 < decimalValue number.written && decimalValue number.written ≤ UInt64.size / 2
    else decimalValue number.written < UInt64.size

def Numeral.name (number : Numeral) : Text :=
  (if number.isWhole then "integer `".toList else "floating point `".toList) ++
    (if number.negative then ['-'] else []) ++ number.written ++ "`".toList

def refuse {α : Type} (expected : Text) (text : Text) : Except Fault α :=
  let wrong (found rest : Text) : Except Fault α := faultBehind (.wrongType found expected) rest
  let word (name : String) (letters rest : Text) : Except Fault α := do
    let behind ← skipWord letters rest
    wrong name.toList behind
  let number (negative : Bool) (start : Text) : Except Fault α := do
    let number ← readNumeral negative start
    wrong number.name number.rest
  match text with
  | 'n' :: rest => word "null" "ull".toList rest
  | 't' :: rest => word "boolean `true`" "rue".toList rest
  | 'f' :: rest => word "boolean `false`" "alse".toList rest
  | '-' :: rest => number true rest
  | '"' :: rest => do
      let (found, behind) ← readString rest
      wrong ("string ".toList ++ ('"' :: found) ++ ['"']) behind
  | '[' :: _ => wrong "sequence".toList text
  | '\x7b' :: _ => wrong "map".toList text
  | c :: _ => if c.isDigit then number false text else faultAt .expectedValue text
  | [] => faultAt .endInValue []

def readText (expected : Text) (text : Text) : Except Fault (Text × Text) :=
  match dropSpace text with
  | [] => faultAt .endInValue []
  | '"' :: rest => readString rest
  | start => refuse expected start

/-- Reads the strings of a list behind its opening bracket; `first` says that none has been read. -/
def readTexts (expected : Text) : Nat → Bool → Text → Except Fault (List Text × Text)
  | 0, _, text => faultAt .endInList text
  | fuel + 1, first, text =>
      let element (start : Text) : Except Fault (List Text × Text) := do
        let (value, behind) ← readText expected start
        let (others, rest) ← readTexts expected fuel false behind
        .ok (value :: others, rest)
      match dropSpace text with
      | [] => faultAt .endInList []
      | ']' :: rest => .ok ([], rest)
      | ',' :: rest =>
          if first then element (',' :: rest)
          else match dropSpace rest with
            | ']' :: behind => faultAt .trailingComma (']' :: behind)
            | [] => faultAt .endInValue []
            | start => element start
      | start => if first then element start else faultAt .expectedListEnd start

def readTextList (text : Text) : Except Fault (List Text × Text) :=
  match dropSpace text with
  | [] => faultAt .endInValue []
  | '[' :: rest => readTexts "a string".toList (rest.length + 1) true rest
  | start => refuse "a sequence".toList start

def readWord (text : Text) : Except Fault (Nat × Text) :=
  let expected := "u64".toList
  match dropSpace text with
  | [] => faultAt .endInValue []
  | '-' :: rest => do
      let number ← readNumeral true rest
      let reason := if number.isWhole then Reason.wrongValue number.name expected
        else .wrongType number.name expected
      faultBehind reason number.rest
  | c :: rest =>
      if c.isDigit then do
        let number ← readNumeral false (c :: rest)
        if number.isWhole then .ok (decimalValue number.written, number.rest)
        else faultBehind (.wrongType number.name expected) number.rest
      else refuse expected (c :: rest)

end LinkTidy.Json
