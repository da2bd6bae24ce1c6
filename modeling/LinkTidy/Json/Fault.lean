import LinkTidy.Text
/-!
What can be wrong with a JSON text, and where.
-/

set_option autoImplicit false

namespace LinkTidy.Json

inductive Reason where
  | endInValue | endInList | endInObject | endInString
  | expectedValue | expectedWord | expectedColon | expectedListEnd | expectedObjectEnd
  | keyNotString | trailingComma | trailingCharacters
  | badNumber | badEscape | badHexEnd | loneSurrogate | controlCharacter
  | wrongType (found expected : Text)
  | wrongValue (found expected : Text)
  | duplicateField (name : Text)
deriving DecidableEq, Repr

/-- A fault and the text that was left when it was found. `ahead` says that the next byte is the one at fault. -/
structure Fault where
  reason : Reason
  rest : Text
  ahead : Bool := false
deriving DecidableEq, Repr

def Reason.message : Reason → Text
  | .endInValue => "EOF while parsing a value".toList
  | .endInList => "EOF while parsing a list".toList
  | .endInObject => "EOF while parsing an object".toList
  | .endInString => "EOF while parsing a string".toList
  | .expectedValue => "expected value".toList
  | .expectedWord => "expected ident".toList
  | .expectedColon => "expected `:`".toList
  | .expectedListEnd => "expected `,` or `]`".toList
  | .expectedObjectEnd => "expected `,` or `\x7d`".toList
  | .keyNotString => "key must be a string".toList
  | .trailingComma => "trailing comma".toList
  | .trailingCharacters => "trailing characters".toList
  | .badNumber => "invalid number".toList
  | .badEscape => "invalid escape".toList
  | .badHexEnd => "unexpected end of hex escape".toList
  | .loneSurrogate => "lone leading surrogate in hex escape".toList
  | .controlCharacter => "control character (\\u0000-\\u001F) found while parsing a string".toList
  | .wrongType found expected => "invalid type: ".toList ++ found ++ ", expected ".toList ++ expected
  | .wrongValue found expected => "invalid value: ".toList ++ found ++ ", expected ".toList ++ expected
  | .duplicateField name => "duplicate field `".toList ++ name ++ "`".toList

/-- The line, counted from one, and the number of its bytes before the fault. -/
def Fault.position (fault : Fault) (whole : Text) : Nat × Nat :=
  let before := whole.take (whole.length - fault.rest.length)
  let line := before.reverse.takeWhile (· != '\n')
  (before.count '\n' + 1, byteLength line + (if fault.ahead && !fault.rest.isEmpty then 1 else 0))

def Fault.message (fault : Fault) (whole : Text) : Text :=
  let (line, column) := fault.position whole
  fault.reason.message ++ s!" at line {line} column {column}".toList

end LinkTidy.Json
