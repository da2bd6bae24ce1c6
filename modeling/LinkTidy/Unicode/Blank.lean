import LinkTidy.Unicode.Ranges
/-!
White space: the characters that separate words and lines.
-/

set_option autoImplicit false

namespace LinkTidy.Unicode

def blankRanges : Ranges :=
  [
    0x9, 0xD, 0x20, 0x20, 0x85, 0x85, 0xA0, 0xA0, 0x1680, 0x1680, 0x2000, 0x200A, 0x2028, 0x2029, 0x202F, 0x202F,
    0x205F, 0x205F, 0x3000, 0x3000]

def isBlank (c : Char) : Bool :=
  covers blankRanges c.toNat

end LinkTidy.Unicode
