import LinkTidy.Text
/-!
UTF-8: the bytes of a text, and the strict reading of bytes as text. A refusal says how long the longest readable
start of the input is and how many of the following bytes are at fault.
-/

set_option autoImplicit false

namespace LinkTidy

abbrev Bytes := List UInt8

namespace Utf8

def encode (text : Text) : Bytes :=
  text.flatMap String.utf8EncodeChar

structure Fault where
  /-- The length of the longest readable start. -/
  validUpTo : Nat
  /-- The number of bytes that cannot begin a character; `none` if the input ends inside a character. -/
  width : Option Nat
deriving DecidableEq, Repr

def Fault.shift (n : Nat) (fault : Fault) : Fault :=
  { fault with validUpTo := n + fault.validUpTo }

def continuation? (b : UInt8) : Option Nat :=
  if 0x80 ≤ b ∧ b ≤ 0xBF then some (b.toNat - 0x80) else none

/-- What a first byte announces: the number of bytes that follow, its payload bits, and the bounds of the second byte
that keep out overlong forms, surrogates and numbers past the last character. -/
inductive Lead where
  | ascii
  | many (following payload low high : Nat)
  | never
deriving DecidableEq, Repr

def lead (b : UInt8) : Lead :=
  if b < 0x80 then .ascii
  else if b < 0xC2 then .never
  else if b < 0xE0 then .many 1 (b.toNat - 0xC0) 0x80 0xBF
  else if b = 0xE0 then .many 2 0 0xA0 0xBF
  else if b = 0xED then .many 2 0xD 0x80 0x9F
  else if b < 0xF0 then .many 2 (b.toNat - 0xE0) 0x80 0xBF
  else if b = 0xF0 then .many 3 0 0x90 0xBF
  else if b < 0xF4 then .many 3 (b.toNat - 0xF0) 0x80 0xBF
  else if b = 0xF4 then .many 3 4 0x80 0x8F
  else .never

def decode : Bytes → Except Fault Text
  | [] => .ok []
  | b :: rest =>
      match lead b with
      | .never => .error ⟨0, some 1⟩
      | .ascii => take b.toNat 1 (decode rest)
      | .many following payload low high =>
          match rest with
          | [] => .error ⟨0, none⟩
          | b₁ :: rest₁ =>
              if b₁.toNat < low ∨ high < b₁.toNat then .error ⟨0, some 1⟩
              else
                let code₁ := payload * 64 + (b₁.toNat - 0x80)
                if following = 1 then take code₁ 2 (decode rest₁)
                else match rest₁ with
                  | [] => .error ⟨0, none⟩
                  | b₂ :: rest₂ =>
                      match continuation? b₂ with
                      | none => .error ⟨0, some 2⟩
                      | some bits₂ =>
                          let code₂ := code₁ * 64 + bits₂
                          if following = 2 then take code₂ 3 (decode rest₂)
                          else match rest₂ with
                            | [] => .error ⟨0, none⟩
                            | b₃ :: rest₃ =>
                                match continuation? b₃ with
                                | none => .error ⟨0, some 3⟩
                                | some bits₃ => take (code₂ * 64 + bits₃) 4 (decode rest₃)
where
  take (code width : Nat) (tail : Except Fault Text) : Except Fault Text :=
    match tail with
    | .ok text => .ok (Char.ofNat code :: text)
    | .error fault => .error (fault.shift width)

def Fault.message (fault : Fault) : Text :=
  match fault.width with
  | some n =>
      s!"invalid utf-8 sequence of {n} bytes from index {fault.validUpTo}".toList
  | none => s!"incomplete utf-8 byte sequence from index {fault.validUpTo}".toList

end Utf8
end LinkTidy
