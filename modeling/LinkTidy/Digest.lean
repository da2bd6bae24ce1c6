import LinkTidy.Text.Utf8
/-!
The digest of a filter list's bytes: the 64-bit xxHash with a fixed seed. It tells whether a list has changed since it
was last compiled.
-/

set_option autoImplicit false

namespace LinkTidy.Digest

def prime1 : UInt64 := 0x9E3779B185EBCA87
def prime2 : UInt64 := 0xC2B2AE3D27D4EB4F
def prime3 : UInt64 := 0x165667B19E3779F9
def prime4 : UInt64 := 0x85EBCA77C2B2AE63
def prime5 : UInt64 := 0x27D4EB2F165667C5

def seed : UInt64 := 0x9E3779B97F4A7C15

def rotateLeft (x : UInt64) (n : UInt64) : UInt64 :=
  (x <<< n) ||| (x >>> (64 - n))

def littleEndian : Bytes → UInt64
  | [] => 0
  | b :: rest => b.toUInt64 ||| (littleEndian rest <<< 8)

def round (acc lane : UInt64) : UInt64 :=
  rotateLeft (acc + lane * prime2) 31 * prime1

structure Lanes where
  a : UInt64
  b : UInt64
  c : UInt64
  d : UInt64
deriving DecidableEq, Repr

def Lanes.start : Lanes where
  a := seed + prime1 + prime2
  b := seed + prime2
  c := seed
  d := seed - prime1

def Lanes.stripe (lanes : Lanes) (bytes : Bytes) : Lanes where
  a := round lanes.a (littleEndian (bytes.take 8))
  b := round lanes.b (littleEndian ((bytes.drop 8).take 8))
  c := round lanes.c (littleEndian ((bytes.drop 16).take 8))
  d := round lanes.d (littleEndian ((bytes.drop 24).take 8))

def Lanes.stripes : Nat → Lanes → Bytes → Lanes × Bytes
  | 0, lanes, bytes => (lanes, bytes)
  | n + 1, lanes, bytes => stripes n (lanes.stripe (bytes.take 32)) (bytes.drop 32)

def mergeLane (acc lane : UInt64) : UInt64 :=
  (acc ^^^ round 0 lane) * prime1 + prime4

def Lanes.merge (lanes : Lanes) : UInt64 :=
  let sum := rotateLeft lanes.a 1 + rotateLeft lanes.b 7 + rotateLeft lanes.c 12 + rotateLeft lanes.d 18
  [lanes.a, lanes.b, lanes.c, lanes.d].foldl mergeLane sum

def mixEights : Nat → UInt64 → Bytes → UInt64 × Bytes
  | 0, acc, bytes => (acc, bytes)
  | n + 1, acc, bytes =>
      mixEights n (rotateLeft (acc ^^^ round 0 (littleEndian (bytes.take 8))) 27 * prime1 + prime4) (bytes.drop 8)

def mixFour (acc : UInt64) (bytes : Bytes) : UInt64 × Bytes :=
  if 4 ≤ bytes.length then
    (rotateLeft (acc ^^^ littleEndian (bytes.take 4) * prime1) 23 * prime2 + prime3, bytes.drop 4)
  else (acc, bytes)

def mixByte (acc : UInt64) (b : UInt8) : UInt64 :=
  rotateLeft (acc ^^^ b.toUInt64 * prime5) 11 * prime1

def avalanche (acc : UInt64) : UInt64 :=
  let x := (acc ^^^ (acc >>> 33)) * prime2
  let y := (x ^^^ (x >>> 29)) * prime3
  y ^^^ (y >>> 32)

def hash (bytes : Bytes) : UInt64 :=
  let (lanes, tail) := Lanes.stripes (bytes.length / 32) .start bytes
  let start := if 32 ≤ bytes.length then lanes.merge else seed + prime5
  let (eights, rest) := mixEights (tail.length / 8) (start + bytes.length.toUInt64) tail
  let (four, last) := mixFour eights rest
  avalanche (last.foldl mixByte four)

/-- The last `count` hexadecimal digits of a number, in lower case. -/
def hexDigits : Nat → Nat → Text
  | 0, _ => []
  | count + 1, n => hexDigits count (n / 16) ++ [Nat.digitChar (n % 16)]

def contentHash (bytes : Bytes) : Text :=
  hexDigits 16 (hash bytes).toNat

end LinkTidy.Digest
