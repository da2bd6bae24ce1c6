import LinkTidy.Digest
import Mathlib.Algebra.Group.Nat.Defs
import Mathlib.Data.List.Basic
/-!
Digests are kept as their sixteen digits, and these tell the digests apart.
-/

set_option autoImplicit false

namespace LinkTidy.Digest

theorem digit_char_inj (a b : Nat) (aSmall : a < 16) (bSmall : b < 16) (same : a.digitChar = b.digitChar) : a = b := by
  have each : ∀ a < 16, ∀ b < 16, Nat.digitChar a = Nat.digitChar b → a = b := by decide
  exact each a aSmall b bSmall same

theorem hex_digits_inj (count a b : Nat) (aSmall : a < 16 ^ count) (bSmall : b < 16 ^ count)
    (same : hexDigits count a = hexDigits count b) : a = b := by
  induction count generalizing a b with
  | zero => omega
  | succ count ih =>
      rw [hexDigits, hexDigits] at same
      obtain ⟨front, last⟩ := List.append_inj' same rfl
      have low := digit_char_inj (a % 16) (b % 16) (by omega) (by omega) (List.cons.inj last).1
      have high := ih (a / 16) (b / 16) (by omega) (by omega) front
      omega

theorem content_hash_eq_iff (a b : Bytes) : contentHash a = contentHash b ↔ hash a = hash b := by
  constructor
  · intro same
    exact UInt64.toNat_inj.mp (hex_digits_inj 16 _ _ (hash a).toNat_lt (hash b).toNat_lt same)
  · intro same
    rw [contentHash, contentHash, same]

end LinkTidy.Digest
