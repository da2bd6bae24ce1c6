import LinkTidy.Proofs.Text.Utf8.Characters
import Mathlib.Data.List.Basic
/-!
Strict reading accepts the bytes of texts and no others, and a refusal tells how long the longest start is that writes a
text.
-/

set_option autoImplicit false

namespace LinkTidy.Utf8

theorem encode_cons (c : Char) (text : Text) : encode (c :: text) = String.utf8EncodeChar c ++ encode text :=
  List.flatMap_cons

-- Reading goes on behind a character that is there.
theorem decode_encoded (c : Char) (more : Bytes) :
    decode (String.utf8EncodeChar c ++ more) = decode.take c.toNat (String.utf8EncodeChar c).length (decode more) :=
  decode_writes _ _ more (encoded_writes c)

theorem decode_encode_append (text : Text) (more : Bytes) :
    decode (encode text ++ more) =
      match decode more with
      | .ok behind => .ok (text ++ behind)
      | .error fault => .error (fault.shift (encode text).length) := by
  induction text with
  | nil =>
      rw [encode, List.flatMap_nil, List.nil_append]
      cases decode more with
      | ok behind => rfl
      | error fault => simp [Fault.shift]
  | cons c rest ih =>
      rw [encode_cons, List.append_assoc, decode_encoded, ih]
      cases decode more with
      | ok behind => simp [decode.take]
      | error fault => simp [decode.take, Fault.shift, Nat.add_assoc]

-- A character, if there is one, and what stands behind it.
theorem begins_encoded (bytes : Bytes) (begins : Begins bytes) : ∃ c more, bytes = String.utf8EncodeChar c ++ more := by
  obtain ⟨n, char, more, rfl, writes⟩ := begins
  exact ⟨Char.ofNat n, more, by rw [writes_encoded n char writes]⟩

-- Reading takes characters off the bytes until nothing is left or the next one is at fault.
theorem decode_cases (bytes : Bytes) :
    (∃ text, bytes = encode text ∧ decode bytes = .ok text) ∨
      ∃ text more width, bytes = encode text ++ more ∧ decode bytes = .error ⟨(encode text).length, width⟩ := by
  induction count : bytes.length using Nat.strongRecOn generalizing bytes with
  | ind size ih =>
      cases bytes with
      | nil => exact .inl ⟨[], rfl, rfl⟩
      | cons b rest =>
          rcases starts_or_faults b rest with ⟨width, fault⟩ | begins
          · exact .inr ⟨[], b :: rest, width, rfl, fault⟩
          · obtain ⟨c, more, whole⟩ := begins_encoded _ begins
            have shorter : more.length < size := by
              have positive : 0 < (String.utf8EncodeChar c).length := List.length_pos_iff.mpr String.utf8EncodeChar_ne_nil
              rw [← count, whole, List.length_append]
              omega
            rw [whole, decode_encoded]
            rcases ih more.length shorter more rfl with ⟨text, rfl, read⟩ | ⟨text, behind, width, rfl, read⟩
            · exact .inl ⟨c :: text, (encode_cons c text).symm, by rw [read]; simp [decode.take]⟩
            · refine .inr ⟨c :: text, behind, width, by rw [encode_cons, List.append_assoc], ?_⟩
              rw [read, encode_cons, List.length_append]
              rfl

-- The bytes write a text.
def Valid (bytes : Bytes) : Prop :=
  ∃ text, encode text = bytes

-- The number is the length of the longest start of the bytes that writes a text.
def LongestValid (bytes : Bytes) (n : Nat) : Prop :=
  (∃ start, start <+: bytes ∧ Valid start ∧ start.length = n) ∧
    ∀ start, start <+: bytes → Valid start → start.length ≤ n

theorem decode_encode (text : Text) : decode (encode text) = .ok text := by
  have read := decode_encode_append text []
  rw [List.append_nil] at read
  rw [read, decode]
  change Except.ok (text ++ []) = _
  rw [List.append_nil]

theorem decode_ok_iff (bytes : Bytes) (text : Text) : decode bytes = .ok text ↔ encode text = bytes := by
  constructor
  · intro read
    rcases decode_cases bytes with ⟨other, rfl, same⟩ | ⟨_, _, _, _, fault⟩
    · rw [same] at read
      rw [Except.ok.inj read]
    · rw [fault] at read
      cases read
  · rintro rfl
    exact decode_encode text

theorem decode_longest (bytes : Bytes) (fault : Fault) (refused : decode bytes = .error fault) :
    LongestValid bytes fault.validUpTo := by
  constructor
  · rcases decode_cases bytes with ⟨_, _, read⟩ | ⟨text, more, width, whole, same⟩
    · rw [refused] at read
      cases read
    · rw [refused] at same
      cases same
      exact ⟨encode text, ⟨more, whole.symm⟩, ⟨text, rfl⟩, rfl⟩
  · -- Reading goes on behind any start that writes a text, so the fault lies behind it.
    rintro start ⟨more, rfl⟩ ⟨text, rfl⟩
    rw [decode_encode_append] at refused
    cases behind : decode more with
    | ok text => rw [behind] at refused; cases refused
    | error later =>
        rw [behind] at refused
        cases refused
        exact Nat.le_add_right _ _

theorem decode_refused_iff (bytes : Bytes) : (∃ fault, decode bytes = .error fault) ↔ ¬ Valid bytes := by
  constructor
  · rintro ⟨fault, refused⟩ ⟨text, rfl⟩
    rw [decode_encode] at refused
    cases refused
  · intro invalid
    cases read : decode bytes with
    | ok text => exact absurd ⟨text, (decode_ok_iff bytes text).mp read⟩ invalid
    | error fault => exact ⟨fault, rfl⟩

instance (bytes : Bytes) : Decidable (Valid bytes) :=
  match read : decode bytes with
  | .ok text => .isTrue ⟨text, (decode_ok_iff bytes text).mp read⟩
  | .error fault => .isFalse ((decode_refused_iff bytes).mp ⟨fault, read⟩)

theorem encode_append (a b : Text) : encode (a ++ b) = encode a ++ encode b :=
  List.flatMap_append

theorem encode_length (text : Text) : (encode text).length = byteLength text := by
  induction text with
  | nil => rfl
  | cons c rest ih => rw [encode_cons, List.length_append, ih, String.length_utf8EncodeChar, byteLength]

-- The byte of a character of one byte stands for nothing else.
theorem ascii_encoded (sign : Char) (ascii : sign.toNat < 128) (c : Char)
    (inside : sign.toUInt8 ∈ String.utf8EncodeChar c) : c = sign := by
  have number : sign.toUInt8.toNat = sign.toNat := by
    have small : sign.val.toNat < 128 := ascii
    change sign.val.toUInt8.toNat = sign.val.toNat
    rw [UInt32.toNat_toUInt8, Nat.mod_eq_of_lt (by omega)]
  rcases encoded_sizes c with ⟨_, bytes⟩ | ⟨_, high⟩
  · rw [bytes, List.mem_singleton] at inside
    apply Char.toNat_inj.mp
    rw [← number, inside, UInt8.toNat_ofNat']
    omega
  · have large := high _ inside
    omega

theorem ascii_absent (sign : Char) (ascii : sign.toNat < 128) (text : Text) (plain : sign ∉ text) :
    sign.toUInt8 ∉ encode text := by
  intro inside
  obtain ⟨c, member, here⟩ := List.mem_flatMap.mp inside
  exact plain (ascii_encoded sign ascii c here ▸ member)

theorem line_feed_absent (text : Text) (plain : '\n' ∉ text) : 10 ∉ encode text :=
  ascii_absent '\n' (by decide) text plain

theorem valid_before_line_feed (bytes : Bytes) (valid : Valid (bytes ++ [10])) : Valid bytes := by
  obtain ⟨text, encoded⟩ := valid
  rcases List.eq_nil_or_concat text with rfl | ⟨front, c, rfl⟩
  · exact absurd encoded.symm (List.append_ne_nil_of_right_ne_nil _ (List.cons_ne_nil _ _))
  · have last : encode [c] = String.utf8EncodeChar c := List.flatMap_singleton _ _
    rw [List.concat_eq_append, encode_append, last] at encoded
    have ends : (String.utf8EncodeChar c).getLast? = some 10 := by
      have whole := congrArg List.getLast? encoded
      rwa [List.getLast?_append_of_ne_nil _ String.utf8EncodeChar_ne_nil, List.getLast?_concat] at whole
    have feed : c = '\n' := ascii_encoded '\n' (by decide) c (List.mem_of_getLast? ends)
    subst feed
    exact ⟨front, List.append_cancel_right encoded⟩

end LinkTidy.Utf8
