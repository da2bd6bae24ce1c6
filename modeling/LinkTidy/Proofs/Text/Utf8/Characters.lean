import LinkTidy.Text.Utf8
import Mathlib.Tactic.Convert
/-!
The bytes of one character: the sequences that write a character, with its number, are those that encoding gives, and
reading takes such a sequence as the character or finds the start of the bytes at fault.
-/

set_option autoImplicit false

namespace LinkTidy.Utf8

-- The numbers that `lead` goes by.
theorem lead_numbers (b : UInt8) :
    lead b =
      if b.toNat < 0x80 then .ascii
      else if b.toNat < 0xC2 then .never
      else if b.toNat < 0xE0 then .many 1 (b.toNat - 0xC0) 0x80 0xBF
      else if b.toNat = 0xE0 then .many 2 0 0xA0 0xBF
      else if b.toNat = 0xED then .many 2 0xD 0x80 0x9F
      else if b.toNat < 0xF0 then .many 2 (b.toNat - 0xE0) 0x80 0xBF
      else if b.toNat = 0xF0 then .many 3 0 0x90 0xBF
      else if b.toNat < 0xF4 then .many 3 (b.toNat - 0xF0) 0x80 0xBF
      else if b.toNat = 0xF4 then .many 3 4 0x80 0x8F
      else .never := by
  simp only [lead, UInt8.lt_iff_toNat_lt, ← UInt8.toNat_inj, UInt8.reduceToNat]

theorem lead_two (b : UInt8) (range : 0xC2 ≤ b.toNat ∧ b.toNat < 0xE0) :
    lead b = .many 1 (b.toNat - 0xC0) 0x80 0xBF := by
  rw [lead_numbers, if_neg (by omega), if_neg (by omega), if_pos range.2]

theorem lead_three (b : UInt8) (range : 0xE0 ≤ b.toNat ∧ b.toNat < 0xF0) :
    lead b = .many 2 (b.toNat - 0xE0) (if b.toNat = 0xE0 then 0xA0 else 0x80)
      (if b.toNat = 0xED then 0x9F else 0xBF) := by
  rw [lead_numbers, if_neg (by omega), if_neg (by omega), if_neg (by omega)]
  by_cases least : b.toNat = 0xE0
  · simp [least]
  · by_cases most : b.toNat = 0xED
    · simp [most]
    · simp [least, most, range.2]

theorem lead_four (b : UInt8) (range : 0xF0 ≤ b.toNat ∧ b.toNat < 0xF5) :
    lead b = .many 3 (b.toNat - 0xF0) (if b.toNat = 0xF0 then 0x90 else 0x80)
      (if b.toNat = 0xF4 then 0x8F else 0xBF) := by
  rw [lead_numbers, if_neg (by omega), if_neg (by omega), if_neg (by omega), if_neg (by omega), if_neg (by omega),
    if_neg (by omega)]
  by_cases least : b.toNat = 0xF0
  · simp [least]
  · by_cases most : b.toNat = 0xF4
    · simp [most]
    · rw [if_neg least, if_pos (by omega), if_neg least, if_neg most]

theorem lead_never (b : UInt8) (range : 0x80 ≤ b.toNat ∧ b.toNat < 0xC2 ∨ 0xF5 ≤ b.toNat) : lead b = .never := by
  rw [lead_numbers, if_neg (by omega)]
  rcases range with low | high
  · rw [if_pos low.2]
  · rw [if_neg (by omega), if_neg (by omega), if_neg (by omega), if_neg (by omega), if_neg (by omega),
      if_neg (by omega), if_neg (by omega), if_neg (by omega)]

-- Whether a byte can stand behind another one in a character.
def IsTail (b : UInt8) : Prop := 0x80 ≤ b.toNat ∧ b.toNat ≤ 0xBF

theorem continuation_some_iff (b : UInt8) (bits : Nat) :
    continuation? b = some bits ↔ IsTail b ∧ bits = b.toNat - 0x80 := by
  simp only [continuation?, IsTail, UInt8.le_iff_toNat_le, UInt8.reduceToNat]
  split
  · rename_i tail
    simp [tail, eq_comm]
  · rename_i other
    simp [other]

-- The second byte is within the bounds that `lead` sets if it is a tail and keeps to the narrower bound, if there is one.
theorem second_inside (b b₁ : UInt8) (least most low high : Nat) (bounds : 0x80 ≤ low ∧ high ≤ 0xBF) :
    ¬ (b₁.toNat < (if b.toNat = least then low else 0x80) ∨ (if b.toNat = most then high else 0xBF) < b₁.toNat) ↔
      IsTail b₁ ∧ (b.toNat = least → low ≤ b₁.toNat) ∧ (b.toNat = most → b₁.toNat ≤ high) := by
  rw [IsTail]
  split <;> split <;> omega

-- The bytes that write a character, and its number.
inductive Writes : Nat → Bytes → Prop where
  | one (b : UInt8) (range : b.toNat < 0x80) : Writes b.toNat [b]
  | two (b b₁ : UInt8) (range : 0xC2 ≤ b.toNat ∧ b.toNat < 0xE0) (tail : IsTail b₁) :
      Writes ((b.toNat - 0xC0) * 64 + (b₁.toNat - 0x80)) [b, b₁]
  | three (b b₁ b₂ : UInt8) (range : 0xE0 ≤ b.toNat ∧ b.toNat < 0xF0) (tail : IsTail b₁)
      (least : b.toNat = 0xE0 → 0xA0 ≤ b₁.toNat) (most : b.toNat = 0xED → b₁.toNat ≤ 0x9F) (tail₂ : IsTail b₂) :
      Writes (((b.toNat - 0xE0) * 64 + (b₁.toNat - 0x80)) * 64 + (b₂.toNat - 0x80)) [b, b₁, b₂]
  | four (b b₁ b₂ b₃ : UInt8) (range : 0xF0 ≤ b.toNat ∧ b.toNat < 0xF5) (tail : IsTail b₁)
      (least : b.toNat = 0xF0 → 0x90 ≤ b₁.toNat) (most : b.toNat = 0xF4 → b₁.toNat ≤ 0x8F) (tail₂ : IsTail b₂)
      (tail₃ : IsTail b₃) :
      Writes ((((b.toNat - 0xF0) * 64 + (b₁.toNat - 0x80)) * 64 + (b₂.toNat - 0x80)) * 64 + (b₃.toNat - 0x80))
        [b, b₁, b₂, b₃]

theorem char_number (n : Nat) (valid : n.isValidChar) : (Char.ofNat n).val.toNat = n := by
  rw [Char.ofNat, dif_pos valid]
  rfl

theorem writes_encoded (n : Nat) (bytes : Bytes) (writes : Writes n bytes) :
    String.utf8EncodeChar (Char.ofNat n) = bytes := by
  have valid : n.isValidChar := by
    cases writes <;> simp only [IsTail, Nat.isValidChar] at * <;> omega
  rw [String.utf8EncodeChar]
  simp only [char_number n valid]
  cases writes with
  | one b range =>
      rw [if_pos (by omega)]
      simp
  | two b b₁ range tail =>
      rw [IsTail] at tail
      rw [if_neg (by omega), if_pos (by omega)]
      simp only [List.cons.injEq, ← UInt8.toNat_inj, UInt8.toNat_ofNat', and_true]
      omega
  | three b b₁ b₂ range tail least most tail₂ =>
      rw [IsTail] at tail tail₂
      rw [if_neg (by omega), if_neg (by omega), if_pos (by omega)]
      simp only [List.cons.injEq, ← UInt8.toNat_inj, UInt8.toNat_ofNat', and_true]
      omega
  | four b b₁ b₂ b₃ range tail least most tail₂ tail₃ =>
      rw [IsTail] at tail tail₂ tail₃
      rw [if_neg (by omega), if_neg (by omega), if_neg (by omega)]
      simp only [List.cons.injEq, ← UInt8.toNat_inj, UInt8.toNat_ofNat', and_true]
      omega

theorem encoded_writes (c : Char) : Writes c.toNat (String.utf8EncodeChar c) := by
  have valid : c.toNat.isValidChar := c.valid
  have number : c.val.toNat = c.toNat := rfl
  rw [Nat.isValidChar] at valid
  simp only [String.utf8EncodeChar, number]
  generalize c.toNat = n at valid
  -- The bytes are known by their numbers, and from these the number of the character is put together again.
  have named (m : Nat) : (UInt8.ofNat m).toNat = m % 256 := UInt8.toNat_ofNat'
  split
  · have first := named n
    have written := Writes.one (UInt8.ofNat n) (by omega)
    convert written using 1
    omega
  split
  · have first := named (n / 64 % 32 + 192)
    have tail := named (n % 64 + 128)
    have written := Writes.two _ _ (by rw [first]; omega) (by rw [IsTail, tail]; omega)
    rw [first, tail] at written
    convert written using 1
    omega
  split
  · have first := named (n / 4096 % 16 + 224)
    have tail := named (n / 64 % 64 + 128)
    have tail₂ := named (n % 64 + 128)
    have written := Writes.three _ _ _ (by rw [first]; omega) (by rw [IsTail, tail]; omega) (by rw [first, tail]; omega)
      (by rw [first, tail]; omega) (by rw [IsTail, tail₂]; omega)
    rw [first, tail, tail₂] at written
    convert written using 1
    omega
  · have first := named (n / 262144 % 8 + 240)
    have tail := named (n / 4096 % 64 + 128)
    have tail₂ := named (n / 64 % 64 + 128)
    have tail₃ := named (n % 64 + 128)
    have written := Writes.four _ _ _ _ (by rw [first]; omega) (by rw [IsTail, tail]; omega)
      (by rw [first, tail]; omega) (by rw [first, tail]; omega) (by rw [IsTail, tail₂]; omega)
      (by rw [IsTail, tail₃]; omega)
    rw [first, tail, tail₂, tail₃] at written
    convert written using 1
    omega

-- A character is written as itself in one byte, or in bytes that no character of one byte has.
theorem encoded_sizes (c : Char) :
    (c.toNat < 128 ∧ String.utf8EncodeChar c = [UInt8.ofNat c.toNat]) ∨
      (128 ≤ c.toNat ∧ ∀ b ∈ String.utf8EncodeChar c, 128 ≤ b.toNat) := by
  have writes := encoded_writes c
  generalize c.toNat = n at writes
  generalize String.utf8EncodeChar c = bytes at writes
  cases writes with
  | one b range => exact .inl ⟨range, by rw [UInt8.ofNat_toNat]⟩
  | two b b₁ range tail =>
      rw [IsTail] at tail
      exact .inr ⟨by omega, by simp; omega⟩
  | three b b₁ b₂ range tail least most tail₂ =>
      rw [IsTail] at tail tail₂
      exact .inr ⟨by omega, by simp; omega⟩
  | four b b₁ b₂ b₃ range tail least most tail₂ tail₃ =>
      rw [IsTail] at tail tail₂ tail₃
      exact .inr ⟨by omega, by simp; omega⟩

theorem decode_writes (n : Nat) (bytes more : Bytes) (writes : Writes n bytes) :
    decode (bytes ++ more) = decode.take n bytes.length (decode more) := by
  cases writes with
  | one b range =>
      have leads : lead b = .ascii := by rw [lead_numbers, if_pos range]
      rw [List.cons_append, decode, leads]
      rfl
  | two b b₁ range tail =>
      rw [IsTail] at tail
      have inside : ¬ (b₁.toNat < 0x80 ∨ 0xBF < b₁.toNat) := by omega
      rw [List.cons_append, decode, lead_two b range]
      simp only [List.cons_append, if_neg inside]
      rfl
  | three b b₁ b₂ range tail least most tail₂ =>
      have inside := (second_inside b b₁ 0xE0 0xED 0xA0 0x9F (by omega)).mpr ⟨tail, least, most⟩
      rw [List.cons_append, decode, lead_three b range]
      simp only [List.cons_append, if_neg inside, (continuation_some_iff b₂ _).mpr ⟨tail₂, rfl⟩]
      rfl
  | four b b₁ b₂ b₃ range tail least most tail₂ tail₃ =>
      have inside := (second_inside b b₁ 0xF0 0xF4 0x90 0x8F (by omega)).mpr ⟨tail, least, most⟩
      rw [List.cons_append, decode, lead_four b range]
      simp only [List.cons_append, if_neg inside, (continuation_some_iff b₂ _).mpr ⟨tail₂, rfl⟩,
        (continuation_some_iff b₃ _).mpr ⟨tail₃, rfl⟩]
      rfl

-- A character stands at the start of the bytes.
def Begins (bytes : Bytes) : Prop :=
  ∃ n char more, bytes = char ++ more ∧ Writes n char

-- The very first character is at fault.
def FaultAtStart (bytes : Bytes) : Prop :=
  ∃ width, decode bytes = .error ⟨0, width⟩

theorem continuation_none (b : UInt8) (other : ¬ IsTail b) : continuation? b = none := by
  cases bits : continuation? b with
  | none => rfl
  | some n => exact absurd ((continuation_some_iff b n).mp bits).1 other

theorem starts_two (b : UInt8) (rest : Bytes) (range : 0xC2 ≤ b.toNat ∧ b.toNat < 0xE0) :
    FaultAtStart (b :: rest) ∨ Begins (b :: rest) := by
  cases rest with
  | nil => exact .inl ⟨none, by rw [decode, lead_two b range]⟩
  | cons b₁ more =>
      by_cases tail : IsTail b₁
      · exact .inr ⟨_, [b, b₁], more, rfl, .two b b₁ range tail⟩
      · refine .inl ⟨some 1, ?_⟩
        rw [IsTail] at tail
        rw [decode, lead_two b range]
        exact if_pos (by omega)

theorem starts_three (b : UInt8) (rest : Bytes) (range : 0xE0 ≤ b.toNat ∧ b.toNat < 0xF0) :
    FaultAtStart (b :: rest) ∨ Begins (b :: rest) := by
  rw [FaultAtStart]
  cases rest with
  | nil => exact .inl ⟨none, by rw [decode, lead_three b range]⟩
  | cons b₁ rest =>
      rw [decode, lead_three b range]
      by_cases outside : b₁.toNat < (if b.toNat = 0xE0 then 0xA0 else 0x80) ∨
          (if b.toNat = 0xED then 0x9F else 0xBF) < b₁.toNat
      · exact .inl ⟨some 1, if_pos outside⟩
      · simp only [if_neg outside]
        cases rest with
        | nil => exact .inl ⟨none, rfl⟩
        | cons b₂ more =>
            by_cases tail₂ : IsTail b₂
            · obtain ⟨tail, least, most⟩ := (second_inside b b₁ 0xE0 0xED 0xA0 0x9F (by omega)).mp outside
              exact .inr ⟨_, [b, b₁, b₂], more, rfl, .three b b₁ b₂ range tail least most tail₂⟩
            · exact .inl ⟨some 2, by simp only [continuation_none b₂ tail₂]; rfl⟩

theorem starts_four (b : UInt8) (rest : Bytes) (range : 0xF0 ≤ b.toNat ∧ b.toNat < 0xF5) :
    FaultAtStart (b :: rest) ∨ Begins (b :: rest) := by
  rw [FaultAtStart]
  cases rest with
  | nil => exact .inl ⟨none, by rw [decode, lead_four b range]⟩
  | cons b₁ rest =>
      rw [decode, lead_four b range]
      by_cases outside : b₁.toNat < (if b.toNat = 0xF0 then 0x90 else 0x80) ∨
          (if b.toNat = 0xF4 then 0x8F else 0xBF) < b₁.toNat
      · exact .inl ⟨some 1, if_pos outside⟩
      simp only [if_neg outside]
      cases rest with
      | nil => exact .inl ⟨none, rfl⟩
      | cons b₂ rest =>
          by_cases tail₂ : IsTail b₂
          · simp only [(continuation_some_iff b₂ _).mpr ⟨tail₂, rfl⟩]
            cases rest with
            | nil => exact .inl ⟨none, rfl⟩
            | cons b₃ more =>
                by_cases tail₃ : IsTail b₃
                · obtain ⟨tail, least, most⟩ := (second_inside b b₁ 0xF0 0xF4 0x90 0x8F (by omega)).mp outside
                  exact .inr ⟨_, [b, b₁, b₂, b₃], more, rfl, .four b b₁ b₂ b₃ range tail least most tail₂ tail₃⟩
                · exact .inl ⟨some 3, by simp only [continuation_none b₃ tail₃]; rfl⟩
          · exact .inl ⟨some 2, by simp only [continuation_none b₂ tail₂]; rfl⟩

theorem starts_or_faults (b : UInt8) (rest : Bytes) : FaultAtStart (b :: rest) ∨ Begins (b :: rest) := by
  by_cases one : b.toNat < 0x80
  · exact .inr ⟨_, [b], rest, rfl, .one b one⟩
  by_cases two : 0xC2 ≤ b.toNat ∧ b.toNat < 0xE0
  · exact starts_two b rest two
  by_cases three : 0xE0 ≤ b.toNat ∧ b.toNat < 0xF0
  · exact starts_three b rest three
  by_cases four : 0xF0 ≤ b.toNat ∧ b.toNat < 0xF5
  · exact starts_four b rest four
  · exact .inl ⟨some 1, by rw [decode, lead_never b (by omega)]⟩

end LinkTidy.Utf8
