import LinkTidy.Cache
import LinkTidy.Proofs.Text.Cut
/-!
The names that copies of downloaded lists are kept under: a number and a part that can only be a name.
-/

set_option autoImplicit false

namespace LinkTidy.Cache

theorem two_digits_written (n : Nat) :
    ∃ zeros, twoDigits n = zeros ++ Nat.toDigits 10 n ∧ (zeros = [] ∨ zeros = ['0']) ∧ 2 ≤ (twoDigits n).length := by
  have digits : (toString n).toList = Nat.toDigits 10 n := by rw [Nat.toString_eq_repr, Nat.toList_repr]
  have some : 0 < (Nat.toDigits 10 n).length := Nat.length_toDigits_pos
  rw [twoDigits, digits]
  by_cases short : (Nat.toDigits 10 n).length < 2
  · simp only [if_pos short]
    exact ⟨['0'], rfl, .inr rfl, by rw [List.length_cons]; omega⟩
  · simp only [if_neg short]
    exact ⟨[], rfl, .inl rfl, by omega⟩

theorem two_digits_digit (n : Nat) : ∀ c ∈ twoDigits n, c.isDigit = true := by
  obtain ⟨zeros, written, zero, -⟩ := two_digits_written n
  intro c member
  rw [written] at member
  rcases List.mem_append.mp member with leading | digit
  · rcases zero with rfl | rfl
    · cases leading
    · rw [List.mem_singleton.mp leading]
      decide
  · exact Nat.isDigit_of_mem_toDigits (by decide) (by decide) digit

-- A leading zero does not count.
theorem two_digits_value (n : Nat) : Nat.ofDigitChars 10 (twoDigits n) 0 = n := by
  obtain ⟨zeros, written, zero, -⟩ := two_digits_written n
  have value : Nat.ofDigitChars 10 (Nat.toDigits 10 n) 0 = n := Nat.ofDigitChars_toDigits (by decide) (by decide)
  rw [written]
  rcases zero with rfl | rfl
  · exact value
  · exact value

-- Two digits or more, a hyphen, and something of letters, digits, dots, hyphens and underscores, all in ASCII.
structure IsCopyName (name : Text) : Prop where
  parts : ∃ digits rest, name = digits ++ '-' :: rest ∧ 2 ≤ digits.length ∧ (∀ c ∈ digits, c.isDigit = true) ∧
    rest ≠ [] ∧ ∀ c ∈ rest, c.isAlphanum = true ∨ c = '.' ∨ c = '-' ∨ c = '_'
  one_name : '/' ∉ name
  no_dots : name ≠ ['.'] ∧ name ≠ "..".toList

theorem file_name_written (index : Nat) (url : Text) :
    ∃ rest, fileName index url = twoDigits index ++ '-' :: rest ∧ rest ≠ [] ∧
      ∀ c ∈ rest, c.isAlphanum = true ∨ c = '.' ∨ c = '-' ∨ c = '_' := by
  refine ⟨_, rfl, ?_, ?_⟩
  · by_cases empty : (lastSegment url).isEmpty = true
    · rw [if_pos empty]
      decide
    · rw [if_neg empty]
      simpa using empty
  · intro c member
    obtain ⟨written, -, replaced⟩ := List.mem_map.mp member
    by_cases kept : isNameChar written = true
    · rw [if_pos kept] at replaced
      simpa [isNameChar, or_assoc, replaced] using kept
    · rw [if_neg kept] at replaced
      exact .inr (.inr (.inr replaced.symm))

theorem file_name_chars (index : Nat) (url : Text) : ∀ c ∈ fileName index url, isNameChar c = true := by
  obtain ⟨rest, written, -, each⟩ := file_name_written index url
  intro c member
  rw [written] at member
  rcases List.mem_append.mp member with digit | behind
  · simp [isNameChar, Char.isAlphanum, two_digits_digit index c digit]
  · rcases List.mem_cons.mp behind with rfl | inside
    · rfl
    · simpa [isNameChar, or_assoc] using each c inside

theorem file_name_safe (index : Nat) (url : Text) : IsCopyName (fileName index url) := by
  obtain ⟨rest, written, some, each⟩ := file_name_written index url
  obtain ⟨-, -, -, long⟩ := two_digits_written index
  have digit := two_digits_digit index
  have size : 4 ≤ (fileName index url).length := by
    have least : 0 < rest.length := List.length_pos_iff.mpr some
    rw [written, List.length_append, List.length_cons]
    omega
  constructor
  case parts => exact ⟨twoDigits index, rest, written, long, digit, some, each⟩
  case one_name => exact fun member => absurd (file_name_chars index url '/' member) (by decide)
  case no_dots =>
    constructor
    · intro dot
      rw [dot] at size
      exact absurd size (by decide)
    · intro dots
      rw [dots] at size
      exact absurd size (by decide)

-- The first hyphen of a name ends its number.
theorem file_name_number (index : Nat) (url : Text) :
    (fileName index url).takeWhile Char.isDigit = twoDigits index := by
  obtain ⟨rest, written, -⟩ := file_name_written index url
  rw [written]
  exact (take_while_stop Char.isDigit (twoDigits index) rest '-' (two_digits_digit index) (by decide)).1

theorem file_names_apart (i j : Nat) (u v : Text) (other : i ≠ j) : fileName i u ≠ fileName j v := by
  intro same
  have digits : twoDigits i = twoDigits j := by rw [← file_name_number i u, same, file_name_number j v]
  exact other (by rw [← two_digits_value i, digits, two_digits_value j])

end LinkTidy.Cache
