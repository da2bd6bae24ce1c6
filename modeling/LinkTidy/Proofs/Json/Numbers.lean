import LinkTidy.Proofs.Json.Strings
/-!
How numbers are written in JSON: where they are passed over, and how whole ones are read.
-/

set_option autoImplicit false

namespace LinkTidy.Json

-- One digit or more.
def Digits (text : Text) : Prop :=
  text ≠ [] ∧ ∀ c ∈ text, c.isDigit = true

-- What may follow the whole part of a number.
inductive FractionForm : Text → Prop where
  | absent : FractionForm []
  | digits (text : Text) (digits : Digits text) : FractionForm ('.' :: text)

inductive ExponentForm : Text → Prop where
  | absent : ExponentForm []
  | digits (letter : Char) (sign text : Text) (power : letter = 'e' ∨ letter = 'E')
      (signed : sign ∈ [[], ['+'], ['-']]) (digits : Digits text) : ExponentForm (letter :: (sign ++ text))

-- A number without its sign. The whole part has a zero in front only if it is zero.
inductive NumberForm : Text → Prop where
  | parts (whole fraction exponent : Text) (digits : Digits whole) (front : whole = ['0'] ∨ whole.head? ≠ some '0')
      (behind : FractionForm fraction) (power : ExponentForm exponent) :
      NumberForm (whole ++ (fraction ++ exponent))

-- Nothing here could still belong to a number in front of it.
def EndsNumber (rest : Text) : Prop :=
  ∀ c ∈ rest.head?, c.isDigit = false ∧ c ≠ '.' ∧ c ≠ 'e' ∧ c ≠ 'E'

theorem ends_no_digit (rest : Text) (ends : EndsNumber rest) : ∀ c ∈ rest.head?, c.isDigit = false :=
  fun c first => (ends c first).1

-- What can stand behind a value.
theorem no_number_char (c : Char) (listed : c ∈ [' ', '\n', '\t', '\r', ',', ']', '\x7d']) :
    c.isDigit = false ∧ c ≠ '.' ∧ c ≠ 'e' ∧ c ≠ 'E' := by
  simp only [List.mem_cons, List.not_mem_nil, or_false] at listed
  rcases listed with rfl | rfl | rfl | rfl | rfl | rfl | rfl <;> decide

theorem ends_at (c : Char) (rest : Text) (closes : c ∈ [',', ']', '\x7d']) : EndsNumber (c :: rest) := by
  rintro c' ⟨⟩
  exact no_number_char c (List.mem_append_right [' ', '\n', '\t', '\r'] closes)

theorem ends_behind_spaces (space rest : Text) (spaces : Spaces space) (ends : EndsNumber rest) :
    EndsNumber (space ++ rest) := by
  cases space with
  | nil => exact ends
  | cons c space =>
      rintro c ⟨⟩
      exact no_number_char c (List.mem_append_left [',', ']', '\x7d'] (spaces c List.mem_cons_self))

theorem drop_digits (digits rest : Text) (each : ∀ c ∈ digits, c.isDigit = true)
    (ends : ∀ c ∈ rest.head?, c.isDigit = false) : dropDigits (digits ++ rest) = rest := by
  rw [dropDigits, List.dropWhile_append_of_pos each]
  cases rest with
  | nil => rfl
  | cons c rest => exact List.dropWhile_cons_of_neg (Bool.eq_false_iff.mp (ends c rfl))

theorem digits_cons (text : Text) (digits : Digits text) :
    ∃ d rest, text = d :: rest ∧ d.isDigit = true ∧ ∀ c ∈ rest, c.isDigit = true := by
  obtain ⟨some, each⟩ := digits
  obtain ⟨d, rest, rfl⟩ := List.exists_cons_of_ne_nil some
  exact ⟨d, rest, rfl, each d List.mem_cons_self, fun c member => each c (List.mem_cons_of_mem d member)⟩

theorem digit_no_sign (d : Char) (digit : d.isDigit = true) : d ≠ '+' ∧ d ≠ '-' := by
  constructor <;> rintro rfl <;> cases digit

theorem exponent_passed (ending : Reason) (sign digits rest : Text) (signed : sign ∈ [[], ['+'], ['-']])
    (some : Digits digits) (ends : ∀ c ∈ rest.head?, c.isDigit = false) :
    skipExponent ending (sign ++ (digits ++ rest)) = .ok rest := by
  obtain ⟨d, others, rfl, digit, each⟩ := digits_cons digits some
  obtain ⟨noPlus, noMinus⟩ := digit_no_sign d digit
  have passed : (if d.isDigit = true then Except.ok (dropDigits (others ++ rest))
      else faultBehind .badNumber (others ++ rest)) = .ok rest := by
    rw [if_pos digit, drop_digits others rest each ends]
  simp only [List.mem_cons, List.not_mem_nil, or_false] at signed
  rcases signed with rfl | rfl | rfl
  case inl =>
    rw [List.nil_append, List.cons_append, skipExponent]
    · simpa using passed
    all_goals simp [noPlus, noMinus]
  all_goals exact passed

theorem exponent_form_passed (ending : Reason) (exponent rest : Text) (power : ExponentForm exponent)
    (ends : EndsNumber rest) : skipFraction ending (exponent ++ rest) = .ok rest := by
  cases power with
  | absent =>
      cases rest with
      | nil => rfl
      | cons c rest =>
          obtain ⟨-, noPoint, noLower, noUpper⟩ := ends c rfl
          rw [List.nil_append, skipFraction.eq_def]
          simp [noPoint, noLower, noUpper]
  | digits letter sign digits power signed digit =>
      have passed := exponent_passed ending sign digits rest signed digit (ends_no_digit rest ends)
      rw [List.cons_append, List.append_assoc]
      rcases power with rfl | rfl
      · exact passed
      · exact passed

theorem exponent_form_no_digit (exponent rest : Text) (power : ExponentForm exponent) (ends : EndsNumber rest) :
    ∀ c ∈ (exponent ++ rest).head?, c.isDigit = false := by
  cases power with
  | absent => exact ends_no_digit rest ends
  | digits letter sign digits power _ _ =>
      rintro c ⟨⟩
      rcases power with rfl | rfl <;> rfl

theorem fraction_form_no_digit (fraction exponent rest : Text) (behind : FractionForm fraction)
    (power : ExponentForm exponent) (ends : EndsNumber rest) :
    ∀ c ∈ (fraction ++ (exponent ++ rest)).head?, c.isDigit = false := by
  cases behind with
  | absent => exact exponent_form_no_digit exponent rest power ends
  | digits text _ =>
      rintro c ⟨⟩
      rfl

theorem fraction_form_passed (ending : Reason) (fraction exponent rest : Text) (behind : FractionForm fraction)
    (power : ExponentForm exponent) (ends : EndsNumber rest) :
    skipFraction ending (fraction ++ (exponent ++ rest)) = .ok rest := by
  cases behind with
  | absent => exact exponent_form_passed ending exponent rest power ends
  | digits digits digit =>
      obtain ⟨d, others, rfl, first, each⟩ := digits_cons digits digit
      have left := drop_digits (d :: others) (exponent ++ rest) digit.2
        (exponent_form_no_digit exponent rest power ends)
      rw [List.cons_append] at left
      rw [List.cons_append, List.cons_append, skipFraction]
      simp only [first, if_true, left]
      cases power with
      | absent =>
          cases rest with
          | nil => rfl
          | cons c rest =>
              obtain ⟨-, -, noLower, noUpper⟩ := ends c rfl
              simp [noLower, noUpper]
      | digits letter sign digits power signed some =>
          have passed := exponent_passed ending sign digits rest signed some (ends_no_digit rest ends)
          rw [List.cons_append, List.append_assoc]
          rcases power with rfl | rfl
          · exact passed
          · exact passed

theorem whole_part_passed (ending : Reason) (whole rest : Text) (digits : Digits whole)
    (front : whole = ['0'] ∨ whole.head? ≠ some '0') (ends : ∀ c ∈ rest.head?, c.isDigit = false) :
    skipNumber ending (whole ++ rest) = skipFraction ending rest := by
  obtain ⟨d, others, rfl, first, each⟩ := digits_cons whole digits
  by_cases zero : d = '0'
  · subst zero
    obtain rfl : others = [] := by simpa using front
    cases rest with
    | nil => rfl
    | cons c rest => exact if_neg (Bool.eq_false_iff.mp (ends c rfl))
  · rw [List.cons_append, skipNumber]
    · rw [if_pos first, drop_digits others rest each ends]
    all_goals simp [zero]

theorem number_form_passed (ending : Reason) (number rest : Text) (form : NumberForm number) (ends : EndsNumber rest) :
    skipNumber ending (number ++ rest) = .ok rest := by
  cases form with
  | parts whole fraction exponent digits front behind power =>
      rw [List.append_assoc, List.append_assoc, whole_part_passed ending whole _ digits front
        (fraction_form_no_digit fraction exponent rest behind power ends)]
      exact fraction_form_passed ending fraction exponent rest behind power ends

-- The decimal numeral of a number.
theorem to_digits_digits (n : Nat) : Digits (Nat.toDigits 10 n) :=
  ⟨Nat.toDigits_ne_nil, fun _ member => Nat.isDigit_of_mem_toDigits (by decide) (by decide) member⟩

theorem to_digits_front (n : Nat) : Nat.toDigits 10 n = ['0'] ∨ (Nat.toDigits 10 n).head? ≠ some '0' := by
  induction n using Nat.strongRecOn with
  | ind n ih =>
      rw [Nat.toDigits_eq_if (by decide)]
      by_cases small : n < 10
      · rw [if_pos small]
        have each : ∀ d < 10, [Nat.digitChar d] = ['0'] ∨ [Nat.digitChar d].head? ≠ some '0' := by decide
        exact each n small
      · rw [if_neg small]
        rcases ih (n / 10) (by omega) with zero | front
        · have value := congrArg (Nat.ofDigitChars 10 · 0) zero
          simp only [Nat.ofDigitChars_toDigits (b := 10) (n := n / 10) (by decide) (by decide)] at value
          have nothing : Nat.ofDigitChars 10 ['0'] 0 = 0 := by decide
          omega
        · right
          rwa [List.head?_append_of_ne_nil _ Nat.toDigits_ne_nil]

theorem to_digits_form (n : Nat) : NumberForm (Nat.toDigits 10 n) := by
  have form := NumberForm.parts (Nat.toDigits 10 n) [] [] (to_digits_digits n) (to_digits_front n) .absent .absent
  rwa [List.append_nil, List.append_nil] at form

theorem decimal_value_to_digits (n : Nat) : decimalValue (Nat.toDigits 10 n) = n := by
  have value : Nat.ofDigitChars 10 (Nat.toDigits 10 n) 0 = n := Nat.ofDigitChars_toDigits (by decide) (by decide)
  simpa only [decimalValue, Nat.ofDigitChars_eq_foldl, Nat.mul_comm] using value

theorem read_numeral_written (negative : Bool) (number rest : Text) (form : NumberForm number)
    (ends : EndsNumber rest) : readNumeral negative (number ++ rest) = .ok ⟨negative, number, rest⟩ := by
  rw [readNumeral, number_form_passed .endInValue number rest form ends]
  simp

theorem digit_solid (d : Char) (digit : d.isDigit = true) : isSpace d = false := by
  rw [Bool.eq_false_iff]
  intro space
  rcases (by simpa using (is_space_iff d).mp space : d = ' ' ∨ d = '\n' ∨ d = '\t' ∨ d = '\r') with
    rfl | rfl | rfl | rfl <;> cases digit

theorem read_word_written (n : Nat) (space rest : Text) (small : n < UInt64.size) (spaces : Spaces space)
    (ends : EndsNumber rest) : readWord (space ++ (Nat.toDigits 10 n ++ rest)) = .ok (n, rest) := by
  have read := read_numeral_written false (Nat.toDigits 10 n) rest (to_digits_form n) ends
  have whole : Numeral.isWhole ⟨false, Nat.toDigits 10 n, rest⟩ = true := by
    have each := List.all_eq_true.mpr (to_digits_digits n).2
    simp [Numeral.isWhole, each, decimal_value_to_digits, small]
  obtain ⟨d, others, written, first, -⟩ := digits_cons _ (to_digits_digits n)
  have noSign := (digit_no_sign d first).2
  rw [written, List.cons_append] at read ⊢
  rw [readWord, drop_to space d _ spaces (digit_solid d first)]
  simp only [first, if_true, read, ← written, whole, decimal_value_to_digits, bind, Except.bind]

end LinkTidy.Json
