import LinkTidy.Json.Reader
import LinkTidy.Proofs.Text.Cut
/-!
How strings are written in JSON, and that they are read as they were written: each character as itself, by a letter, or
by the units of sixteen bits that make it up.
-/

set_option autoImplicit false

namespace LinkTidy.Json

-- White space between the parts of a text.
def Spaces (text : Text) : Prop :=
  ∀ c ∈ text, c ∈ [' ', '\n', '\t', '\r']

theorem no_spaces : Spaces [] :=
  nofun

theorem is_space_iff (c : Char) : isSpace c = true ↔ c ∈ [' ', '\n', '\t', '\r'] := by
  simp [isSpace, or_assoc]

theorem drop_spaces (space text : Text) (spaces : Spaces space) : dropSpace (space ++ text) = dropSpace text :=
  List.dropWhile_append_of_pos fun c member => (is_space_iff c).mpr (spaces c member)

theorem drop_no_space (c : Char) (rest : Text) (solid : isSpace c = false) : dropSpace (c :: rest) = c :: rest :=
  List.dropWhile_cons_of_neg (Bool.eq_false_iff.mp solid)

theorem drop_to (space : Text) (c : Char) (rest : Text) (spaces : Spaces space) (solid : isSpace c = false) :
    dropSpace (space ++ c :: rest) = c :: rest := by
  rw [drop_spaces space _ spaces, drop_no_space c rest solid]

-- A hexadecimal digit, in either case, and what it counts.
def IsHex (digit : Char) (value : Nat) : Prop :=
  "0123456789abcdef".toList[value]? = some digit ∨ "0123456789ABCDEF".toList[value]? = some digit

theorem hex_digit_read (digit : Char) (value : Nat) (hex : IsHex digit value) : hexDigit? digit = some value := by
  have lower : ∀ n < 16, ("0123456789abcdef".toList[n]?).all fun c => hexDigit? c == some n := by decide
  have upper : ∀ n < 16, ("0123456789ABCDEF".toList[n]?).all fun c => hexDigit? c == some n := by decide
  rcases hex with written | written
  · have known := lower value (List.getElem?_eq_some_iff.mp written).1
    rw [written] at known
    exact beq_iff_eq.mp known
  · have known := upper value (List.getElem?_eq_some_iff.mp written).1
    rw [written] at known
    exact beq_iff_eq.mp known

-- A unit of sixteen bits, written with four hexadecimal digits.
inductive WrittenUnit : Nat → Text → Prop where
  | digits (a b c d : Char) (i j k l : Nat) (first : IsHex a i) (second : IsHex b j) (third : IsHex c k)
      (fourth : IsHex d l) : WrittenUnit (((i * 16 + j) * 16 + k) * 16 + l) [a, b, c, d]

-- Characters that may be written as a backslash and a letter.
def shortEscapes : List (Char × Char) :=
  [('"', '"'), ('\\', '\\'), ('/', '/'), ('\x08', 'b'), ('\x0C', 'f'), ('\n', 'n'), ('\r', 'r'), ('\t', 't')]

-- The ways to write a character in a string.
inductive WrittenChar : Char → Text → Prop where
  | plain (c : Char) (printable : 0x20 ≤ c.toNat) (noQuote : c ≠ '"') (noBackslash : c ≠ '\\') : WrittenChar c [c]
  | short (c letter : Char) (known : (c, letter) ∈ shortEscapes) : WrittenChar c ['\\', letter]
  | unit (c : Char) (digits : Text) (small : c.toNat < 0x10000) (written : WrittenUnit c.toNat digits) :
      WrittenChar c ('\\' :: 'u' :: digits)
  | pair (c : Char) (high low : Text) (large : 0x10000 ≤ c.toNat)
      (first : WrittenUnit (0xD800 + (c.toNat - 0x10000) / 0x400) high)
      (second : WrittenUnit (0xDC00 + (c.toNat - 0x10000) % 0x400) low) :
      WrittenChar c ('\\' :: 'u' :: high ++ '\\' :: 'u' :: low)

-- A text, and how it is written between quotes.
inductive WrittenText : Text → Text → Prop where
  | nil : WrittenText [] []
  | cons (c : Char) (text written rest : Text) (first : WrittenChar c written) (later : WrittenText text rest) :
      WrittenText (c :: text) (written ++ rest)

theorem four_hex_read (a b c d : Char) (i j k l : Nat) (first : IsHex a i) (second : IsHex b j) (third : IsHex c k)
    (fourth : IsHex d l) : hexNumber? 0 [a, b, c, d] = some (((i * 16 + j) * 16 + k) * 16 + l) := by
  simp only [hexNumber?, hex_digit_read a i first, hex_digit_read b j second, hex_digit_read c k third,
    hex_digit_read d l fourth, Option.bind_some, Nat.zero_mul, Nat.zero_add]

theorem short_escape_read (c letter : Char) (known : (c, letter) ∈ shortEscapes) :
    shortEscape? letter = some c ∧ letter ≠ 'u' := by
  have each : (shortEscapes.all fun pair => shortEscape? pair.2 == some pair.1 && pair.2 != 'u') = true := by decide
  simpa using List.all_eq_true.mp each _ known

theorem char_bounds (c : Char) : c.toNat < 0xD800 ∨ 0xDFFF < c.toNat ∧ c.toNat < 0x110000 := c.valid

theorem char_no_surrogate (c : Char) : isLowSurrogate c.toNat = false ∧ isHighSurrogate c.toNat = false := by
  have bounds := char_bounds c
  simp only [isLowSurrogate, isHighSurrogate, Bool.and_eq_false_iff, decide_eq_false_iff_not]
  omega

-- The two units of a character make it up again.
theorem units_paired (c : Char) (large : 0x10000 ≤ c.toNat) :
    isLowSurrogate (0xD800 + (c.toNat - 0x10000) / 0x400) = false ∧
      isHighSurrogate (0xD800 + (c.toNat - 0x10000) / 0x400) = true ∧
      isLowSurrogate (0xDC00 + (c.toNat - 0x10000) % 0x400) = true ∧
      pairedSurrogates (0xD800 + (c.toNat - 0x10000) / 0x400) (0xDC00 + (c.toNat - 0x10000) % 0x400) = c := by
  have bounds := char_bounds c
  simp only [isLowSurrogate, isHighSurrogate, Bool.and_eq_false_iff, Bool.and_eq_true, decide_eq_false_iff_not,
    decide_eq_true_eq, pairedSurrogates]
  refine ⟨by omega, by omega, by omega, ?_⟩
  have code : (0xD800 + (c.toNat - 0x10000) / 0x400 - 0xD800) * 0x400 +
      (0xDC00 + (c.toNat - 0x10000) % 0x400 - 0xDC00) + 0x10000 = c.toNat := by omega
  rw [code, Char.ofNat_toNat]

theorem read_plain (c : Char) (rest : Text) (printable : 0x20 ≤ c.toNat) (noQuote : c ≠ '"') (noBackslash : c ≠ '\\') :
    readString (c :: rest) = prepend c (readString rest) := by
  rw [readString]
  · exact if_neg (Nat.not_lt.mpr printable)
  all_goals simp [noQuote, noBackslash]

theorem read_short (c letter : Char) (rest : Text) (known : (c, letter) ∈ shortEscapes) :
    readString ('\\' :: letter :: rest) = prepend c (readString rest) := by
  obtain ⟨read, noUnit⟩ := short_escape_read c letter known
  rw [readString]
  · rw [read]
  all_goals simp [noUnit]

theorem read_unit (c : Char) (digits rest : Text) (written : WrittenUnit c.toNat digits) :
    readString ('\\' :: 'u' :: (digits ++ rest)) = prepend c (readString rest) := by
  obtain ⟨noLow, noHigh⟩ := char_no_surrogate c
  generalize size : c.toNat = n at written noLow noHigh
  cases written with
  | digits a b c' d i j k l first second third fourth =>
      simp only [List.cons_append, List.nil_append]
      rw [readString, four_hex_read a b c' d i j k l first second third fourth]
      simp only [noLow, noHigh, Bool.false_eq_true, if_false]
      rw [← size, Char.ofNat_toNat]

theorem read_pair (c : Char) (high low rest : Text) (large : 0x10000 ≤ c.toNat)
    (first : WrittenUnit (0xD800 + (c.toNat - 0x10000) / 0x400) high)
    (second : WrittenUnit (0xDC00 + (c.toNat - 0x10000) % 0x400) low) :
    readString ('\\' :: 'u' :: (high ++ '\\' :: 'u' :: (low ++ rest))) = prepend c (readString rest) := by
  obtain ⟨noLow, isHigh, isLow, paired⟩ := units_paired c large
  generalize 0xD800 + (c.toNat - 0x10000) / 0x400 = n at first noLow isHigh paired
  generalize 0xDC00 + (c.toNat - 0x10000) % 0x400 = m at second isLow paired
  cases first with
  | digits a b c' d i j k l a' b' c'' d' =>
      cases second with
      | digits e f g h i' j' k' l' e' f' g' h' =>
          simp only [List.cons_append, List.nil_append]
          rw [readString, four_hex_read a b c' d i j k l a' b' c'' d']
          simp only [noLow, isHigh, Bool.false_eq_true, if_false, if_true]
          rw [four_hex_read e f g h i' j' k' l' e' f' g' h']
          simp only [isLow, if_true, paired]

theorem read_char (c : Char) (written rest : Text) (char : WrittenChar c written) :
    readString (written ++ rest) = prepend c (readString rest) := by
  cases char with
  | plain printable noQuote noBackslash => exact read_plain c rest printable noQuote noBackslash
  | short letter known => exact read_short c letter rest known
  | unit digits _ unit => exact read_unit c digits rest unit
  | pair high low large first second =>
      simp only [List.cons_append, List.append_assoc]
      exact read_pair c high low rest large first second

theorem read_written (text inside rest : Text) (written : WrittenText text inside) :
    readString (inside ++ '"' :: rest) = .ok (text, rest) := by
  induction written with
  | nil => rw [List.nil_append, readString]
  | cons c text written inside first _ ih =>
      rw [List.append_assoc, read_char c written _ first, ih]
      rfl

theorem plain_written (text : Text) (plain : text.all (fun c => 0x20 ≤ c.toNat && c != '"' && c != '\\') = true) :
    WrittenText text text := by
  induction text with
  | nil => exact .nil
  | cons c text ih =>
      simp only [List.all_cons, Bool.and_eq_true, decide_eq_true_eq, bne_iff_ne] at plain
      obtain ⟨⟨⟨printable, noQuote⟩, noBackslash⟩, later⟩ := plain
      exact .cons c text [c] text (.plain c printable noQuote noBackslash) (ih (by simpa using later))

theorem hex_writable (value : Nat) (small : value < 16) : ∃ digit, IsHex digit value :=
  ⟨_, .inl (List.getElem?_eq_getElem (l := "0123456789abcdef".toList) small)⟩

theorem unit_writable (n : Nat) (small : n < 0x10000) : ∃ digits, WrittenUnit n digits := by
  obtain ⟨a, first⟩ := hex_writable (n / 0x1000) (by omega)
  obtain ⟨b, second⟩ := hex_writable (n / 0x100 % 16) (by omega)
  obtain ⟨c, third⟩ := hex_writable (n / 0x10 % 16) (by omega)
  obtain ⟨d, fourth⟩ := hex_writable (n % 16) (by omega)
  have value : ((n / 0x1000 * 16 + n / 0x100 % 16) * 16 + n / 0x10 % 16) * 16 + n % 16 = n := by omega
  have written := WrittenUnit.digits a b c d _ _ _ _ first second third fourth
  rw [value] at written
  exact ⟨_, written⟩

-- Any character can be written: those that cannot stand for themselves by their unit.
theorem text_writable (text : Text) : ∃ inside, WrittenText text inside := by
  induction text with
  | nil => exact ⟨[], .nil⟩
  | cons c text ih =>
      obtain ⟨inside, later⟩ := ih
      by_cases itself : 0x20 ≤ c.toNat ∧ c ≠ '"' ∧ c ≠ '\\'
      · obtain ⟨printable, noQuote, noBackslash⟩ := itself
        exact ⟨_, .cons c text [c] inside (.plain c printable noQuote noBackslash) later⟩
      · have small : c.toNat < 0x10000 := by
          by_contra large
          refine itself ⟨by omega, ?_, ?_⟩ <;> rintro rfl <;> exact large (by decide)
        obtain ⟨digits, written⟩ := unit_writable c.toNat small
        exact ⟨_, .cons c text _ inside (.unit c digits small written) later⟩

end LinkTidy.Json
