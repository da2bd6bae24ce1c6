import LinkTidy.Proofs.Json.Numbers
/-!
What a value is in JSON, of any kind and any depth, and that every one is passed over as a whole.
-/

set_option autoImplicit false

namespace LinkTidy.Json

-- What may stand between the quotes of a string. The units of sixteen bits need not make up characters.
inductive StringForm : Text → Prop where
  | nil : StringForm []
  | plain (c : Char) (rest : Text) (printable : 0x20 ≤ c.toNat) (noQuote : c ≠ '"') (noBackslash : c ≠ '\\')
      (later : StringForm rest) : StringForm (c :: rest)
  | short (c letter : Char) (rest : Text) (known : (c, letter) ∈ shortEscapes) (later : StringForm rest) :
      StringForm ('\\' :: letter :: rest)
  | unit (n : Nat) (digits rest : Text) (written : WrittenUnit n digits) (later : StringForm rest) :
      StringForm ('\\' :: 'u' :: (digits ++ rest))

theorem string_form_passed (inside rest : Text) (form : StringForm inside) :
    skipString (inside ++ '"' :: rest) = .ok rest := by
  induction form with
  | nil => rw [List.nil_append, skipString]
  | plain c inside printable noQuote noBackslash _ ih =>
      rw [List.cons_append, skipString]
      · rw [if_neg (Nat.not_lt.mpr printable), ih]
      all_goals simp [noQuote, noBackslash]
  | short c letter inside known _ ih =>
      obtain ⟨read, noUnit⟩ := short_escape_read c letter known
      rw [List.cons_append, List.cons_append, skipString]
      · rw [read, ih]
        rfl
      all_goals simp [noUnit]
  | unit n digits inside written _ ih =>
      cases written with
      | digits a b c d i j k l first second third fourth =>
          simp only [List.cons_append, List.nil_append]
          rw [skipString, four_hex_read a b c d i j k l first second third fourth, ih]
          rfl

-- A value, or the inside of a list or an object that is not empty, from its first element or member on.
inductive Part where
  | value | elements | members

-- The grammar of values. White space in front of a part belongs to what the part is in.
inductive WellFormed : Part → Text → Prop where
  | null : WellFormed .value "null".toList
  | true : WellFormed .value "true".toList
  | false : WellFormed .value "false".toList
  | number (number : Text) (form : NumberForm number) : WellFormed .value number
  | negative (number : Text) (form : NumberForm number) : WellFormed .value ('-' :: number)
  | string (inside : Text) (form : StringForm inside) : WellFormed .value ('"' :: (inside ++ ['"']))
  | emptyList (space : Text) (spaces : Spaces space) : WellFormed .value ('[' :: (space ++ [']']))
  | list (space inside : Text) (spaces : Spaces space) (elements : WellFormed .elements inside) :
      WellFormed .value ('[' :: (space ++ (inside ++ [']'])))
  | emptyObject (space : Text) (spaces : Spaces space) : WellFormed .value ('\x7b' :: (space ++ ['\x7d']))
  | object (space inside : Text) (spaces : Spaces space) (members : WellFormed .members inside) :
      WellFormed .value ('\x7b' :: (space ++ (inside ++ ['\x7d'])))
  | lastElement (value space : Text) (form : WellFormed .value value) (spaces : Spaces space) :
      WellFormed .elements (value ++ space)
  | nextElement (value before behind rest : Text) (form : WellFormed .value value) (front : Spaces before)
      (back : Spaces behind) (later : WellFormed .elements rest) :
      WellFormed .elements (value ++ (before ++ ',' :: (behind ++ rest)))
  | lastMember (name before behind value space : Text) (named : StringForm name) (front : Spaces before)
      (back : Spaces behind) (form : WellFormed .value value) (spaces : Spaces space) :
      WellFormed .members ('"' :: (name ++ '"' :: (before ++ ':' :: (behind ++ (value ++ space)))))
  | nextMember (name before behind value after next rest : Text) (named : StringForm name) (front : Spaces before)
      (back : Spaces behind) (form : WellFormed .value value) (left : Spaces after) (right : Spaces next)
      (later : WellFormed .members rest) :
      WellFormed .members
        ('"' :: (name ++ '"' :: (before ++ ':' :: (behind ++ (value ++ (after ++ ',' :: (next ++ rest)))))))

-- A part begins with no space, and with nothing that closes a list or an object.
theorem part_begins (part : Part) (text : Text) (form : WellFormed part text) :
    ∃ c rest, text = c :: rest ∧ isSpace c = false ∧ c ≠ ']' ∧ (part = .members → c = '"') := by
  induction form with
  | null | true | false | negative | string | emptyList | list | emptyObject | object =>
      exact ⟨_, _, rfl, rfl, by decide, nofun⟩
  | number number form =>
      cases form with
      | parts whole fraction exponent digits =>
          obtain ⟨d, rest, rfl, digit, -⟩ := digits_cons whole digits
          refine ⟨d, _, rfl, digit_solid d digit, ?_, nofun⟩
          rintro rfl
          cases digit
  | lastElement value space _ _ ih =>
      obtain ⟨c, rest, rfl, solid, unclosed, -⟩ := ih
      exact ⟨c, _, rfl, solid, unclosed, nofun⟩
  | nextElement value before behind rest _ _ _ _ ih =>
      obtain ⟨c, rest, rfl, solid, unclosed, -⟩ := ih
      exact ⟨c, _, rfl, solid, unclosed, nofun⟩
  | lastMember | nextMember => exact ⟨_, _, rfl, rfl, by decide, fun _ => rfl⟩

-- How a part is passed over: a value with whatever is behind it, the inside of a list or an object with its end. The
-- fuel counts what is opened and what is gone on with, which is never more than twice the characters.
def PassedOver : Part → Text → Prop
  | .value, text => ∀ fuel space rest, 2 * text.length ≤ fuel → Spaces space → EndsNumber rest →
      skipValue fuel (space ++ (text ++ rest)) = .ok rest
  | .elements, text => ∀ fuel space rest, 2 * text.length + 1 ≤ fuel → Spaces space →
      skipElements fuel (space ++ (text ++ ']' :: rest)) = .ok rest
  | .members, text => ∀ fuel space rest, 2 * text.length + 1 ≤ fuel → Spaces space →
      skipMembers fuel (space ++ (text ++ '\x7d' :: rest)) = .ok rest

section

variable (fuel : Nat) (space rest : Text) (spaces : Spaces space)

include spaces

theorem skip_digits (d : Char) (digit : d.isDigit = true) :
    skipValue (fuel + 1) (space ++ d :: rest) = skipNumber .badNumber (d :: rest) := by
  rw [skipValue, drop_to space d rest spaces (digit_solid d digit)]
  split
  case h_9 head =>
    cases head
    exact if_pos digit
  all_goals
    rename_i head
    cases head <;> cases digit

theorem skip_list (inner : Text) (c : Char) (front : Spaces inner) (solid : isSpace c = false) (unclosed : c ≠ ']') :
    skipValue (fuel + 1) (space ++ '[' :: (inner ++ c :: rest)) = skipElements fuel (c :: rest) := by
  rw [skipValue, drop_to space '[' _ spaces (by decide)]
  simp [drop_to inner c rest front solid, unclosed]

theorem skip_object (inner : Text) (c : Char) (front : Spaces inner) (solid : isSpace c = false)
    (unclosed : c ≠ '\x7d') :
    skipValue (fuel + 1) (space ++ '\x7b' :: (inner ++ c :: rest)) = skipMembers fuel (c :: rest) := by
  simp [skipValue, drop_to space '\x7b' _ spaces (by decide), drop_to inner c rest front solid, unclosed]

end

theorem skip_last_element (fuel : Nat) (text after rest : Text) (spaces : Spaces after)
    (value : skipValue fuel text = .ok (after ++ ']' :: rest)) : skipElements (fuel + 1) text = .ok rest := by
  simp [skipElements, value, drop_to after ']' rest spaces (by decide)]

theorem skip_next_element (fuel : Nat) (text after rest : Text) (spaces : Spaces after)
    (value : skipValue fuel text = .ok (after ++ ',' :: rest)) :
    skipElements (fuel + 1) text = skipElements fuel rest := by
  simp [skipElements, value, drop_to after ',' rest spaces (by decide)]

section

variable (fuel : Nat) (space name before value after rest : Text) (spaces : Spaces space) (named : StringForm name)
  (front : Spaces before) (left : Spaces after)

include spaces named front left

theorem skip_last_member (passed : skipValue fuel value = .ok (after ++ '\x7d' :: rest)) :
    skipMembers (fuel + 1) (space ++ '"' :: (name ++ '"' :: (before ++ ':' :: value))) = .ok rest := by
  simp [skipMembers, drop_to space '"' _ spaces (by decide), string_form_passed name _ named,
    drop_to before ':' _ front (by decide), passed, drop_to after '\x7d' rest left (by decide)]

theorem skip_next_member (passed : skipValue fuel value = .ok (after ++ ',' :: rest)) :
    skipMembers (fuel + 1) (space ++ '"' :: (name ++ '"' :: (before ++ ':' :: value))) = skipMembers fuel rest := by
  simp [skipMembers, drop_to space '"' _ spaces (by decide), string_form_passed name _ named,
    drop_to before ':' _ front (by decide), passed, drop_to after ',' rest left (by decide)]

end

theorem part_passed_over (part : Part) (text : Text) (form : WellFormed part text) : PassedOver part text := by
  induction form with
  | null | true | false =>
      rintro (_ | fuel) space rest enough spaces -
      · simp at enough
      · simp [skipValue, drop_to space _ _ spaces, isSpace, skipWord]
  | number number form =>
      rintro (_ | fuel) space rest enough spaces ends
      · cases form with
        | parts whole fraction exponent digits =>
            obtain ⟨d, others, rfl, -, -⟩ := digits_cons whole digits
            simp at enough
      · have passed := number_form_passed .badNumber number rest form ends
        cases form with
        | parts whole fraction exponent digits =>
            obtain ⟨d, others, rfl, digit, -⟩ := digits_cons whole digits
            exact (skip_digits fuel space _ spaces d digit).trans passed
  | negative number form =>
      rintro (_ | fuel) space rest enough spaces ends
      · simp at enough
      · rw [List.cons_append, skipValue, drop_to space '-' _ spaces (by decide)]
        exact number_form_passed .badNumber number rest form ends
  | string inside form =>
      rintro (_ | fuel) space rest enough spaces -
      · simp at enough
      · rw [List.cons_append, List.append_assoc, skipValue, drop_to space '"' _ spaces (by decide)]
        exact string_form_passed inside rest form
  | emptyList inner front =>
      rintro (_ | fuel) space rest enough spaces -
      · simp at enough
      · simp [skipValue, drop_to space '[' _ spaces (by decide), drop_to inner ']' _ front (by decide)]
  | list inner inside front form ih =>
      rintro (_ | fuel) space rest enough spaces -
      · simp at enough
      · obtain ⟨c, others, rfl, solid, opened, -⟩ := part_begins _ inside form
        have passed := ih fuel [] rest (by simp at enough ⊢; omega) no_spaces
        simp only [List.cons_append, List.append_assoc, List.nil_append] at passed ⊢
        exact (skip_list fuel space _ spaces inner c front solid opened).trans passed
  | emptyObject inner front =>
      rintro (_ | fuel) space rest enough spaces -
      · simp at enough
      · simp [skipValue, drop_to space '\x7b' _ spaces (by decide), drop_to inner '\x7d' _ front (by decide)]
  | object inner inside front form ih =>
      rintro (_ | fuel) space rest enough spaces -
      · simp at enough
      · obtain ⟨c, others, rfl, solid, -, quote⟩ := part_begins _ inside form
        have passed := ih fuel [] rest (by simp at enough ⊢; omega) no_spaces
        simp only [List.cons_append, List.append_assoc, List.nil_append] at passed ⊢
        refine (skip_object fuel space _ spaces inner c front solid ?_).trans passed
        rw [quote rfl]
        decide
  | lastElement value after _ left ih =>
      rintro (_ | fuel) space rest enough spaces
      · simp at enough
      · rw [List.append_assoc]
        refine skip_last_element fuel _ after rest left (ih fuel space _ ?_ spaces ?_)
        · simp at enough
          omega
        · exact ends_behind_spaces after _ left (ends_at ']' rest (by decide))
  | nextElement value before behind others _ front back _ ih later =>
      rintro (_ | fuel) space rest enough spaces
      · simp at enough
      · simp only [List.append_assoc, List.cons_append]
        rw [skip_next_element fuel _ before _ front (ih fuel space _ ?_ spaces ?_)]
        · exact later fuel behind rest (by simp at enough; omega) back
        · simp at enough
          omega
        · exact ends_behind_spaces before _ front (ends_at ',' _ (by decide))
  | lastMember name before behind value after named front back _ left ih =>
      rintro (_ | fuel) space rest enough spaces
      · simp at enough
      · simp only [List.append_assoc, List.cons_append]
        refine skip_last_member fuel space name before _ after rest spaces named front left
          (ih fuel behind _ ?_ back ?_)
        · simp at enough
          omega
        · exact ends_behind_spaces after _ left (ends_at '\x7d' rest (by decide))
  | nextMember name before behind value after next others named front back _ left right _ ih later =>
      rintro (_ | fuel) space rest enough spaces
      · simp at enough
      · simp only [List.append_assoc, List.cons_append]
        rw [skip_next_member fuel space name before _ after _ spaces named front left (ih fuel behind _ ?_ back ?_)]
        · exact later fuel next rest (by simp at enough; omega) right
        · simp at enough
          omega
        · exact ends_behind_spaces after _ left (ends_at ',' _ (by decide))

theorem value_passed_over (value space rest : Text) (form : WellFormed .value value) (spaces : Spaces space)
    (ends : EndsNumber rest) : skipAny (space ++ (value ++ rest)) = .ok rest := by
  refine part_passed_over .value value form _ space rest ?_ spaces ends
  simp only [List.length_append]
  omega

end LinkTidy.Json
