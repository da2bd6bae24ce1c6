import LinkTidy.Text
import Mathlib.Data.List.Basic
/-!
Cuts give the text back: at a word and at a byte offset.
-/

set_option autoImplicit false

namespace LinkTidy

theorem cut_at_append (word text before behind : Text) (found : cutAt? word text = some (before, behind)) :
    text = before ++ word ++ behind := by
  induction text generalizing before with
  | nil =>
      cases word with
      | nil =>
          simp only [cutAt?, List.isEmpty_nil, if_true, Option.some.injEq, Prod.mk.injEq] at found
          rw [← found.1, ← found.2]
          rfl
      | cons c rest => simp [cutAt?] at found
  | cons c rest ih =>
      cases first : word.isPrefixOf? (c :: rest) with
      | some after =>
          simp only [cutAt?, first, Option.some.injEq, Prod.mk.injEq] at found
          rw [← found.1, ← found.2, List.nil_append]
          exact (List.isPrefixOf?_eq_some_iff_append_eq.mp first).symm
      | none =>
          simp only [cutAt?, first, Option.map_eq_some_iff, Prod.mk.injEq, Prod.exists] at found
          obtain ⟨earlier, later, cut, rfl, rfl⟩ := found
          rw [List.cons_append, List.cons_append, ← ih earlier cut]

theorem is_prefix_none (word text : Text) (absent : ¬ word <+: text) : word.isPrefixOf? text = none := by
  cases begins : word.isPrefixOf? text with
  | none => rfl
  | some rest => exact absurd ⟨rest, List.isPrefixOf?_eq_some_iff_append_eq.mp begins⟩ absent

theorem not_begins (word text : Text) (none : word.isPrefixOf? text = none) : ¬ word <+: text := by
  rintro ⟨rest, begins⟩
  rw [List.isPrefixOf?_eq_some_iff_append_eq.mpr begins] at none
  cases none

theorem cut_at_none (word text : Text) (absent : cutAt? word text = none) : ¬ word <:+: text := by
  induction text with
  | nil =>
      cases word with
      | nil => cases absent
      | cons c rest => simp
  | cons c rest ih =>
      cases first : word.isPrefixOf? (c :: rest) with
      | some after => simp [cutAt?, first] at absent
      | none =>
          simp only [cutAt?, first, Option.map_eq_none_iff] at absent
          rw [List.infix_cons_iff, not_or]
          exact ⟨not_begins word _ first, ih absent⟩

-- Whether a text is all that stands in front of a word where it first occurs.
def PrecedesFirst (before word text : Text) : Prop :=
  before ++ word <+: text ∧ ∀ earlier, earlier ++ word <+: text → before.length ≤ earlier.length

theorem cut_at_first (word text before behind : Text) (found : cutAt? word text = some (before, behind)) :
    PrecedesFirst before word text := by
  refine ⟨⟨behind, (cut_at_append word text before behind found).symm⟩, ?_⟩
  induction text generalizing before with
  | nil =>
      have none := cut_at_append word [] before behind found
      simp only [List.nil_eq, List.append_eq_nil_iff] at none
      intro earlier _
      rw [none.1.1]
      exact Nat.zero_le _
  | cons c rest ih =>
      intro earlier occurs
      cases first : word.isPrefixOf? (c :: rest) with
      | some after =>
          simp only [cutAt?, first, Option.some.injEq, Prod.mk.injEq] at found
          rw [← found.1]
          exact Nat.zero_le _
      | none =>
          simp only [cutAt?, first, Option.map_eq_some_iff, Prod.mk.injEq, Prod.exists] at found
          obtain ⟨front, later, cut, rfl, rfl⟩ := found
          cases earlier with
          | nil => exact absurd occurs (not_begins word _ first)
          | cons d earlier =>
              have deeper := ih front cut earlier (List.cons_prefix_cons.mp occurs).2
              simpa using deeper

theorem cut_at_first_iff (word text before : Text) :
    (∃ behind, cutAt? word text = some (before, behind)) ↔ PrecedesFirst before word text := by
  constructor
  · rintro ⟨behind, found⟩
    exact cut_at_first word text before behind found
  · rintro ⟨⟨rest, whole⟩, first⟩
    cases cut : cutAt? word text with
    | none => exact absurd ⟨before, rest, whole⟩ (cut_at_none word text cut)
    | some parts =>
        obtain ⟨front, behind⟩ := parts
        obtain ⟨occurs, least⟩ := cut_at_first word text front behind cut
        -- Both are the shortest, so they are the same beginning of the text.
        have size := Nat.le_antisymm (first front occurs) (least before ⟨rest, whole⟩)
        obtain ⟨more, other⟩ := occurs
        rw [← whole, List.append_assoc, List.append_assoc] at other
        exact ⟨behind, by rw [(List.append_inj other size.symm).1]⟩

theorem cut_at_absent (word text : Text) (absent : ¬ word <:+: text) : cutAt? word text = none := by
  cases cut : cutAt? word text with
  | none => rfl
  | some parts => exact absurd ⟨parts.1, parts.2, (cut_at_append word text parts.1 parts.2 cut).symm⟩ absent

theorem is_prefix_append (word rest : Text) : word.isPrefixOf? (word ++ rest) = some rest :=
  List.isPrefixOf?_eq_some_iff_append_eq.mpr rfl

theorem occurs_in_iff (word text : Text) : occursIn word text = true ↔ word <:+: text := by
  induction text with
  | nil => simp [occursIn]
  | cons c rest ih => rw [occursIn, Bool.or_eq_true, ih, List.isPrefixOf_iff_prefix, List.infix_cons_iff]

theorem take_while_stop (test : Char → Bool) (front rest : Text) (c : Char) (each : ∀ d ∈ front, test d = true)
    (stop : test c = false) :
    (front ++ c :: rest).takeWhile test = front ∧ (front ++ c :: rest).dropWhile test = c :: rest := by
  rw [List.takeWhile_append_of_pos each, List.dropWhile_append_of_pos each]
  simp [stop]

theorem drop_while_untaken (test : Char → Bool) (text : Text) (untaken : text.takeWhile test = []) :
    text.dropWhile test = text := by
  have whole := List.takeWhile_append_dropWhile (p := test) (l := text)
  rw [untaken, List.nil_append] at whole
  exact whole

theorem take_while_ended (test : Char → Bool) (front behind : Text) (each : ∀ d ∈ front, test d = true)
    (ending : ∀ c, behind.head? = some c → test c = false) :
    (front ++ behind).takeWhile test = front ∧ (front ++ behind).dropWhile test = behind := by
  cases behind with
  | nil =>
      rw [List.takeWhile_append_of_pos each, List.dropWhile_append_of_pos each]
      exact ⟨List.append_nil front, rfl⟩
  | cons c rest => exact take_while_stop test front rest c each (ending c rfl)

-- A word cannot reach into a text that begins with a sign the word does not hold.
theorem prefix_before_stop (word front behind : Text) (stop : ∀ sign, behind.head? = some sign → sign ∉ word)
    (begins : word <+: front ++ behind) : word <+: front := by
  obtain ⟨more, whole⟩ := begins
  rcases List.append_eq_append_iff.mp whole with ⟨gap, same, -⟩ | ⟨gap, same, later⟩
  · exact ⟨gap, same.symm⟩
  · cases gap with
    | nil => exact ⟨[], by rw [same, List.append_nil, List.append_nil]⟩
    | cons sign gap =>
        have outside := stop sign (by rw [later]; rfl)
        exact absurd (same ▸ List.mem_append_right front List.mem_cons_self) outside

-- Nor can it begin in a text that does not hold its first sign.
theorem infix_behind_plain (word front rest : Text) (sign : Char) (leads : word.head? = some sign)
    (absent : sign ∉ front) (inside : word <:+: front ++ rest) : word <:+: rest := by
  induction front with
  | nil => exact inside
  | cons c more ih =>
      rcases List.infix_cons_iff.mp inside with begins | later
      · cases word with
        | nil => cases leads
        | cons d word =>
            have same : d = c := (List.cons_prefix_cons.mp begins).1
            have first : d = sign := Option.some.inj leads
            exact absurd (first ▸ same ▸ List.mem_cons_self) absent
      · exact ih (fun member => absent (List.mem_cons_of_mem _ member)) later

-- A word is first found where it stands behind a text without its first sign.
theorem cut_at_fresh (word before behind : Text) (sign : Char) (leads : word.head? = some sign) (absent : sign ∉ before) :
    cutAt? word (before ++ (word ++ behind)) = some (before, behind) := by
  induction before with
  | nil =>
      obtain ⟨more, rfl⟩ := List.head?_eq_some_iff.mp leads
      have begins := is_prefix_append (sign :: more) behind
      rw [List.nil_append, List.cons_append] at *
      rw [cutAt?, begins]
  | cons c rest ih =>
      have quiet : ¬ word <+: c :: (rest ++ (word ++ behind)) := by
        obtain ⟨more, rfl⟩ := List.head?_eq_some_iff.mp leads
        exact fun begins => absent ((List.cons_prefix_cons.mp begins).1 ▸ List.mem_cons_self)
      rw [List.cons_append, cutAt?, is_prefix_none word _ quiet, ih fun later => absent (List.mem_cons_of_mem _ later)]
      rfl

theorem byte_length_zero (text : Text) (zero : byteLength text = 0) : text = [] := by
  cases text with
  | nil => rfl
  | cons c rest =>
      have positive := Char.utf8Size_pos c
      simp only [byteLength] at zero
      omega

theorem cut_at_byte_length (before behind : Text) :
    cutAtByte? (byteLength before) (before ++ behind) = some (before, behind) := by
  induction before with
  | nil =>
      cases behind <;> rfl
  | cons c rest ih =>
      have positive := Char.utf8Size_pos c
      obtain ⟨n, size⟩ : ∃ n, c.utf8Size + byteLength rest = n + 1 := ⟨c.utf8Size + byteLength rest - 1, by omega⟩
      -- The offset is past the first character, so the cut does not fall into it.
      have left : n + 1 - c.utf8Size = byteLength rest := by omega
      have fits : c.utf8Size ≤ n + 1 := by omega
      simp [byteLength, size, cutAtByte?, fits, left, ih]

-- The text between two byte offsets, if both are ends of characters.
def slice (start stop : Nat) (text : Text) : Text :=
  ((cutAtByte? stop text).bind fun cut => (cutAtByte? start cut.1).map (·.2)).getD []

theorem slice_middle (before middle behind : Text) :
    slice (byteLength before) (byteLength (before ++ middle)) (before ++ middle ++ behind) = middle := by
  rw [slice, cut_at_byte_length (before ++ middle) behind, Option.bind_some, cut_at_byte_length before middle]
  rfl

-- Of two beginnings of one text the shorter one begins the longer one.
theorem shorter_beginning (a b x y : Text) (same : a ++ x = b ++ y) (shorter : byteLength a ≤ byteLength b) :
    ∃ gap, b = a ++ gap ∧ x = gap ++ y := by
  rcases List.append_eq_append_iff.mp same with ⟨gap, later, rest⟩ | ⟨gap, later, rest⟩
  · exact ⟨gap, later, rest⟩
  · have size := byte_length_append b gap
    rw [← later] at size
    have none : gap = [] := byte_length_zero gap (by omega)
    subst none
    exact ⟨[], by simpa using later.symm, by simpa using rest.symm⟩

theorem same_place {a b x y : Text} (same : a ++ x = b ++ y) (size : byteLength a = byteLength b) : a = b ∧ x = y := by
  obtain ⟨gap, rfl, rfl⟩ := shorter_beginning a b x y same (Nat.le_of_eq size)
  rw [byte_length_append] at size
  have none : gap = [] := byte_length_zero gap (by omega)
  rw [none]
  exact ⟨(List.append_nil a).symm, rfl⟩

end LinkTidy
