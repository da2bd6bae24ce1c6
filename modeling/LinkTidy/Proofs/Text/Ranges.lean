import LinkTidy.Proofs.Text.Cut
/-!
Ranges of a text between two byte offsets. Reading or replacing one fails if the offsets are out of order, past the end or
inside a character.
-/

set_option autoImplicit false

namespace LinkTidy

-- The text between two offsets.
def range? (start stop : Nat) (text : Text) : Option Text :=
  (cutAtByte? stop text).bind fun cut => (cutAtByte? start cut.1).map (·.2)

-- The text with another one in the place of that between two offsets.
def replaceRange? (start stop : Nat) (new text : Text) : Option Text :=
  (cutAtByte? stop text).bind fun cut => (cutAtByte? start cut.1).map fun front => front.1 ++ new ++ cut.2

theorem cut_at_byte_some (offset : Nat) (text before behind : Text)
    (cut : cutAtByte? offset text = some (before, behind)) : text = before ++ behind ∧ byteLength before = offset := by
  induction text generalizing offset before with
  | nil =>
      cases offset with
      | zero =>
          cases cut
          exact ⟨rfl, rfl⟩
      | succ n => cases cut
  | cons c rest ih =>
      cases offset with
      | zero =>
          cases cut
          exact ⟨rfl, rfl⟩
      | succ n =>
          rw [cutAtByte?] at cut
          by_cases fits : c.utf8Size ≤ n + 1
          · rw [if_pos fits, Option.map_eq_some_iff] at cut
            obtain ⟨⟨front, later⟩, deeper, same⟩ := cut
            cases same
            obtain ⟨rfl, size⟩ := ih _ front deeper
            refine ⟨rfl, ?_⟩
            rw [byteLength, size]
            omega
          · rw [if_neg fits] at cut
            cases cut

theorem range_middle (before middle behind : Text) :
    range? (byteLength before) (byteLength (before ++ middle)) (before ++ middle ++ behind) = some middle := by
  rw [range?, cut_at_byte_length (before ++ middle) behind, Option.bind_some, cut_at_byte_length before middle]
  rfl

theorem range_some_iff (start stop : Nat) (text middle : Text) :
    range? start stop text = some middle ↔
      ∃ before behind, text = before ++ middle ++ behind ∧ byteLength before = start ∧
        byteLength (before ++ middle) = stop := by
  constructor
  · intro read
    rw [range?, Option.bind_eq_some_iff] at read
    obtain ⟨⟨front, behind⟩, cut, read⟩ := read
    obtain ⟨⟨before, there⟩, deeper, same⟩ := Option.map_eq_some_iff.mp read
    have last : there = middle := same
    subst last
    obtain ⟨rfl, stopped⟩ := cut_at_byte_some stop text front behind cut
    obtain ⟨rfl, started⟩ := cut_at_byte_some start front before there deeper
    exact ⟨before, behind, rfl, started, stopped⟩
  · rintro ⟨before, behind, rfl, rfl, rfl⟩
    exact range_middle before middle behind

theorem replace_range_middle (before middle behind new : Text) :
    replaceRange? (byteLength before) (byteLength (before ++ middle)) new (before ++ middle ++ behind) =
      some (before ++ new ++ behind) := by
  rw [replaceRange?, cut_at_byte_length (before ++ middle) behind, Option.bind_some, cut_at_byte_length before middle]
  rfl

end LinkTidy
