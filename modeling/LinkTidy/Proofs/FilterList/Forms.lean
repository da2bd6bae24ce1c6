import LinkTidy.FilterList.Clause
import LinkTidy.Proofs.Text.Cut
/-!
The clauses of a line as two expressions find them. An expression can read the front of a text in several ways, of which
it prefers earlier branches to later ones, an optional part to none, and longer runs to shorter ones. A search takes the
way that is preferred at the first place where there is one, and goes on behind it.
-/

set_option autoImplicit false

namespace LinkTidy.FilterList

inductive Form where
  | literal (word : Text)
  | textStart
  -- One or more characters other than these.
  | run (excluded : Text)
  | optional (body : Form)
  | group (number : Nat) (body : Form)
  | sequence (a b : Form)
  | choice (a b : Form)

structure Match where
  read : Text
  groups : List (Nat × Text)
  behind : Text

-- The fronts of a text that a run can read, and what is behind each of them; the longest one first.
def fronts (test : Char → Bool) : Text → List (Text × Text)
  | [] => []
  | c :: rest =>
      if test c then (fronts test rest).map (fun cut => (c :: cut.1, cut.2)) ++ [([c], rest)] else []

-- All ways to read the front of a text, in the order of preference.
def Form.allMatches (atStart : Bool) : Form → Text → List Match
  | .literal word, text => (word.isPrefixOf? text).toList.map fun behind => ⟨word, [], behind⟩
  | .textStart, text => if atStart then [⟨[], [], text⟩] else []
  | .run excluded, text => (fronts (fun c => !excluded.contains c) text).map fun cut => ⟨cut.1, [], cut.2⟩
  | .optional body, text => body.allMatches atStart text ++ [⟨[], [], text⟩]
  | .group number body, text =>
      (body.allMatches atStart text).map fun matched => { matched with groups := (number, matched.read) :: matched.groups }
  | .sequence a b, text =>
      (a.allMatches atStart text).flatMap fun first =>
        (b.allMatches (atStart && first.read.isEmpty) first.behind).map fun second =>
          ⟨first.read ++ second.read, first.groups ++ second.groups, second.behind⟩
  | .choice a b, text => a.allMatches atStart text ++ b.allMatches atStart text

-- What a search finds, one match behind the other. `atStart` says that nothing stands in front of the text.
inductive Finds (form : Form) : Bool → Text → List Match → Prop where
  | done (atStart : Bool) (nothing : form.allMatches atStart [] = []) : Finds form atStart [] []
  | skip (atStart : Bool) (c : Char) (rest : Text) (found : List Match)
      (nothing : form.allMatches atStart (c :: rest) = []) (later : Finds form false rest found) :
      Finds form atStart (c :: rest) found
  | take (atStart : Bool) (text : Text) (first : Match) (others found : List Match)
      (preferred : form.allMatches atStart text = first :: others) (some : first.read ≠ [])
      (later : Finds form false first.behind found) : Finds form atStart text (first :: found)

theorem fronts_head (test : Char → Bool) (text : Text) :
    (fronts test text).head? =
      if (text.takeWhile test).isEmpty then none else some (text.takeWhile test, text.dropWhile test) := by
  induction text with
  | nil => rfl
  | cons c rest ih =>
      cases passes : test c with
      | false => simp [fronts, passes]
      | true =>
          rw [fronts, if_pos passes, List.takeWhile_cons_of_pos passes, List.dropWhile_cons_of_pos passes,
            List.head?_append, List.head?_map, ih]
          -- The longest front is one longer than the longest one of the rest, or it is only the first character.
          by_cases ended : (rest.takeWhile test).isEmpty = true
          · have none := List.isEmpty_iff.mp ended
            rw [if_pos ended, none, drop_while_untaken test rest none]
            rfl
          · rw [if_neg ended]
            rfl

theorem fronts_split (test : Char → Bool) (text : Text) :
    ∀ cut ∈ fronts test text, text = cut.1 ++ cut.2 ∧ cut.1 ≠ [] := by
  induction text with
  | nil => nofun
  | cons c rest ih =>
      intro cut member
      rw [fronts] at member
      split at member
      · rcases List.mem_append.mp member with longer | shortest
        · obtain ⟨front, inside, rfl⟩ := List.mem_map.mp longer
          exact ⟨congrArg (c :: ·) (ih front inside).1, List.cons_ne_nil _ _⟩
        · rw [List.mem_singleton] at shortest
          rw [shortest]
          exact ⟨rfl, List.cons_ne_nil _ _⟩
      · cases member

-- Nothing is left out between what is read and what is behind it.
theorem match_splits (form : Form) (atStart : Bool) (text : Text) (matched : Match)
    (member : matched ∈ form.allMatches atStart text) : text = matched.read ++ matched.behind := by
  induction form generalizing atStart text matched with
  | literal word =>
      obtain ⟨behind, begins, rfl⟩ := List.mem_map.mp member
      exact (List.isPrefixOf?_eq_some_iff_append_eq.mp (Option.mem_toList.mp begins)).symm
  | textStart =>
      rw [Form.allMatches] at member
      split at member
      · rw [List.mem_singleton] at member
        rw [member]
        rfl
      · cases member
  | run excluded =>
      obtain ⟨cut, inside, rfl⟩ := List.mem_map.mp member
      exact (fronts_split _ text cut inside).1
  | optional body ih =>
      rcases List.mem_append.mp member with present | absent
      · exact ih atStart text matched present
      · rw [List.mem_singleton] at absent
        rw [absent]
        rfl
  | group number body ih =>
      obtain ⟨inner, inside, rfl⟩ := List.mem_map.mp member
      exact ih atStart text inner inside
  | sequence a b first second =>
      obtain ⟨front, inFront, rest⟩ := List.mem_flatMap.mp member
      obtain ⟨back, inBack, rfl⟩ := List.mem_map.mp rest
      rw [first atStart text front inFront, second _ front.behind back inBack, List.append_assoc]
  | choice a b first second =>
      rcases List.mem_append.mp member with inFirst | inSecond
      · exact first atStart text matched inFirst
      · exact second atStart text matched inSecond

-- Whether an expression reads at least one character in every way.
def Form.consumes : Form → Bool
  | .literal word => !word.isEmpty
  | .textStart => false
  | .run _ => true
  | .optional _ => false
  | .group _ body => body.consumes
  | .sequence a b => a.consumes || b.consumes
  | .choice a b => a.consumes && b.consumes

theorem consumes_read (form : Form) (consumes : form.consumes = true) (atStart : Bool) (text : Text)
    (matched : Match) (member : matched ∈ form.allMatches atStart text) : matched.read ≠ [] := by
  induction form generalizing atStart text matched with
  | literal word =>
      obtain ⟨behind, -, rfl⟩ := List.mem_map.mp member
      simpa [Form.consumes] using consumes
  | textStart => cases consumes
  | run excluded =>
      obtain ⟨cut, inside, rfl⟩ := List.mem_map.mp member
      exact (fronts_split _ text cut inside).2
  | optional body => cases consumes
  | group number body ih =>
      obtain ⟨inner, inside, rfl⟩ := List.mem_map.mp member
      exact ih consumes atStart text inner inside
  | sequence a b first second =>
      obtain ⟨front, inFront, rest⟩ := List.mem_flatMap.mp member
      obtain ⟨back, inBack, rfl⟩ := List.mem_map.mp rest
      rw [Form.consumes, Bool.or_eq_true] at consumes
      rcases consumes with inA | inB
      · exact List.append_ne_nil_of_left_ne_nil (first inA atStart text front inFront) _
      · exact List.append_ne_nil_of_right_ne_nil _ (second inB _ front.behind back inBack)
  | choice a b first second =>
      rw [Form.consumes, Bool.and_eq_true] at consumes
      rcases List.mem_append.mp member with inFirst | inSecond
      · exact first consumes.1 atStart text matched inFirst
      · exact second consumes.2 atStart text matched inSecond

theorem finds_some (form : Form) (consumes : form.consumes = true) (atStart : Bool) (text : Text) :
    ∃ found, Finds form atStart text found := by
  -- The induction is on the length, because a search goes on behind a whole match.
  generalize size : text.length = n
  induction n using Nat.strongRecOn generalizing atStart text with
  | ind n shorter =>
      cases all : form.allMatches atStart text with
      | cons first others =>
          have member : first ∈ form.allMatches atStart text := by rw [all]; exact List.mem_cons_self
          have some := consumes_read form consumes atStart text first member
          have whole := congrArg List.length (match_splits form atStart text first member)
          have positive := List.length_pos_iff.mpr some
          rw [List.length_append] at whole
          obtain ⟨found, later⟩ := shorter first.behind.length (by omega) false first.behind rfl
          exact ⟨first :: found, .take atStart text first others found all some later⟩
      | nil =>
          cases text with
          | nil => exact ⟨[], .done atStart all⟩
          | cons c rest =>
              rw [List.length_cons] at size
              obtain ⟨found, later⟩ := shorter rest.length (by omega) false rest rfl
              exact ⟨found, .skip atStart c rest found all later⟩

theorem finds_behind (form : Form) (atStart : Bool) (text : Text) (first : Match) (others : List Match)
    (finds : Finds form atStart text (first :: others)) : Finds form false first.behind others := by
  generalize whole : first :: others = found at finds
  induction finds with
  | done => cases whole
  | skip _ _ _ _ _ _ ih => exact ih whole
  | take _ _ _ _ _ _ _ later =>
      cases whole
      exact later

end LinkTidy.FilterList
