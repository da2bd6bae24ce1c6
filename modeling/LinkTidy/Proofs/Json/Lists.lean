import LinkTidy.Proofs.Json.Strings
/-!
How strings and lists of strings are written as values, and that they are read as they were written.
-/

set_option autoImplicit false

namespace LinkTidy.Json

-- A string with its quotes.
def WrittenString (text written : Text) : Prop :=
  ∃ inside, WrittenText text inside ∧ written = '"' :: (inside ++ ['"'])

-- Strings with commas between them.
inductive WrittenTexts : List Text → Text → Prop where
  | last (text written space : Text) (string : WrittenString text written) (spaces : Spaces space) :
      WrittenTexts [text] (written ++ space)
  | next (text written before behind : Text) (texts : List Text) (rest : Text) (string : WrittenString text written)
      (front : Spaces before) (back : Spaces behind) (later : WrittenTexts texts rest) :
      WrittenTexts (text :: texts) (written ++ (before ++ ',' :: (behind ++ rest)))

-- A list of strings with its brackets.
inductive WrittenList : List Text → Text → Prop where
  | empty (space : Text) (spaces : Spaces space) : WrittenList [] ('[' :: (space ++ [']']))
  | some (texts : List Text) (space inside : Text) (spaces : Spaces space) (written : WrittenTexts texts inside) :
      WrittenList texts ('[' :: (space ++ (inside ++ [']'])))

theorem read_text_written (expected text written space rest : Text) (string : WrittenString text written)
    (spaces : Spaces space) : readText expected (space ++ (written ++ rest)) = .ok (text, rest) := by
  obtain ⟨inside, chars, rfl⟩ := string
  have start := drop_to space '"' (inside ++ ['"'] ++ rest) spaces (by decide)
  rw [List.append_assoc] at start
  rw [List.cons_append, List.append_assoc, readText, start]
  exact read_written text inside rest chars

section

variable (expected text written behind rest : Text) (texts : List Text) (fuel : Nat)
  (later : readTexts expected fuel false behind = .ok (texts, rest))

include later

theorem read_texts_first (string : WrittenString text written) (space : Text) (spaces : Spaces space) :
    readTexts expected (fuel + 1) true (space ++ (written ++ behind)) = .ok (text :: texts, rest) := by
  have read := read_text_written expected text written [] behind string no_spaces
  obtain ⟨inside, chars, rfl⟩ := string
  simp only [List.nil_append, List.cons_append, List.append_assoc] at read ⊢
  rw [readTexts, drop_to space '"' _ spaces (by decide)]
  simp [read, later, bind, Except.bind]

theorem read_texts_next (string : WrittenString text written) (before space : Text) (front : Spaces before)
    (spaces : Spaces space) :
    readTexts expected (fuel + 1) false (before ++ ',' :: (space ++ (written ++ behind))) =
      .ok (text :: texts, rest) := by
  have read := read_text_written expected text written [] behind string no_spaces
  obtain ⟨inside, chars, rfl⟩ := string
  simp only [List.nil_append, List.cons_append, List.append_assoc] at read ⊢
  rw [readTexts, drop_to before ',' _ front (by decide)]
  simp [drop_to space '"' _ spaces (by decide), read, later, bind, Except.bind]

end

theorem read_texts_end (expected before rest : Text) (fuel : Nat) (first : Bool) (front : Spaces before) :
    readTexts expected (fuel + 1) first (before ++ ']' :: rest) = .ok ([], rest) := by
  rw [readTexts, drop_to before ']' rest front (by decide)]
  rfl

theorem read_texts_behind (expected rest : Text) (texts : List Text) (inside : Text)
    (written : WrittenTexts texts inside) (fuel : Nat) (enough : texts.length < fuel) :
    (∀ space, Spaces space →
      readTexts expected fuel true (space ++ (inside ++ ']' :: rest)) = .ok (texts, rest)) ∧
      ∀ before space, Spaces before → Spaces space →
        readTexts expected fuel false (before ++ ',' :: (space ++ (inside ++ ']' :: rest))) = .ok (texts, rest) := by
  induction written generalizing fuel with
  | last text written after string spaces =>
      obtain ⟨fuel, rfl⟩ : ∃ less, fuel = less + 2 := ⟨fuel - 2, by simp at enough; omega⟩
      have ending := read_texts_end expected after rest fuel false spaces
      rw [List.append_assoc]
      exact ⟨read_texts_first expected text written _ rest [] (fuel + 1) ending string,
        read_texts_next expected text written _ rest [] (fuel + 1) ending string⟩
  | next text written before behind texts others string front back _ ih =>
      obtain ⟨fuel, rfl⟩ : ∃ less, fuel = less + 1 := ⟨fuel - 1, by simp at enough; omega⟩
      have ending := (ih fuel (by simpa using enough)).2 before behind front back
      simp only [List.append_assoc, List.cons_append]
      exact ⟨read_texts_first expected text written _ rest texts fuel ending string,
        read_texts_next expected text written _ rest texts fuel ending string⟩

theorem texts_length (texts : List Text) (inside : Text) (written : WrittenTexts texts inside) :
    texts.length ≤ inside.length := by
  induction written with
  | last text written space string spaces =>
      obtain ⟨chars, -, rfl⟩ := string
      simp
  | next text written before behind texts rest string front back _ ih =>
      simp only [List.length_cons, List.length_append]
      omega

theorem read_list_written (texts : List Text) (written space rest : Text) (list : WrittenList texts written)
    (spaces : Spaces space) : readTextList (space ++ (written ++ rest)) = .ok (texts, rest) := by
  cases list with
  | empty inner inside =>
      rw [List.cons_append, readTextList, drop_to space '[' _ spaces (by decide), List.append_assoc]
      exact read_texts_end _ inner rest _ true inside
  | some _ inner inside front strings =>
      rw [List.cons_append, readTextList, drop_to space '[' _ spaces (by decide)]
      simp only [List.append_assoc, List.cons_append, List.nil_append]
      have bound := texts_length texts inside strings
      refine (read_texts_behind _ rest texts inside strings _ ?_).1 inner front
      simp only [List.length_append]
      omega

theorem string_writable (text : Text) : ∃ written, WrittenString text written := by
  obtain ⟨inside, written⟩ := text_writable text
  exact ⟨_, inside, written, rfl⟩

theorem texts_writable (text : Text) (texts : List Text) : ∃ inside, WrittenTexts (text :: texts) inside := by
  induction texts generalizing text with
  | nil =>
      obtain ⟨written, string⟩ := string_writable text
      exact ⟨_, .last text written [] string no_spaces⟩
  | cons next texts ih =>
      obtain ⟨written, string⟩ := string_writable text
      obtain ⟨rest, later⟩ := ih next
      exact ⟨_, .next text written [] [] _ rest string no_spaces no_spaces later⟩

theorem list_writable (texts : List Text) : ∃ written, WrittenList texts written := by
  cases texts with
  | nil => exact ⟨_, .empty [] no_spaces⟩
  | cons text texts =>
      obtain ⟨inside, written⟩ := texts_writable text texts
      exact ⟨_, .some _ [] inside no_spaces written⟩

end LinkTidy.Json
