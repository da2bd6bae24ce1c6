import LinkTidy.Text
/-!
Fields between separators: no field holds the separator, and the fields of joined pieces are the pieces. Likewise the
lines of a text that is cut behind line feeds are the lines of the pieces.
-/

set_option autoImplicit false

namespace LinkTidy

section

variable {α : Type} [DecidableEq α]

theorem fields_cons_sep (sep : α) (rest : List α) : fields sep (sep :: rest) = [] :: fields sep rest := by
  rw [fields, if_pos rfl]

theorem fields_cons_other (sep x : α) (rest : List α) (differs : x ≠ sep) :
    ∃ first others, fields sep rest = first :: others ∧ fields sep (x :: rest) = (x :: first) :: others := by
  cases split : fields sep rest with
  | nil => exact absurd split (fields_ne_nil sep rest)
  | cons first others => exact ⟨first, others, rfl, by rw [fields, if_neg differs, split]⟩

theorem mem_fields (sep : α) (xs field : List α) (member : field ∈ fields sep xs) (x : α) (inside : x ∈ field) :
    x ∈ xs ∧ x ≠ sep := by
  induction xs generalizing field with
  | nil =>
      rw [fields, List.mem_singleton] at member
      rw [member] at inside
      cases inside
  | cons y rest ih =>
      by_cases same : y = sep
      · rw [same, fields_cons_sep, List.mem_cons] at member
        rcases member with rfl | later
        · cases inside
        · exact ⟨List.mem_cons_of_mem _ (ih field later inside).1, (ih field later inside).2⟩
      · obtain ⟨first, others, split, step⟩ := fields_cons_other sep y rest same
        rw [step, List.mem_cons] at member
        rcases member with rfl | later
        · rcases List.mem_cons.mp inside with rfl | deeper
          · exact ⟨List.mem_cons_self, same⟩
          · have known := ih first (by rw [split]; exact List.mem_cons_self) deeper
            exact ⟨List.mem_cons_of_mem _ known.1, known.2⟩
        · have known := ih field (by rw [split]; exact List.mem_cons_of_mem _ later) inside
          exact ⟨List.mem_cons_of_mem _ known.1, known.2⟩

theorem fields_apart (sep : α) (xs : List α) : ∀ field ∈ fields sep xs, sep ∉ field :=
  fun field member inside => (mem_fields sep xs field member sep inside).2 rfl

theorem fields_plain (sep : α) (xs : List α) (plain : sep ∉ xs) : fields sep xs = [xs] := by
  induction xs with
  | nil => rfl
  | cons x rest ih =>
      have differs : x ≠ sep := fun same => plain (same ▸ List.mem_cons_self)
      rw [fields, if_neg differs, ih fun later => plain (List.mem_cons_of_mem _ later)]

theorem fields_cut (sep : α) (xs ys : List α) : fields sep (xs ++ sep :: ys) = fields sep xs ++ fields sep ys := by
  induction xs with
  | nil => exact fields_cons_sep sep ys
  | cons x rest ih =>
      by_cases same : x = sep
      · rw [same, List.cons_append, fields_cons_sep, fields_cons_sep, ih, List.cons_append]
      · obtain ⟨first, others, split, step⟩ := fields_cons_other sep x rest same
        rw [step, List.cons_append, fields, if_neg same, ih, split]
        rfl

theorem fields_append_sep (sep : α) (piece rest : List α) (plain : sep ∉ piece) :
    fields sep (piece ++ sep :: rest) = piece :: fields sep rest := by
  rw [fields_cut, fields_plain sep piece plain, List.singleton_append]

theorem fields_ending_sep (sep : α) (xs : List α) : fields sep (xs ++ [sep]) = fields sep xs ++ [[]] :=
  fields_cut sep xs []

theorem fields_intercalate (sep : α) (pieces : List (List α)) (some : pieces ≠ [])
    (plain : ∀ piece ∈ pieces, sep ∉ piece) : fields sep ([sep].intercalate pieces) = pieces := by
  induction pieces with
  | nil => exact absurd rfl some
  | cons piece rest ih =>
      have here := plain piece List.mem_cons_self
      cases rest with
      | nil => rw [List.intercalate_singleton, fields_plain sep piece here]
      | cons next others =>
          have later := ih (List.cons_ne_nil _ _) fun other member => plain other (List.mem_cons_of_mem _ member)
          rw [List.intercalate_cons_cons, List.append_assoc, List.singleton_append, fields_append_sep sep piece _ here, later]

theorem intercalate_fields (sep : α) (xs : List α) : [sep].intercalate (fields sep xs) = xs := by
  induction xs with
  | nil => exact List.intercalate_singleton
  | cons x rest ih =>
      by_cases same : x = sep
      · rw [same, fields_cons_sep]
        obtain ⟨first, others, split⟩ := List.exists_cons_of_ne_nil (fields_ne_nil sep rest)
        rw [split] at ih ⊢
        rw [List.intercalate_cons_cons, ih, List.nil_append, List.singleton_append]
      · obtain ⟨first, others, split, step⟩ := fields_cons_other sep x rest same
        rw [split] at ih
        rw [step]
        cases others with
        | nil =>
            rw [List.intercalate_singleton] at ih ⊢
            rw [ih]
        | cons next more =>
            rw [List.intercalate_cons_cons] at ih ⊢
            rw [List.cons_append, List.cons_append, ih]

theorem fields_several (sep : α) (xs : List α) (member : sep ∈ xs) : 2 ≤ (fields sep xs).length := by
  obtain ⟨front, behind, rfl⟩ := List.append_of_mem member
  have some := fun ys => List.length_pos_iff.mpr (fields_ne_nil sep ys)
  have first := some front
  have second := some behind
  rw [fields_cut, List.length_append]
  omega

end

theorem drop_last_absent (c : Char) (text : Text) (absent : text.getLast? ≠ some c) : dropLastChar c text = text :=
  if_neg absent

theorem drop_last_written (c : Char) (text : Text) : dropLastChar c (text ++ [c]) = text := by
  rw [dropLastChar, if_pos List.getLast?_concat, List.dropLast_concat]

theorem end_lines_append (ended others : List Text) (some : others ≠ []) :
    endLines (ended ++ others) = ended.map (dropLastChar '\r') ++ endLines others := by
  induction ended with
  | nil => rfl
  | cons line rest ih =>
      obtain ⟨next, more, split⟩ : ∃ next more, rest ++ others = next :: more :=
        List.exists_cons_of_ne_nil (List.append_ne_nil_of_right_ne_nil rest some)
      rw [List.cons_append, split, endLines, ← split, ih, List.map_cons, List.cons_append]

theorem lines_append (front behind : Text) (ended : front.getLast? = some '\n') :
    lines (front ++ behind) = lines front ++ lines behind := by
  obtain ⟨text, rfl⟩ := List.getLast?_eq_some_iff.mp ended
  have whole := end_lines_append (fields '\n' text) (fields '\n' behind) (fields_ne_nil _ _)
  have first := end_lines_append (fields '\n' text) [[]] (List.cons_ne_nil _ _)
  rw [lines, lines, lines, List.append_assoc, List.singleton_append, fields_cut, whole, fields_ending_sep, first]
  simp [endLines]

theorem end_lines_plain (c : Char) (texts : List Text) (plain : ∀ text ∈ texts, c ∉ text) :
    ∀ line ∈ endLines texts, c ∉ line := by
  induction texts with
  | nil => exact List.forall_mem_nil _
  | cons text rest ih =>
      obtain ⟨here, others⟩ := List.forall_mem_cons.mp plain
      cases rest with
      | nil =>
          rw [endLines]
          split
          · exact List.forall_mem_nil _
          · exact plain
      | cons next more =>
          refine List.forall_mem_cons.mpr ⟨fun inside => here ?_, ih others⟩
          rw [dropLastChar] at inside
          split at inside
          · exact (List.dropLast_sublist text).mem inside
          · exact inside

theorem lines_plain (text : Text) : ∀ line ∈ lines text, '\n' ∉ line :=
  end_lines_plain '\n' _ (fields_apart '\n' text)

theorem lines_ended (line : Text) (plain : '\n' ∉ line) : lines (line ++ ['\n']) = [dropLastChar '\r' line] := by
  rw [lines, fields_ending_sep, fields_plain '\n' line plain]
  rfl

-- Printed lines are read back as they are.
theorem lines_unlines (texts : List Text) (plain : ∀ text ∈ texts, '\n' ∉ text ∧ text.getLast? ≠ some '\r')
    (behind : Text) : lines (unlines texts ++ behind) = texts ++ lines behind := by
  induction texts with
  | nil => rfl
  | cons text rest ih =>
      obtain ⟨⟨noFeed, noReturn⟩, others⟩ := List.forall_mem_cons.mp plain
      rw [unlines, List.flatMap_cons, List.append_assoc, lines_append _ _ List.getLast?_concat, lines_ended text noFeed,
        drop_last_absent '\r' text noReturn, List.singleton_append]
      exact congrArg (text :: ·) (ih others)

theorem lines_flatten (texts : List Text) (ended : ∀ text ∈ texts.dropLast, text.getLast? = some '\n') :
    lines texts.flatten = texts.flatMap lines := by
  induction texts with
  | nil => rfl
  | cons text rest ih =>
      cases rest with
      | nil => simp
      | cons next others =>
          rw [List.dropLast_cons_of_ne_nil (List.cons_ne_nil next others), List.forall_mem_cons] at ended
          rw [List.flatten_cons, lines_append text _ ended.1, ih ended.2]
          rfl

end LinkTidy
