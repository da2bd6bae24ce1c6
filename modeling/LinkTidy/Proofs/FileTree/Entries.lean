import LinkTidy.Proofs.FileTree.Ways
import LinkTidy.Proofs.Text.Fields
/-!
The entries of a directory: how a path names one of them, and what is listed of them.
-/

set_option autoImplicit false

namespace LinkTidy.FileTree

-- The fields of the path of a name are those of its directory, without what a separator at the end leaves, and then the
-- name.
theorem fields_path_in (directory name : Text) (plain : '/' ∉ name) :
    ∃ front, fields '/' (pathIn directory name) = front ++ [name] ∧
      (fields '/' directory = front ∨ fields '/' directory = front ++ [[]]) := by
  have single := fields_plain '/' name plain
  rw [pathIn]
  by_cases ended : directory.isEmpty ∨ directory.getLast? = some '/'
  · rw [if_pos ended]
    rcases ended with empty | slash
    · rw [List.isEmpty_iff.mp empty]
      exact ⟨[], single, .inr rfl⟩
    · obtain ⟨init, rfl⟩ := List.getLast?_eq_some_iff.mp slash
      refine ⟨fields '/' init, ?_, .inr (fields_ending_sep '/' init)⟩
      rw [List.append_assoc, List.singleton_append, fields_cut, single]
  · rw [if_neg ended, fields_cut, single]
    exact ⟨fields '/' directory, rfl, .inl rfl⟩

-- A name that can be the last one in a path.
structure IsName (name : Text) : Prop where
  one_name : '/' ∉ name
  some : name ≠ []
  no_dots : name ≠ ['.'] ∧ name ≠ "..".toList
  no_zero : '\x00' ∉ name

-- Neither the name nor its path in the directory is too long.
structure Fits (directory name : Text) : Prop where
  short_name : byteLength name ≤ maxName
  short_path : byteLength (pathIn directory name) ≤ maxPath

instance (directory name : Text) : Decidable (Fits directory name) :=
  decidable_of_iff (byteLength name ≤ maxName ∧ byteLength (pathIn directory name) ≤ maxPath)
    ⟨fun both => ⟨both.1, both.2⟩, fun fits => ⟨fits.short_name, fits.short_path⟩⟩

theorem step_name (location : Location) (name : Text) (isName : IsName name) :
    location.step name = location ++ [name] := by
  rw [Location.step, if_neg, if_neg isName.no_dots.2]
  simp [isName.some, isName.no_dots.1]

theorem start_path_in (tree : FileTree) (directory name : Text) (isName : IsName name) :
    tree.start (pathIn directory name) = tree.start directory := by
  have sameHead : (pathIn directory name).head? = some '/' ↔ directory.head? = some '/' := by
    cases directory with
    | nil =>
        rw [pathIn, if_pos (.inl rfl), List.nil_append]
        refine iff_of_false (fun slash => isName.one_name (List.mem_of_head? slash)) nofun
    | cons first rest =>
        rw [pathIn]
        split <;> rfl
  simp only [start, sameHead]

-- The name of a place in a directory that is there names it, unless it is too long.
theorem locate_path_in (tree : FileTree) (directory name : Text) (settled : tree.makeDirectory directory = (tree, true))
    (isName : IsName name) :
    tree.locate (pathIn directory name) =
      if Fits directory name then .ok (tree.placeOf directory ++ [name]) else .error .nameTooLong := by
  have isDirectory := created_directory settled
  have walked := created_walk settled tree rfl fun _ kept => kept
  obtain ⟨noZero, -, -⟩ := make_directory_way settled
  have plain : (pathIn directory name).contains '\x00' = false := by
    have apart := isName.no_zero
    rw [List.contains_eq_mem, decide_eq_false_iff_not] at noZero ⊢
    rw [pathIn]
    split <;> simp [noZero, apart]
  have some : (pathIn directory name).isEmpty = false := by
    rw [List.isEmpty_eq_false_iff, pathIn]
    split <;> simp [isName.some]
  obtain ⟨front, whole, parts⟩ := fields_path_in directory name isName.one_name
  have front_walked : tree.walk (tree.start directory) front = .ok (tree.placeOf directory) := by
    rcases parts with same | ended
    · rw [← same, walked]
    · rw [ended, walk_append] at walked
      cases between : tree.walk (tree.start directory) front with
      | error e => rw [between] at walked; cases walked
      | ok place =>
          rw [between] at walked
          obtain ⟨-, -, stays⟩ := (enter_ok_iff tree place _ []).mp ((walk_single tree place []).symm.trans walked)
          rw [stays]
          rfl
  rw [locate, plain, some, start_path_in tree directory name isName, whole, walk_append, front_walked]
  simp only [Bool.false_eq_true, if_false, Except.bind, walk_single, enter, isDirectory, step_name _ name isName]
  by_cases long : maxPath < byteLength (pathIn directory name)
  · rw [if_pos long, if_neg fun fits => Nat.not_le.mpr long fits.short_path]
  · rw [if_neg long]
    by_cases longName : maxName < byteLength name
    · rw [if_pos longName, if_neg fun fits => Nat.not_le.mpr longName fits.short_name]
    · rw [if_neg longName, if_pos ⟨Nat.not_lt.mp longName, Nat.not_lt.mp long⟩]

theorem erase_dups_nodup (names : List Text) (distinct : names.Nodup) : names.eraseDups = names := by
  induction names with
  | nil => rfl
  | cons name rest ih =>
      obtain ⟨absent, later⟩ := List.nodup_cons.mp distinct
      have others : rest.filter (fun other => !other == name) = rest := by
        refine List.filter_eq_self.mpr fun other member => ?_
        simpa using fun same : other = name => absent (same ▸ member)
      rw [List.eraseDups_cons, others, ih later]

-- What is found below a location, by the first name of the way there.
def nameBelow? (location other : Location) : Option Text :=
  (location.isPrefixOf? other).bind (·.head?)

theorem name_below_child (location : Location) (name : Text) :
    nameBelow? location (location ++ [name]) = some name := by
  rw [nameBelow?, List.isPrefixOf?_eq_some_iff_append_eq.mpr rfl]
  rfl

theorem name_below_none (location other : Location) (apart : location <+: other → other = location) :
    nameBelow? location other = none := by
  rw [nameBelow?]
  cases found : location.isPrefixOf? other with
  | none => rfl
  | some rest =>
      have whole := List.isPrefixOf?_eq_some_iff_append_eq.mp found
      have same := apart ⟨rest, whole⟩
      rw [same] at whole
      rw [List.append_right_eq_self.mp whole]
      rfl

theorem find_copy (location : Location) (copies : List (Text × Bytes)) (distinct : (copies.map (·.1)).Nodup)
    (copy : Text × Bytes) (member : copy ∈ copies) :
    (copies.map fun other => (location ++ [other.1], other.2)).find? (fun entry => entry.1 == location ++ [copy.1]) =
      some (location ++ [copy.1], copy.2) := by
  induction copies with
  | nil => cases member
  | cons first rest ih =>
      rw [List.map_cons, List.nodup_cons] at distinct
      rcases List.mem_cons.mp member with rfl | later
      · simp
      · have other : first.1 ≠ copy.1 := fun same => distinct.1 (same ▸ List.mem_map_of_mem later)
        rw [List.map_cons, List.find?_cons_of_neg (by simpa using other)]
        exact ih distinct.2 later

-- A directory whose entries are files, each put there under a name of its own.
theorem entries_of_copies (tree : FileTree) (path : Text) (location : Location)
    (place : tree.locate path = .ok location) (isDirectory : tree.kindAt location = .directory)
    (others : List (Location × Bytes)) (copies : List (Text × Bytes))
    (files : tree.files = others ++ copies.map fun copy => (location ++ [copy.1], copy.2))
    (apart : ∀ file ∈ others, ¬ location <+: file.1)
    (flat : ∀ directory ∈ tree.directories, location <+: directory → directory = location)
    (distinct : (copies.map (·.1)).Nodup) : tree.entries? path = some copies := by
  have below : (tree.files.map (·.1) ++ tree.directories).filterMap (nameBelow? location) = copies.map (·.1) := by
    have outside : (others.map (·.1)).filterMap (nameBelow? location) = [] := by
      rw [List.filterMap_eq_nil_iff]
      intro other member
      obtain ⟨file, inside, rfl⟩ := List.mem_map.mp member
      exact name_below_none location file.1 fun order => absurd order (apart file inside)
    have directories : tree.directories.filterMap (nameBelow? location) = [] := by
      rw [List.filterMap_eq_nil_iff]
      exact fun directory member => name_below_none location directory (flat directory member)
    have inside : (copies.map fun copy => location ++ [copy.1]).filterMap (nameBelow? location) = copies.map (·.1) := by
      rw [List.filterMap_map, ← List.filterMap_eq_map']
      exact List.filterMap_congr fun copy _ => name_below_child location copy.1
    rw [files, List.map_append, List.map_map, List.filterMap_append, List.filterMap_append, outside, directories,
      List.nil_append, List.append_nil]
    exact inside
  have listed : ∀ copy ∈ copies, tree.kindAt (location ++ [copy.1]) = .file copy.2 := by
    intro copy member
    apply kind_at_file
    have absent : others.find? (fun entry => entry.1 == location ++ [copy.1]) = none := by
      rw [List.find?_eq_none]
      intro file inside same
      exact apart file inside (by rw [beq_iff_eq.mp same]; exact List.prefix_append _ _)
    rw [fileAt?, files, List.find?_append, absent, Option.none_or, find_copy location copies distinct copy member]
    rfl
  rw [entries?, place]
  simp only [isDirectory, if_true]
  change some ((((tree.files.map (·.1) ++ tree.directories).filterMap (nameBelow? location)).eraseDups).map _) = _
  rw [below, erase_dups_nodup _ distinct, List.map_map]
  congr 1
  conv => rhs; rw [← List.map_id copies]
  apply List.map_congr_left
  intro copy member
  simp only [Function.comp_apply, listed copy member, id]

end LinkTidy.FileTree
