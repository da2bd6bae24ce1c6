import LinkTidy.FileTree
import Mathlib.Data.List.Basic
/-!
What stands where in a tree of files. Writing a file changes what stands at its own place and nowhere else; new
directories change no file.
-/

set_option autoImplicit false

namespace LinkTidy.FileTree

-- The file at a location.
def fileAt? (tree : FileTree) (location : Location) : Option Bytes :=
  (tree.files.find? fun entry => entry.1 == location).map (·.2)

-- Whether a location is above something, or is the place of it.
def Reaches (tree : FileTree) (location : Location) : Prop :=
  location = [] ∨ (∃ directory ∈ tree.directories, location <+: directory) ∨ ∃ file ∈ tree.files, location <+: file.1

theorem reaches_above (tree : FileTree) (above location : Location) (order : above <+: location)
    (reaches : tree.Reaches location) : tree.Reaches above := by
  rcases reaches with rfl | ⟨directory, member, below⟩ | ⟨file, member, below⟩
  · exact .inl (List.prefix_nil.mp order)
  · exact .inr (.inl ⟨directory, member, order.trans below⟩)
  · exact .inr (.inr ⟨file, member, order.trans below⟩)

theorem file_reaches (tree : FileTree) (location : Location) (bytes : Bytes)
    (file : tree.fileAt? location = some bytes) : tree.Reaches location := by
  obtain ⟨entry, found, -⟩ := Option.map_eq_some_iff.mp file
  have same : entry.1 = location := by simpa using List.find?_some found
  exact .inr (.inr ⟨entry, List.mem_of_find?_eq_some found, same ▸ List.prefix_rfl⟩)

theorem reaches_test (tree : FileTree) (location : Location) :
    (location.isEmpty || tree.directories.any (location.isPrefixOf ·) ||
      tree.files.any (location.isPrefixOf ·.1)) = true ↔ tree.Reaches location := by
  simp [Reaches, List.isPrefixOf_iff_prefix, or_assoc]

theorem kind_at_file (tree : FileTree) (location : Location) (bytes : Bytes)
    (file : tree.fileAt? location = some bytes) : tree.kindAt location = .file bytes := by
  obtain ⟨entry, found, same⟩ := Option.map_eq_some_iff.mp file
  rw [kindAt, found, ← same]

theorem kind_at_directory (tree : FileTree) (location : Location) (noFile : tree.fileAt? location = none)
    (reaches : tree.Reaches location) : tree.kindAt location = .directory := by
  rw [kindAt, Option.map_eq_none_iff.mp noFile]
  exact if_pos ((reaches_test tree location).mpr reaches)

theorem kind_at_nothing (tree : FileTree) (location : Location) (unreached : ¬ tree.Reaches location) :
    tree.kindAt location = .nothing := by
  cases file : tree.fileAt? location with
  | some bytes => exact absurd (file_reaches tree location bytes file) unreached
  | none =>
      rw [kindAt, Option.map_eq_none_iff.mp file]
      exact if_neg (mt (reaches_test tree location).mp unreached)

theorem kind_at_cases (tree : FileTree) (location : Location) :
    (∃ bytes, tree.fileAt? location = some bytes ∧ tree.kindAt location = .file bytes) ∨
      (tree.fileAt? location = none ∧ tree.Reaches location ∧ tree.kindAt location = .directory) ∨
      (tree.fileAt? location = none ∧ ¬ tree.Reaches location ∧ tree.kindAt location = .nothing) := by
  cases file : tree.fileAt? location with
  | some bytes => exact .inl ⟨bytes, rfl, kind_at_file tree location bytes file⟩
  | none =>
      by_cases reaches : tree.Reaches location
      · exact .inr (.inl ⟨rfl, reaches, kind_at_directory tree location file reaches⟩)
      · exact .inr (.inr ⟨rfl, reaches, kind_at_nothing tree location reaches⟩)

theorem directory_iff (tree : FileTree) (location : Location) :
    tree.kindAt location = .directory ↔ tree.fileAt? location = none ∧ tree.Reaches location := by
  rcases kind_at_cases tree location with ⟨bytes, file, kind⟩ | ⟨noFile, reaches, kind⟩ | ⟨noFile, unreached, kind⟩
  · simp [kind, file]
  · simp [kind, noFile, reaches]
  · simp [kind, unreached]

theorem nothing_iff (tree : FileTree) (location : Location) :
    tree.kindAt location = .nothing ↔ ¬ tree.Reaches location := by
  rcases kind_at_cases tree location with ⟨bytes, file, kind⟩ | ⟨noFile, reaches, kind⟩ | ⟨noFile, unreached, kind⟩
  · simp [kind, file_reaches tree location bytes file]
  · simp [kind, reaches]
  · simp [kind, unreached]

-- What stands at a location depends on the file there, and on whether the location reaches anything.
theorem kind_at_congr (tree other : FileTree) (location : Location)
    (file : tree.fileAt? location = other.fileAt? location)
    (reaches : tree.Reaches location ↔ other.Reaches location) : tree.kindAt location = other.kindAt location := by
  rcases kind_at_cases tree location with ⟨bytes, here, kind⟩ | ⟨here, reached, kind⟩ | ⟨here, unreached, kind⟩
  · rw [kind, kind_at_file other location bytes (file ▸ here)]
  · rw [kind, kind_at_directory other location (file ▸ here) (reaches.mp reached)]
  · rw [kind, kind_at_nothing other location (mt reaches.mpr unreached)]

theorem nothing_below (tree : FileTree) (location below : Location) (nothing : tree.kindAt location = .nothing)
    (order : location <+: below) : tree.kindAt below = .nothing := by
  rw [nothing_iff] at nothing ⊢
  exact mt (reaches_above tree location below order) nothing

-- What is above a place in a directory was there before anything stood at the place.
theorem reaches_above_child (tree : FileTree) (directory place : Location) (name : Text)
    (isDirectory : tree.kindAt directory = .directory) (order : place <+: directory ++ [name])
    (other : place ≠ directory ++ [name]) : tree.Reaches place := by
  rcases List.prefix_concat_iff.mp order with same | above
  · exact absurd same other
  · exact reaches_above tree place directory above ((directory_iff tree directory).mp isDirectory).2

theorem find_put_file (place location : Location) (bytes : Bytes) (files : List (Location × Bytes)) :
    ((putFile place bytes files).find? fun entry => entry.1 == location) =
      if location = place then some (place, bytes) else files.find? fun entry => entry.1 == location := by
  induction files with
  | nil =>
      by_cases here : location = place
      · simp [putFile, here]
      · simp [putFile, here, Ne.symm here]
  | cons entry rest ih =>
      by_cases same : entry.1 = place
      · rw [putFile, if_pos same]
        by_cases here : location = place
        · simp [here]
        · simp [here, same, Ne.symm here]
      · rw [putFile, if_neg same]
        by_cases found : entry.1 = location
        · simp [found, mt found.trans same]
        · simpa [found] using ih

theorem mem_put_file (place : Location) (bytes : Bytes) (files : List (Location × Bytes)) (test : Location → Prop) :
    (∃ entry ∈ putFile place bytes files, test entry.1) ↔ test place ∨ ∃ entry ∈ files, test entry.1 := by
  induction files with
  | nil => simp [putFile]
  | cons entry rest ih =>
      by_cases same : entry.1 = place
      · rw [putFile, if_pos same]
        simp [same]
      · rw [putFile, if_neg same, List.exists_mem_cons_iff, ih, List.exists_mem_cons_iff]
        tauto

-- A new file in a directory changes what stands at its own place.
theorem with_file_kind (tree : FileTree) (directory place : Location) (name : Text) (bytes : Bytes)
    (isDirectory : tree.kindAt directory = .directory) :
    (tree.withFile (directory ++ [name]) bytes).kindAt place =
      if place = directory ++ [name] then .file bytes else tree.kindAt place := by
  have found := find_put_file (directory ++ [name]) place bytes tree.files
  by_cases here : place = directory ++ [name]
  · rw [if_pos here] at found ⊢
    exact kind_at_file _ place bytes (congrArg (Option.map Prod.snd) found)
  · rw [if_neg here] at found ⊢
    apply kind_at_congr
    · exact congrArg (Option.map Prod.snd) found
    · have files := mem_put_file (directory ++ [name]) bytes tree.files (place <+: ·)
      constructor
      · rintro (root | inside | held)
        · exact .inl root
        · exact .inr (.inl inside)
        · rcases files.mp held with order | old
          · exact reaches_above_child tree directory place name isDirectory order here
          · exact .inr (.inr old)
      · rintro (root | inside | held)
        · exact .inl root
        · exact .inr (.inl inside)
        · exact .inr (.inr (files.mpr (.inr held)))

theorem put_file_fresh (place : Location) (bytes : Bytes) (files : List (Location × Bytes))
    (fresh : ∀ entry ∈ files, entry.1 ≠ place) : putFile place bytes files = files ++ [(place, bytes)] := by
  induction files with
  | nil => rfl
  | cons entry rest ih =>
      have later := ih fun other member => fresh other (List.mem_cons_of_mem _ member)
      rw [putFile, if_neg (fresh entry List.mem_cons_self), later, List.cons_append]

-- A file that is new stands behind all others.
theorem with_file_fresh (tree : FileTree) (place : Location) (bytes : Bytes) (fresh : tree.kindAt place = .nothing) :
    tree.withFile place bytes = { tree with files := tree.files ++ [(place, bytes)] } := by
  rw [withFile, put_file_fresh]
  rintro entry member rfl
  rw [nothing_iff] at fresh
  exact fresh (.inr (.inr ⟨entry, member, List.prefix_rfl⟩))

-- A new directory in a directory changes what stands at its own place.
theorem with_directory_kind (tree : FileTree) (directory place : Location) (name : Text)
    (isDirectory : tree.kindAt directory = .directory) (nothing : tree.kindAt (directory ++ [name]) = .nothing) :
    (tree.withDirectory (directory ++ [name])).kindAt place =
      if place = directory ++ [name] then .directory else tree.kindAt place := by
  by_cases here : place = directory ++ [name]
  · rw [if_pos here, here]
    rcases kind_at_cases tree (directory ++ [name]) with ⟨bytes, -, kind⟩ | ⟨-, -, kind⟩ | ⟨noFile, -, -⟩
    · cases kind.symm.trans nothing
    · cases kind.symm.trans nothing
    · exact kind_at_directory _ _ noFile
        (.inr (.inl ⟨_, List.mem_append_right _ List.mem_cons_self, List.prefix_rfl⟩))
  · rw [if_neg here]
    apply kind_at_congr
    · rfl
    · constructor
      · rintro (root | ⟨other, member, order⟩ | held)
        · exact .inl root
        · rcases List.mem_append.mp member with old | new
          · exact .inr (.inl ⟨other, old, order⟩)
          · rw [List.mem_singleton.mp new] at order
            exact reaches_above_child tree directory place name isDirectory order here
        · exact .inr (.inr held)
      · rintro (root | ⟨other, member, order⟩ | held)
        · exact .inl root
        · exact .inr (.inl ⟨other, List.mem_append_left _ member, order⟩)
        · exact .inr (.inr held)

end LinkTidy.FileTree
