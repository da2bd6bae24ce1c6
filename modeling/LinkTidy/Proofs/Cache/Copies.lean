import LinkTidy.Proofs.Cache.Names
import LinkTidy.Proofs.FileTree.Entries
/-!
Keeping copies of downloaded lists in a directory. Their names are never the same, so each copy stays as it was written,
and nothing else in the tree is written.
-/

set_option autoImplicit false

namespace LinkTidy.Cache

open FileTree

theorem copy_name (index : Nat) (url : Text) : IsName (fileName index url) := by
  have safe := file_name_safe index url
  constructor
  case one_name => exact safe.one_name
  case no_dots => exact safe.no_dots
  case no_zero => exact fun member => absurd (file_name_chars index url _ member) (by decide)
  case some =>
    obtain ⟨digits, rest, written, -⟩ := safe.parts
    rw [written]
    exact List.append_ne_nil_of_right_ne_nil digits (List.cons_ne_nil _ _)

theorem copies_apart (location : Location) (i j : Nat) (u v : Text) (other : i ≠ j) :
    location ++ [fileName i u] ≠ location ++ [fileName j v] :=
  fun same => file_names_apart i j u v other (List.singleton_inj.mp (List.append_cancel_left same))

-- The directory at a path is there, at a location.
structure Settled (tree : FileTree) (directory : Text) (location : Location) : Prop where
  made : tree.makeDirectory directory = (tree, true)
  place : tree.placeOf directory = location

theorem Settled.directory {tree : FileTree} {directory : Text} {location : Location}
    (settled : Settled tree directory location) : tree.kindAt location = .directory :=
  settled.place ▸ created_directory settled.made

section

variable (web : Text → Except Text Bytes)

-- A directory that has been made is not made again.
theorem keep_created (tree made : FileTree) (directory : Text) (created : tree.makeDirectory directory = (made, true))
    (index : Nat) (url : Text) (bytes : Bytes) :
    keep (FileTree.outside web) directory tree index url bytes =
      made.write (pathIn directory (fileName index url)) bytes := by
  have making : (FileTree.outside web).makeDirectory tree directory = (made, true) := created
  rw [keep, making]
  rfl

-- Where the directory cannot be made no file is written. Some of the directories on the way may be new.
theorem keep_refused (tree : FileTree) (directory : Text) (refused : (tree.makeDirectory directory).2 = false)
    (index : Nat) (url : Text) (bytes : Bytes) :
    Grown (tree.onWay directory) tree (keep (FileTree.outside web) directory tree index url bytes) := by
  have making : (FileTree.outside web).makeDirectory tree directory = ((tree.makeDirectory directory).1, false) :=
    Prod.ext rfl refused
  rw [keep, making]
  exact make_directory_grown tree directory

section

variable {tree : FileTree} {directory : Text} {location : Location} (settled : Settled tree directory location)
  (index : Nat) (url : Text) (bytes : Bytes)

include settled

theorem keep_settled_eq : keep (FileTree.outside web) directory tree index url bytes =
    if Fits directory (fileName index url) ∧ tree.kindAt (location ++ [fileName index url]) ≠ .directory then
      tree.withFile (location ++ [fileName index url]) bytes
    else tree := by
  rw [keep_created web tree tree directory settled.made, write,
    locate_path_in tree directory _ settled.made (copy_name index url), settled.place]
  by_cases fits : Fits directory (fileName index url)
  · by_cases taken : tree.kindAt (location ++ [fileName index url]) = .directory
    · simp [fits, taken]
    · simp [fits, taken]
  · simp [fits]

-- What stands at the place of a copy once it has been kept.
def kindKept (tree : FileTree) (directory : Text) (location : Location) (name : Text) (bytes : Bytes) : Kind :=
  if Fits directory name ∧ tree.kindAt (location ++ [name]) ≠ .directory then .file bytes
  else tree.kindAt (location ++ [name])

theorem keep_kind (place : Location) :
    (keep (FileTree.outside web) directory tree index url bytes).kindAt place =
      if place = location ++ [fileName index url] then kindKept tree directory location (fileName index url) bytes
      else tree.kindAt place := by
  rw [keep_settled_eq web settled, kindKept]
  by_cases here : place = location ++ [fileName index url]
  · rw [if_pos here, here]
    split
    · rw [with_file_kind tree location _ _ bytes settled.directory, if_pos rfl]
    · rfl
  · rw [if_neg here]
    split
    · rw [with_file_kind tree location _ _ bytes settled.directory, if_neg here]
    · rfl

theorem keep_settled : Settled (keep (FileTree.outside web) directory tree index url bytes) directory location := by
  have working : (keep (FileTree.outside web) directory tree index url bytes).working = tree.working := by
    rw [keep_settled_eq web settled]
    split <;> rfl
  constructor
  case made =>
    refine created_again settled.made _ working fun place kept => ?_
    rw [keep_kind web settled, kindKept]
    split
    · rename_i here
      rw [here] at kept
      rw [if_neg fun all => all.2 kept, kept]
    · exact kept
  case place => rw [← settled.place, placeOf, placeOf, start, start, working]

end

theorem kind_kept_congr (tree other : FileTree) (directory : Text) (location : Location) (name : Text) (bytes : Bytes)
    (same : tree.kindAt (location ++ [name]) = other.kindAt (location ++ [name])) :
    kindKept tree directory location name bytes = kindKept other directory location name bytes := by
  rw [kindKept, kindKept, same]

-- What becomes of the places in a tree when copies are kept in a directory that is there: the place of a copy changes
-- once, if its name is free, and nothing else changes.
theorem keep_all_kinds (tree : FileTree) (directory : Text) (location : Location) (items : List (Text × Bytes))
    (index : Nat) (settled : Settled tree directory location) :
    (∀ place, (∀ (k : Nat) url bytes, items[k]? = some (url, bytes) →
        place ≠ location ++ [fileName (index + k) url]) →
      (keepAll (FileTree.outside web) directory index items tree).kindAt place = tree.kindAt place) ∧
      ∀ (k : Nat) url bytes, items[k]? = some (url, bytes) →
        (keepAll (FileTree.outside web) directory index items tree).kindAt (location ++ [fileName (index + k) url]) =
          kindKept tree directory location (fileName (index + k) url) bytes := by
  induction items generalizing tree index with
  | nil => exact ⟨fun _ _ => rfl, fun k url bytes found => by cases found⟩
  | cons item rest ih =>
      obtain ⟨first, content⟩ := item
      obtain ⟨others, copies⟩ := ih _ (index + 1) (keep_settled web settled index first content)
      have shift : ∀ k, index + 1 + k = index + (k + 1) := fun k => by omega
      simp only [shift] at others copies
      rw [keepAll]
      constructor
      · intro place apart
        rw [others place fun k url bytes found => apart (k + 1) url bytes found, keep_kind web settled]
        exact if_neg (apart 0 first content rfl)
      · intro k url bytes found
        cases k with
        | zero =>
            cases found
            rw [others _ fun k url bytes _ => copies_apart location _ _ _ _ (by omega), keep_kind web settled]
            exact if_pos rfl
        | succ k =>
            rw [copies k url bytes found]
            apply kind_kept_congr
            rw [keep_kind web settled, if_neg (copies_apart location _ _ _ _ (by omega))]

-- Copies whose names are all free stand behind the files that were there, in order.
theorem keep_all_files (tree : FileTree) (directory : Text) (location : Location) (items : List (Text × Bytes))
    (index : Nat) (settled : Settled tree directory location)
    (fits : ∀ (k : Nat) url bytes, items[k]? = some (url, bytes) → Fits directory (fileName (index + k) url))
    (free : ∀ (k : Nat) url bytes, items[k]? = some (url, bytes) →
      tree.kindAt (location ++ [fileName (index + k) url]) = .nothing) :
    keepAll (FileTree.outside web) directory index items tree = { tree with
      files := tree.files ++ items.mapIdx fun k item => (location ++ [fileName (index + k) item.1], item.2) } := by
  induction items generalizing tree index with
  | nil => simp [keepAll]
  | cons item rest ih =>
      obtain ⟨first, content⟩ := item
      have nothing : tree.kindAt (location ++ [fileName index first]) = .nothing := free 0 first content rfl
      have fresh : keep (FileTree.outside web) directory tree index first content =
          { tree with files := tree.files ++ [(location ++ [fileName index first], content)] } := by
        have notTaken : tree.kindAt (location ++ [fileName index first]) ≠ .directory := by rw [nothing]; exact nofun
        rw [keep_settled_eq web settled, if_pos ⟨fits 0 first content rfl, notTaken⟩]
        exact with_file_fresh tree _ content nothing
      have shift : ∀ k, index + 1 + k = index + (k + 1) := fun k => by omega
      rw [keepAll, ih _ (index + 1) (keep_settled web settled index first content)]
      · rw [fresh, List.mapIdx_cons]
        simp [shift]
      · intro k url bytes found
        rw [shift]
        exact fits (k + 1) url bytes found
      · intro k url bytes found
        rw [shift, keep_kind web settled, if_neg (copies_apart location _ _ _ _ (by omega))]
        exact free (k + 1) url bytes found

-- The first copy makes the directory, so it makes no difference if that has been made before.
theorem keep_all_created (tree made : FileTree) (directory : Text) (index : Nat)
    (created : tree.makeDirectory directory = (made, true)) (items : List (Text × Bytes)) (some : items ≠ []) :
    keepAll (FileTree.outside web) directory index items tree =
      keepAll (FileTree.outside web) directory index items made := by
  have again := created_again created made rfl fun _ kept => kept
  cases items with
  | nil => exact absurd rfl some
  | cons item rest =>
      rw [keepAll, keepAll, keep_created web tree made directory created, keep_created web made made directory again]

theorem created_settled {tree made : FileTree} {directory : Text}
    (created : tree.makeDirectory directory = (made, true)) : Settled made directory (tree.placeOf directory) where
  made := created_again created made rfl fun _ kept => kept
  place := by rw [placeOf, placeOf, created_start created made rfl]

-- The way to a directory does not go further than to the directory.
def Direct (tree : FileTree) (directory : Text) : Prop :=
  ∀ place ∈ tree.onWay directory, tree.placeOf directory <+: place → place = tree.placeOf directory

instance (tree : FileTree) (directory : Text) : Decidable (Direct tree directory) :=
  inferInstanceAs (Decidable (∀ place ∈ _, _))

theorem direct_of_forward (tree : FileTree) (directory : Text) (forward : "..".toList ∉ fields '/' directory) :
    Direct tree directory :=
  fun place onWay below => (waypoints_above _ _ forward place onWay).eq_of_length_le below.length_le

theorem direct_way (tree : FileTree) (directory name : Text) (direct : Direct tree directory) :
    tree.placeOf directory ++ [name] ∉ tree.onWay directory := by
  intro inside
  have size := congrArg List.length (direct _ inside (List.prefix_append _ _))
  rw [List.length_append, List.length_singleton] at size
  omega

-- What becomes of a tree in which copies are kept in a directory that was not there. Each copy is a file that holds its
-- bytes, unless the way to the directory goes through a place of that name in it and comes back, or its name or path is
-- too long. Nothing else changes but for directories on the way.
structure Keeps (tree final : FileTree) (directory : Text) (items : List (Text × Bytes)) : Prop where
  copies : ∀ (k : Nat) url bytes, items[k]? = some (url, bytes) →
    final.kindAt (tree.placeOf directory ++ [fileName k url]) =
      if tree.placeOf directory ++ [fileName k url] ∈ tree.onWay directory then .directory
      else if Fits directory (fileName k url) then .file bytes
      else .nothing
  others : ∀ place, (∀ (k : Nat) url bytes, items[k]? = some (url, bytes) →
      place ≠ tree.placeOf directory ++ [fileName k url]) →
    final.kindAt place = tree.kindAt place ∨
      tree.kindAt place = .nothing ∧ final.kindAt place = .directory ∧ place ∈ tree.onWay directory
  no_other_file : ∀ place bytes, tree.placeOf directory <+: place → final.kindAt place = .file bytes →
    ∃ (k : Nat) (url : Text), items[k]? = some (url, bytes) ∧ place = tree.placeOf directory ++ [fileName k url]
  listed : Direct tree directory → items ≠ [] →
    (∀ (k : Nat) url bytes, items[k]? = some (url, bytes) → Fits directory (fileName k url)) →
      final.entries? directory = some (items.mapIdx fun k item => (fileName k item.1, item.2))
  forward : "..".toList ∉ fields '/' directory →
    Direct tree directory ∧ ∀ name, tree.placeOf directory ++ [name] ∉ tree.onWay directory

theorem copy_names_distinct (items : List (Text × Bytes)) :
    ((items.mapIdx fun k item => (fileName k item.1, item.2)).map (·.1)).Nodup := by
  refine List.pairwise_iff_getElem.mpr fun i j _ _ earlier => ?_
  simp only [List.getElem_map, List.getElem_mapIdx]
  exact file_names_apart i j _ _ (Nat.ne_of_lt earlier)

section

variable {tree made : FileTree} {directory : Text} (created : tree.makeDirectory directory = (made, true))
  (missing : tree.kindAt (tree.placeOf directory) = .nothing)

include created missing

-- In a directory that has just been made there are only directories that the way went through.
theorem new_directory_kind (place : Location) (below : tree.placeOf directory <+: place) :
    made.kindAt place = if place ∈ tree.onWay directory then .directory else .nothing := by
  have before := nothing_below tree _ place missing below
  by_cases inside : place ∈ tree.onWay directory
  · rw [if_pos inside]
    exact created_directories created place inside
  · rw [if_neg inside]
    rcases (created_grown created).kind place with same | ⟨-, -, new⟩
    · rw [same, before]
    · exact absurd new inside

theorem new_directory_named : directory ≠ [] := by
  rintro rfl
  have relative : tree.start [] = tree.working := by
    have noSlash : ([] : Text).head? ≠ some '/' := by decide
    rw [start, if_neg noSlash]
  have working : tree.placeOf [] = tree.working := by rw [placeOf, relative]; rfl
  obtain ⟨-, -, way⟩ := make_directory_way created
  rw [fields] at way
  rcases make_way_step tree (tree.start []) [] [] with ends | ⟨-, -, -, isDirectory, -⟩
  · cases ends.symm.trans way
  · rw [relative, ← working, missing] at isDirectory
    cases isDirectory

theorem copies_listed (items : List (Text × Bytes))
    (fits : ∀ (k : Nat) url bytes, items[k]? = some (url, bytes) → Fits directory (fileName k url))
    (some : items ≠ []) (direct : Direct tree directory) :
    (keepAll (FileTree.outside web) directory 0 items tree).entries? directory =
      Option.some (items.mapIdx fun k item => (fileName k item.1, item.2)) := by
  have grows := created_grown created
  have settled := created_settled created
  have free : ∀ name, made.kindAt (tree.placeOf directory ++ [name]) = .nothing := fun name => by
    rw [new_directory_kind created missing _ (List.prefix_append _ _), if_neg (direct_way tree directory name direct)]
  have unreached := (nothing_iff tree _).mp missing
  have kept := keep_all_files web made directory _ items 0 settled (by simpa using fits) fun k url bytes _ => free _
  obtain ⟨others, -⟩ := keep_all_kinds web made directory _ items 0 settled
  rw [keep_all_created web tree made directory 0 created items some]
  have directories : ∀ place, made.kindAt place = .directory →
      (keepAll (FileTree.outside web) directory 0 items made).kindAt place = .directory := by
    intro place isDirectory
    rw [others place, isDirectory]
    rintro k url bytes - rfl
    rw [free] at isDirectory
    cases isDirectory
  refine entries_of_copies _ directory (tree.placeOf directory) ?place ?isDirectory tree.files _ ?files ?apart ?flat
    ?distinct
  case place =>
    exact created_located created _ (by rw [kept]) directories (new_directory_named created missing)
  case isDirectory => exact directories _ (created_directory created)
  case distinct => exact copy_names_distinct items
  case files =>
    rw [kept, grows.files, List.mapIdx_eq_zipIdx_map, List.mapIdx_eq_zipIdx_map, List.map_map]
    simp only [Nat.zero_add]
    rfl
  case apart => exact fun file member below => unreached (.inr (.inr ⟨file, member, below⟩))
  case flat =>
    intro other member below
    rw [kept] at member
    rcases grows.directories other member with old | new
    · exact absurd (.inr (.inl ⟨other, old, below⟩)) unreached
    · exact direct other new below

theorem copies_kept (items : List (Text × Bytes)) :
    Keeps tree (keepAll (FileTree.outside web) directory 0 items tree) directory items := by
  have forward : "..".toList ∉ fields '/' directory →
      Direct tree directory ∧ ∀ name, tree.placeOf directory ++ [name] ∉ tree.onWay directory := by
    intro forward
    have direct := direct_of_forward tree directory forward
    exact ⟨direct, fun name => direct_way tree directory name direct⟩
  by_cases none : items = []
  · -- Nothing is kept, and the directory is not even made.
    rw [none]
    constructor
    case copies => exact fun k url bytes found => nomatch found
    case forward => exact forward
    case listed => exact fun _ some => absurd rfl some
    case others => exact fun place _ => .inl rfl
    case no_other_file =>
      intro place bytes below file
      rw [keepAll, nothing_below tree _ place missing below] at file
      cases file
  · obtain ⟨others, copies⟩ := keep_all_kinds web made directory _ items 0 (created_settled created)
    rw [← keep_all_created web tree made directory 0 created items none] at others copies
    simp only [Nat.zero_add] at others copies
    have kept : ∀ (k : Nat) url bytes, items[k]? = some (url, bytes) →
        (keepAll (FileTree.outside web) directory 0 items tree).kindAt (tree.placeOf directory ++ [fileName k url]) =
          if tree.placeOf directory ++ [fileName k url] ∈ tree.onWay directory then .directory
          else if Fits directory (fileName k url) then .file bytes
          else .nothing := by
      intro k url bytes found
      rw [copies k url bytes found, kindKept, new_directory_kind created missing _ (List.prefix_append _ _)]
      by_cases through : tree.placeOf directory ++ [fileName k url] ∈ tree.onWay directory
      · simp [through]
      · simp [through]
    constructor
    case copies => exact kept
    case forward => exact forward
    case listed => exact fun direct some fits => copies_listed web created missing items fits some direct
    case others =>
      intro place apart
      rw [others place apart]
      exact (created_grown created).kind place
    case no_other_file =>
      intro place bytes below file
      by_contra noCopy
      rw [others place, new_directory_kind created missing place below] at file
      · split at file <;> cases file
      · rintro k url content found rfl
        rw [kept k url content found] at file
        split at file
        · cases file
        · split at file
          · cases file
            exact noCopy ⟨k, url, found, rfl⟩
          · cases file

end

-- Copies never have the same name, and their names are safe. Kept in a new directory, each of them is a file there that
-- holds its bytes, unless a directory of its name came with the new one; no other file is written, there or elsewhere,
-- and elsewhere there is nothing new but directories on the way.
theorem copies_kept_apart :
    (∀ i j u v, i ≠ j → fileName i u ≠ fileName j v) ∧ (∀ index url, IsCopyName (fileName index url)) ∧
      ∀ (tree made : FileTree) (directory : Text) (items : List (Text × Bytes)),
        tree.makeDirectory directory = (made, true) → tree.kindAt (tree.placeOf directory) = .nothing →
          Keeps tree (keepAll (FileTree.outside web) directory 0 items tree) directory items :=
  ⟨file_names_apart, file_name_safe, fun _ _ _ items created missing => copies_kept web created missing items⟩

end

-- Two copies of one name, and one that is named like a way back. The way to them leads out of the working directory.
theorem copies_kept_of_like_names :
    let tree : FileTree :=
      { files := [(["a".toList, ['k']], [1])], directories := [["w".toList]], working := ["w".toList] }
    let items : List (Text × Bytes) :=
      [("https://h/f?/x".toList, [98]), ("https://g/f#".toList, [99]), ("https://h/..".toList, [])]
    let final := keepAll (FileTree.outside fun _ => .error []) "../a//./b/".toList 0 items tree
    (1 ≠ 10 ∧ fileName 1 "0-f".toList ≠ fileName 10 ['f']) ∧ (tree.makeDirectory "../a//./b/".toList).2 = true ∧
      tree.kindAt (tree.placeOf "../a//./b/".toList) = .nothing ∧
      final.entries? "/a/b".toList = final.entries? "../a//./b/".toList ∧
      final.entries? "../a//./b/".toList = some [("00-f".toList, [98]), ("01-f".toList, [99]), ("02-..".toList, [])] ∧
      final.kindAt ["a".toList, ['k']] = .file [1] := by
  intro tree items final
  obtain ⟨apart, -, kept⟩ := copies_kept_apart fun _ => .error []
  have created : tree.makeDirectory "../a//./b/".toList = (tree.withDirectory ["a".toList, ['b']], true) := by rfl
  have keeps := kept tree _ "../a//./b/".toList items created (by decide)
  have fits : ∀ (k : Nat) url bytes, items[k]? = some (url, bytes) → Fits "../a//./b/".toList (fileName k url) := by
    intro k url bytes found
    match k, found with
    | 0, rfl | 1, rfl | 2, rfl => decide
  have elsewhere : ["a".toList, ['k']] ∉ tree.onWay "../a//./b/".toList := by decide
  refine ⟨⟨by decide, apart 1 10 _ _ (by decide)⟩, by rw [created], by decide, by decide +kernel, ?_, ?_⟩
  · exact keeps.listed (by decide) (by decide) fits
  · have apart : ∀ name, ["a".toList, ['k']] ≠ tree.placeOf "../a//./b/".toList ++ [name] := by
      intro name same
      have size : 2 = 3 := congrArg List.length same
      exact absurd size (by decide)
    rcases keeps.others _ fun k url bytes _ => apart _ with same | new
    · exact same
    · exact absurd new.2.2 elsewhere

-- The way to the directory leaves one behind that has the name of a copy.
theorem copy_lost_to_directory :
    ¬ ∀ (tree made : FileTree) (directory : Text) (items : List (Text × Bytes)),
        tree.makeDirectory directory = (made, true) → tree.kindAt (tree.placeOf directory) = .nothing →
        (∀ (k : Nat) url bytes, items[k]? = some (url, bytes) → Fits directory (fileName k url)) →
          ∀ (k : Nat) url bytes, items[k]? = some (url, bytes) →
            (keepAll (FileTree.outside fun _ => .error []) directory 0 items tree).kindAt
              (tree.placeOf directory ++ [fileName k url]) = .file bytes := by
  intro all
  have fits : ∀ (k : Nat) url bytes, [(['x'], ([98] : Bytes))][k]? = some (url, bytes) →
      Fits "a/00-x/..".toList (fileName k url) := by
    intro k url bytes found
    cases k with
    | zero => cases found; decide
    | succ k => cases found
  have file := all {} _ "a/00-x/..".toList [(['x'], [98])] rfl (by decide) fits 0 ['x'] [98] rfl
  exact absurd file (by decide)

end LinkTidy.Cache
