import LinkTidy.Proofs.FileTree.Kinds
import Mathlib.Data.List.Infix
/-!
Ways to a directory. Where a way leads is told by its names alone, and so are the places on it. Making the directory
adds directories at these places and nothing else; once made, it is found again, by walking and by making it, as long as
its directories stay.
-/

set_option autoImplicit false

namespace LinkTidy.FileTree

-- The places that a way goes through, with its start and its end.
def waypoints (location : Location) (names : List Text) : List Location :=
  names.scanl Location.step location

def destination (location : Location) (names : List Text) : Location :=
  names.foldl Location.step location

theorem waypoints_cons (location : Location) (name : Text) (rest : List Text) :
    waypoints location (name :: rest) = location :: waypoints (location.step name) rest :=
  List.scanl_cons

theorem destination_cons (location : Location) (name : Text) (rest : List Text) :
    destination location (name :: rest) = destination (location.step name) rest := rfl

theorem mem_waypoints_start (location : Location) (names : List Text) : location ∈ waypoints location names := by
  cases names with
  | nil => rw [waypoints, List.scanl_nil]; exact List.mem_cons_self
  | cons name rest => rw [waypoints_cons]; exact List.mem_cons_self

theorem mem_waypoints_end (location : Location) (names : List Text) :
    destination location names ∈ waypoints location names := by
  induction names generalizing location with
  | nil => exact mem_waypoints_start location []
  | cons name rest ih =>
      rw [waypoints_cons, destination_cons]
      exact List.mem_cons_of_mem _ (ih (location.step name))

-- A name that does not go back leads on, or stays.
theorem step_forward (location : Location) (name : Text) (notBack : name ≠ "..".toList) :
    location <+: location.step name := by
  rw [Location.step, if_neg notBack]
  split
  · exact List.prefix_rfl
  · exact List.prefix_append _ _

-- A way that never goes back has all its places above its end.
theorem waypoints_above (location : Location) (names : List Text) (forward : "..".toList ∉ names) :
    ∀ place ∈ waypoints location names, place <+: destination location names := by
  induction names generalizing location with
  | nil =>
      intro place member
      rw [waypoints, List.scanl_nil, List.mem_singleton] at member
      rw [member]
      exact List.prefix_rfl
  | cons name rest ih =>
      rw [List.mem_cons, not_or] at forward
      have later := ih (location.step name) forward.2
      rw [waypoints_cons, destination_cons]
      intro place member
      rcases List.mem_cons.mp member with rfl | behind
      · exact (step_forward place name (Ne.symm forward.1)).trans (later _ (mem_waypoints_start _ rest))
      · exact later place behind

-- Only directories can be entered, and nothing else of the tree matters.
theorem enter_ok_iff (tree : FileTree) (location next : Location) (name : Text) :
    tree.enter location name = .ok next ↔
      tree.kindAt location = .directory ∧ byteLength name ≤ maxName ∧ next = location.step name := by
  rw [enter]
  cases tree.kindAt location with
  | nothing => simp
  | file bytes => simp
  | directory =>
      by_cases long : maxName < byteLength name
      · simp [long, Nat.not_le.mpr long]
      · simp [long, Nat.not_lt.mp long, eq_comm]

theorem walk_append (tree : FileTree) (location : Location) (names others : List Text) :
    tree.walk location (names ++ others) = (tree.walk location names).bind (tree.walk · others) := by
  induction names generalizing location with
  | nil => rfl
  | cons name rest ih =>
      rw [List.cons_append, walk, walk]
      cases tree.enter location name with
      | error e => rfl
      | ok next => exact ih next

theorem walk_single (tree : FileTree) (location : Location) (name : Text) :
    tree.walk location [name] = tree.enter location name := by
  rw [walk]
  cases tree.enter location name with
  | error e => rfl
  | ok next => rfl

-- A tree with more directories, all of them at places where there was nothing.
structure Grown (new : List Location) (tree grown : FileTree) : Prop where
  files : grown.files = tree.files
  working : grown.working = tree.working
  directories : ∀ directory ∈ grown.directories, directory ∈ tree.directories ∨ directory ∈ new
  kind : ∀ place, grown.kindAt place = tree.kindAt place ∨
    tree.kindAt place = .nothing ∧ grown.kindAt place = .directory ∧ place ∈ new

theorem Grown.directory {new : List Location} {tree grown : FileTree} (grows : Grown new tree grown)
    (location : Location) (kept : tree.kindAt location = .directory) : grown.kindAt location = .directory := by
  rcases grows.kind location with same | ⟨-, made, -⟩
  · rw [same, kept]
  · exact made

theorem grown_self (new : List Location) (tree : FileTree) : Grown new tree tree :=
  ⟨rfl, rfl, fun _ member => .inl member, fun _ => .inl rfl⟩

theorem Grown.mono {new more : List Location} {tree grown : FileTree} (grows : Grown new tree grown)
    (subset : new ⊆ more) : Grown more tree grown where
  files := grows.files
  working := grows.working
  directories directory member := (grows.directories directory member).imp_right fun inside => subset inside
  kind place := (grows.kind place).imp_right fun ⟨nothing, made, inside⟩ => ⟨nothing, made, subset inside⟩

theorem Grown.trans {new : List Location} {tree between grown : FileTree} (first : Grown new tree between)
    (second : Grown new between grown) : Grown new tree grown where
  files := second.files.trans first.files
  working := second.working.trans first.working
  directories directory member := by
    rcases second.directories directory member with known | inside
    · exact first.directories directory known
    · exact .inr inside
  kind place := by
    rcases second.kind place with same | ⟨nothing, made, inside⟩
    · rw [same]
      exact first.kind place
    · rcases first.kind place with before | ⟨-, already, -⟩
      · exact .inr ⟨before ▸ nothing, made, inside⟩
      · cases already.symm.trans nothing

theorem with_directory_grown (tree : FileTree) (directory : Location) (name : Text)
    (isDirectory : tree.kindAt directory = .directory) (nothing : tree.kindAt (directory ++ [name]) = .nothing) :
    Grown [directory ++ [name]] tree (tree.withDirectory (directory ++ [name])) where
  files := rfl
  working := rfl
  directories other member := List.mem_append.mp member
  kind place := by
    rw [with_directory_kind tree directory place name isDirectory nothing]
    by_cases here : place = directory ++ [name]
    · rw [if_pos here, here]
      exact .inr ⟨nothing, rfl, List.mem_cons_self⟩
    · rw [if_neg here]
      exact .inl rfl

-- What a step from a directory leads to is in that directory if nothing stands there.
theorem step_to_nothing (tree : FileTree) (location : Location) (name : Text)
    (isDirectory : tree.kindAt location = .directory) (nothing : tree.kindAt (location.step name) = .nothing) :
    location.step name = location ++ [name] := by
  rw [Location.step] at nothing ⊢
  split
  · rename_i stays
    rw [if_pos stays, isDirectory] at nothing
    cases nothing
  · rename_i leaves
    rw [if_neg leaves] at nothing
    split
    · rename_i back
      rw [if_pos back, nothing_iff] at nothing
      exact absurd (reaches_above tree _ location (List.dropLast_prefix location)
        ((directory_iff tree location).mp isDirectory).2) nothing
    · rfl

-- Making a way either goes one step further, to a directory that was there or is new, or it ends.
theorem make_way_step (tree : FileTree) (location : Location) (name : Text) (rest : List Text) :
    tree.makeWay location (name :: rest) = (tree, false) ∨
      ∃ grown, tree.makeWay location (name :: rest) = grown.makeWay (location.step name) rest ∧
        Grown [location.step name] tree grown ∧ tree.kindAt location = .directory ∧ byteLength name ≤ maxName ∧
          grown.kindAt (location.step name) = .directory := by
  rw [makeWay]
  cases entered : tree.enter location name with
  | error e => exact .inl rfl
  | ok next =>
      obtain ⟨isDirectory, short, rfl⟩ := (enter_ok_iff tree location next name).mp entered
      cases kind : tree.kindAt (location.step name) with
      | file bytes => exact .inl (by simp only [kind])
      | directory => exact .inr ⟨tree, by simp only [kind], grown_self _ tree, isDirectory, short, kind⟩
      | nothing =>
          simp only [kind]
          by_cases dots : endsInDot rest = true
          · exact .inl (if_pos dots)
          · have child := step_to_nothing tree location name isDirectory kind
            refine .inr ⟨tree.withDirectory (location.step name), if_neg dots, ?_, isDirectory, short, ?_⟩
            · rw [child] at kind ⊢
              exact with_directory_grown tree location name isDirectory kind
            · rw [child] at kind ⊢
              rw [with_directory_kind tree location _ name isDirectory kind, if_pos rfl]

-- Whether or not the whole way is made, nothing but directories on it is new.
theorem make_way_grown (tree : FileTree) (location : Location) (names : List Text) :
    Grown (waypoints location names) tree (tree.makeWay location names).1 := by
  induction names generalizing tree location with
  | nil => exact grown_self _ tree
  | cons name rest ih =>
      rcases make_way_step tree location name rest with ends | ⟨grown, onward, grows, -⟩
      · rw [ends]
        exact grown_self _ tree
      · rw [onward, waypoints_cons]
        have next := mem_waypoints_start (location.step name) rest
        refine Grown.trans (grows.mono ?_) ((ih grown (location.step name)).mono (List.subset_cons_self _ _))
        exact fun place member => List.mem_cons_of_mem _ (List.mem_singleton.mp member ▸ next)

theorem make_way_directories (tree made : FileTree) (location : Location) (names : List Text)
    (way : tree.makeWay location names = (made, true)) (started : tree.kindAt location = .directory) :
    ∀ place ∈ waypoints location names, made.kindAt place = .directory := by
  have start : made.kindAt location = .directory := by
    have grows := make_way_grown tree location names
    rw [way] at grows
    exact grows.directory location started
  induction names generalizing tree location with
  | nil =>
      intro place member
      rw [List.mem_singleton.mp member]
      exact start
  | cons name rest ih =>
      rcases make_way_step tree location name rest with ends | ⟨grown, onward, -, -, -, reached⟩
      · cases ends.symm.trans way
      · rw [onward] at way
        have grows := make_way_grown grown (location.step name) rest
        rw [way] at grows
        rw [waypoints_cons, List.forall_mem_cons]
        exact ⟨start, ih grown (location.step name) way reached (grows.directory _ reached)⟩

-- A way that has been made can be walked, and made again, as long as its directories stay.
theorem make_way_again (tree made later : FileTree) (location : Location) (names : List Text)
    (way : tree.makeWay location names = (made, true))
    (kept : ∀ place, made.kindAt place = .directory → later.kindAt place = .directory) :
    later.makeWay location names = (later, true) ∧ later.walk location names = .ok (destination location names) := by
  induction names generalizing tree location with
  | nil => exact ⟨rfl, rfl⟩
  | cons name rest ih =>
      rcases make_way_step tree location name rest with ends | ⟨grown, onward, grows, isDirectory, short, reached⟩
      · cases ends.symm.trans way
      · rw [onward] at way
        have later_grown := make_way_grown grown (location.step name) rest
        rw [way] at later_grown
        have here := kept location (later_grown.directory location (grows.directory location isDirectory))
        have there := kept _ (later_grown.directory _ reached)
        have again := (enter_ok_iff later location _ name).mpr ⟨here, short, rfl⟩
        obtain ⟨made, walked⟩ := ih grown (location.step name) way
        rw [makeWay, walk, again]
        simp only [there]
        exact ⟨made, walked⟩

-- The place that a path names, whatever stands there.
def placeOf (tree : FileTree) (path : Text) : Location :=
  destination (tree.start path) (fields '/' path)

-- All places on the way there.
def onWay (tree : FileTree) (path : Text) : List Location :=
  waypoints (tree.start path) (fields '/' path)

theorem make_directory_grown (tree : FileTree) (path : Text) :
    Grown (tree.onWay path) tree (tree.makeDirectory path).1 := by
  rw [makeDirectory]
  split
  · exact grown_self _ tree
  · exact make_way_grown tree _ _

section

variable {tree made : FileTree} {path : Text} (created : tree.makeDirectory path = (made, true))

include created

theorem make_directory_way : path.contains '\x00' = false ∧ byteLength path ≤ maxPath ∧
    tree.makeWay (tree.start path) (fields '/' path) = (made, true) := by
  rw [makeDirectory] at created
  split at created
  · cases created
  · rename_i plain
    rw [not_or, Nat.not_lt] at plain
    exact ⟨Bool.eq_false_iff.mpr plain.1, plain.2, created⟩

theorem created_grown : Grown (tree.onWay path) tree made := by
  have grows := make_directory_grown tree path
  rw [created] at grows
  exact grows

theorem created_start (later : FileTree) (working : later.working = made.working) :
    later.start path = tree.start path := by
  rw [start, start, working, (created_grown created).working]

theorem created_directories : ∀ place ∈ tree.onWay path, made.kindAt place = .directory := by
  obtain ⟨-, -, way⟩ := make_directory_way created
  refine make_way_directories tree made _ _ way ?_
  -- Not even the first name can be entered if the way starts nowhere.
  obtain ⟨name, rest, names⟩ := List.exists_cons_of_ne_nil (fields_ne_nil '/' path)
  rw [names] at way
  rcases make_way_step tree (tree.start path) name rest with ends | ⟨-, -, -, isDirectory, -⟩
  · cases ends.symm.trans way
  · exact isDirectory

theorem created_directory : made.kindAt (tree.placeOf path) = .directory :=
  created_directories created _ (mem_waypoints_end _ _)

variable (later : FileTree) (working : later.working = made.working)
  (kept : ∀ place, made.kindAt place = .directory → later.kindAt place = .directory)

include working kept

theorem created_again : later.makeDirectory path = (later, true) := by
  obtain ⟨plain, short, way⟩ := make_directory_way created
  rw [makeDirectory, if_neg, created_start created later working]
  · exact (make_way_again tree made later _ _ way kept).1
  · rw [plain, not_or]
    exact ⟨Bool.false_ne_true, Nat.not_lt.mpr short⟩

theorem created_walk : later.walk (later.start path) (fields '/' path) = .ok (tree.placeOf path) := by
  obtain ⟨-, -, way⟩ := make_directory_way created
  rw [created_start created later working]
  exact (make_way_again tree made later _ _ way kept).2

theorem created_located (named : path ≠ []) : later.locate path = .ok (tree.placeOf path) := by
  obtain ⟨plain, short, -⟩ := make_directory_way created
  rw [locate, plain, if_neg Bool.false_ne_true, if_neg (by simpa using named), if_neg (Nat.not_lt.mpr short)]
  exact created_walk created later working kept

end

end LinkTidy.FileTree
