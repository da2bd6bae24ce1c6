import LinkTidy.Config
import LinkTidy.Proofs.Json.Lists
import LinkTidy.Proofs.Json.Values
/-!
A configuration that is written as an object: each field at most once, in any order, and among them members that no
field has the name of. Whatever order they have, the object is read as what its fields say.
-/

set_option autoImplicit false

namespace LinkTidy.Config

open Json

-- What a member says. Of members with other names it does not count what they say.
inductive Member where
  | filters (filters : List Text)
  | cacheDir (cacheDir : Text)
  | updatePeriodHours (hours : UInt64)
  | other (name : Text)
deriving DecidableEq

def Member.field? : Member → Option Field
  | .filters _ => some .filters
  | .cacheDir _ => some .cacheDir
  | .updatePeriodHours _ => some .updatePeriodHours
  | .other _ => none

def Member.name : Member → Text
  | .filters _ => Field.filters.name
  | .cacheDir _ => Field.cacheDir.name
  | .updatePeriodHours _ => Field.updatePeriodHours.name
  | .other name => name

-- How values are written. Those of other members are well formed, and no more is asked of them.
inductive WrittenValue : Member → Text → Prop where
  | filters (filters : List Text) (value : Text) (list : WrittenList filters value) :
      WrittenValue (.filters filters) value
  | cacheDir (cacheDir value : Text) (string : WrittenString cacheDir value) : WrittenValue (.cacheDir cacheDir) value
  | updatePeriodHours (hours : UInt64) : WrittenValue (.updatePeriodHours hours) (Nat.toDigits 10 hours.toNat)
  | other (name value : Text) (unknown : ∀ field : Field, name ≠ field.name) (form : WellFormed .value value) :
      WrittenValue (.other name) value

inductive WrittenMember : Member → Text → Prop where
  | parts (member : Member) (name before behind value : Text) (named : WrittenText member.name name)
      (front : Spaces before) (back : Spaces behind) (written : WrittenValue member value) :
      WrittenMember member ('"' :: (name ++ '"' :: (before ++ ':' :: (behind ++ value))))

-- Members with commas between them.
inductive WrittenMembers : List Member → Text → Prop where
  | last (member : Member) (text space : Text) (written : WrittenMember member text) (spaces : Spaces space) :
      WrittenMembers [member] (text ++ space)
  | next (member : Member) (text before behind : Text) (members : List Member) (rest : Text)
      (written : WrittenMember member text) (front : Spaces before) (back : Spaces behind)
      (later : WrittenMembers members rest) :
      WrittenMembers (member :: members) (text ++ (before ++ ',' :: (behind ++ rest)))

-- An object with its braces, and white space around it.
inductive WrittenObject : List Member → Text → Prop where
  | empty (front inner back : Text) (before : Spaces front) (spaces : Spaces inner) (behind : Spaces back) :
      WrittenObject [] (front ++ '\x7b' :: (inner ++ '\x7d' :: back))
  | some (members : List Member) (front inner inside back : Text) (before : Spaces front) (spaces : Spaces inner)
      (behind : Spaces back) (written : WrittenMembers members inside) :
      WrittenObject members (front ++ '\x7b' :: (inner ++ (inside ++ '\x7d' :: back)))

-- No field is mentioned twice.
def EachOnce (members : List Member) : Prop :=
  (members.filterMap Member.field?).Nodup

-- What is known once a member has been read.
def Draft.add (draft : Draft) : Member → Draft
  | .filters filters => { draft with filters := some filters }
  | .cacheDir cacheDir => { draft with cacheDir := some cacheDir }
  | .updatePeriodHours hours => { draft with updatePeriodHours := some hours }
  | .other _ => draft

theorem of_name_known (field : Field) : Field.ofName? field.name = some field := by
  cases field <;> decide +kernel

theorem of_name_unknown (name : Text) (unknown : ∀ field : Field, name ≠ field.name) : Field.ofName? name = none := by
  rw [Field.ofName?, List.find?_eq_none]
  intro field _
  rw [beq_iff_eq]
  exact (unknown field).symm

theorem field_of_name (member : Member) (value : Text) (written : WrittenValue member value) :
    Field.ofName? member.name = member.field? := by
  cases written with
  | filters => exact of_name_known .filters
  | cacheDir => exact of_name_known .cacheDir
  | updatePeriodHours => exact of_name_known .updatePeriodHours
  | other name value unknown => exact of_name_unknown name unknown

theorem read_field_written (draft : Draft) (member : Member) (field : Field) (value space rest : Text)
    (known : member.field? = some field) (written : WrittenValue member value) (spaces : Spaces space)
    (ends : EndsNumber rest) : readField draft (space ++ (value ++ rest)) field = .ok (draft.add member, rest) := by
  cases written with
  | filters filters value list =>
      cases known
      rw [readField, read_list_written filters value space rest list spaces]
      rfl
  | cacheDir cacheDir value string =>
      cases known
      rw [readField, read_text_written _ cacheDir value space rest string spaces]
      rfl
  | updatePeriodHours hours =>
      cases known
      rw [readField, read_word_written hours.toNat space rest hours.toNat_lt spaces ends]
      simp only [bind, Except.bind, UInt64.ofNat_toNat]
      rfl
  | other => cases known

theorem read_member_written (draft : Draft) (member : Member) (name before behind value rest : Text)
    (free : member.field?.any draft.has = false) (named : WrittenText member.name name) (front : Spaces before)
    (back : Spaces behind) (written : WrittenValue member value) (ends : EndsNumber rest) :
    readMember draft (name ++ '"' :: (before ++ ':' :: (behind ++ (value ++ rest)))) =
      .ok (draft.add member, rest) := by
  have read := read_written member.name name (before ++ ':' :: (behind ++ (value ++ rest))) named
  have colon := drop_to before ':' (behind ++ (value ++ rest)) front (by decide)
  have field := field_of_name member value written
  simp only [readMember, read, bind, Except.bind, field, free, Bool.false_eq_true, if_false]
  rw [colon]
  cases known : member.field? with
  | some field => exact read_field_written draft member field value behind rest known written back ends
  | none =>
      cases written with
      | other name value unknown form =>
          have passed := value_passed_over value behind rest form back ends
          simp only [passed]
          rfl
      | _ => cases known

theorem add_has (draft : Draft) (member : Member) (field : Field) (free : draft.has field = false)
    (different : member.field? ≠ some field) : (draft.add member).has field = false := by
  cases member <;> cases field <;> first | exact free | exact absurd rfl different

section

variable (draft after : Draft) (member : Member) (text behind rest : Text) (fuel : Nat)
  (free : member.field?.any draft.has = false) (written : WrittenMember member text) (ends : EndsNumber behind)
  (later : readMembers fuel false (draft.add member) behind = .ok (after, rest))

include free written ends later

theorem read_members_first (space : Text) (spaces : Spaces space) :
    readMembers (fuel + 1) true draft (space ++ (text ++ behind)) = .ok (after, rest) := by
  cases written with
  | parts name before back value named front backs value' =>
      have read := read_member_written draft member name before back value behind free named front backs value' ends
      simp only [List.cons_append, List.append_assoc]
      rw [readMembers, drop_to space '"' _ spaces (by decide)]
      simp [read, later, bind, Except.bind]

theorem read_members_next (outer space : Text) (left : Spaces outer) (spaces : Spaces space) :
    readMembers (fuel + 1) false draft (outer ++ ',' :: (space ++ (text ++ behind))) = .ok (after, rest) := by
  cases written with
  | parts name before back value named front backs value' =>
      have read := read_member_written draft member name before back value behind free named front backs value' ends
      simp only [List.cons_append, List.append_assoc]
      rw [readMembers, drop_to outer ',' _ left (by decide)]
      simp [drop_to space '"' _ spaces (by decide), read, later, bind, Except.bind]

end

theorem read_members_end (draft : Draft) (space rest : Text) (fuel : Nat) (first : Bool) (spaces : Spaces space) :
    readMembers (fuel + 1) first draft (space ++ '\x7d' :: rest) = .ok (draft, rest) := by
  rw [readMembers, drop_to space '\x7d' rest spaces (by decide)]
  rfl

theorem each_once_cons (member : Member) (members : List Member) (once : EachOnce (member :: members)) :
    (∀ field, member.field? = some field → ∀ other ∈ members, other.field? ≠ some field) ∧ EachOnce members := by
  rw [EachOnce] at once
  cases known : member.field? with
  | none =>
      rw [List.filterMap_cons_none known] at once
      exact ⟨nofun, once⟩
  | some field =>
      rw [List.filterMap_cons_some known] at once
      obtain ⟨absent, others⟩ := List.nodup_cons.mp once
      refine ⟨?_, others⟩
      rintro _ ⟨⟩ other there same
      exact absent (List.mem_filterMap.mpr ⟨other, there, same⟩)

-- What is still to be read stays so when a member has been read.
theorem add_free (draft : Draft) (member : Member) (members : List Member) (once : EachOnce (member :: members))
    (free : ∀ other ∈ members, other.field?.any draft.has = false) :
    ∀ other ∈ members, other.field?.any (draft.add member).has = false := by
  intro other there
  cases known : other.field? with
  | none => rfl
  | some field =>
      have unset := free other there
      rw [known] at unset
      exact add_has draft member field unset fun same =>
        (each_once_cons member members once).1 field same other there known

-- The induction is on the members. None of those still to be read is of a field that is known already.
theorem read_members_written (members : List Member) (inside rest : Text) (written : WrittenMembers members inside)
    (draft : Draft) (fuel : Nat) (enough : members.length < fuel) (once : EachOnce members)
    (free : ∀ member ∈ members, member.field?.any draft.has = false) :
    (∀ space, Spaces space → readMembers fuel true draft (space ++ (inside ++ '\x7d' :: rest)) =
        .ok (members.foldl Draft.add draft, rest)) ∧
      ∀ before space, Spaces before → Spaces space →
        readMembers fuel false draft (before ++ ',' :: (space ++ (inside ++ '\x7d' :: rest))) =
          .ok (members.foldl Draft.add draft, rest) := by
  induction written generalizing fuel draft with
  | last member text after written spaces =>
      obtain ⟨fuel, rfl⟩ : ∃ less, fuel = less + 2 := ⟨fuel - 2, by simp at enough; omega⟩
      have ending := read_members_end (draft.add member) after rest fuel false spaces
      have ends : EndsNumber (after ++ '\x7d' :: rest) :=
        ends_behind_spaces after _ spaces (ends_at '\x7d' rest (by decide))
      rw [List.append_assoc]
      exact ⟨read_members_first draft _ member text _ rest _ (free member List.mem_cons_self) written ends ending,
        read_members_next draft _ member text _ rest _ (free member List.mem_cons_self) written ends ending⟩
  | next member text before behind members inside written front back _ ih =>
      obtain ⟨fuel, rfl⟩ : ∃ less, fuel = less + 1 := ⟨fuel - 1, by simp at enough; omega⟩
      have others := add_free draft member members once fun other there => free other (List.mem_cons_of_mem _ there)
      have ending := (ih (draft.add member) fuel (by simpa using enough) (each_once_cons member members once).2
        others).2 before behind front back
      have ends : EndsNumber (before ++ ',' :: (behind ++ (inside ++ '\x7d' :: rest))) :=
        ends_behind_spaces before _ front (ends_at ',' _ (by decide))
      simp only [List.append_assoc, List.cons_append]
      exact ⟨read_members_first draft _ member text _ rest _ (free member List.mem_cons_self) written ends ending,
        read_members_next draft _ member text _ rest _ (free member List.mem_cons_self) written ends ending⟩

theorem members_length (members : List Member) (inside : Text) (written : WrittenMembers members inside) :
    members.length ≤ inside.length := by
  induction written with
  | last member text space written =>
      cases written
      simp
  | next member text before behind members rest _ _ _ _ ih =>
      simp only [List.length_cons, List.length_append]
      omega

theorem object_closed (front inside back : Text) (draft : Draft) (before : Spaces front) (behind : Spaces back)
    (read : readMembers (inside.length + 1) true {} inside = .ok (draft, back)) :
    ofJson (front ++ '\x7b' :: inside) = .ok draft.complete := by
  have nothing := drop_spaces back [] behind
  rw [List.append_nil] at nothing
  have config : readConfig (front ++ '\x7b' :: inside) = .ok (draft, back) := by
    rw [readConfig, drop_to front '\x7b' inside before (by decide)]
    exact read
  simp only [ofJson, config, bind, Except.bind]
  rw [nothing]
  rfl

theorem object_read (members : List Member) (text : Text) (written : WrittenObject members text)
    (once : EachOnce members) : ofJson text = .ok (members.foldl Draft.add {}).complete := by
  cases written with
  | empty front inner back before spaces behind =>
      exact object_closed front _ back {} before behind (read_members_end {} inner back _ true spaces)
  | some _ front inner inside back before spaces behind written =>
      have bound := members_length members inside written
      refine object_closed front _ back _ before behind ?_
      refine (read_members_written members inside back written {} _ ?_ once ?_).1 inner spaces
      · simp only [List.length_append]
        omega
      · intro member _
        cases member <;> rfl

-- A member can be written if it is not taken for one of a field.
def Member.Apart (member : Member) : Prop :=
  member.field? = none → ∀ field : Field, member.name ≠ field.name

theorem member_writable (member : Member) (apart : member.Apart) : ∃ text, WrittenMember member text := by
  obtain ⟨name, named⟩ := text_writable member.name
  have value : ∃ value, WrittenValue member value := by
    cases member with
    | filters filters =>
        obtain ⟨value, list⟩ := list_writable filters
        exact ⟨value, .filters filters value list⟩
    | cacheDir cacheDir =>
        obtain ⟨value, string⟩ := string_writable cacheDir
        exact ⟨value, .cacheDir cacheDir value string⟩
    | updatePeriodHours hours => exact ⟨_, .updatePeriodHours hours⟩
    | other name => exact ⟨_, .other name _ (apart rfl) .null⟩
  obtain ⟨value, written⟩ := value
  exact ⟨_, .parts member name [] [] value named no_spaces no_spaces written⟩

theorem members_writable (member : Member) (members : List Member) (apart : ∀ other ∈ member :: members, other.Apart) :
    ∃ inside, WrittenMembers (member :: members) inside := by
  induction members generalizing member with
  | nil =>
      obtain ⟨text, written⟩ := member_writable member (apart member List.mem_cons_self)
      exact ⟨_, .last member text [] written no_spaces⟩
  | cons next members ih =>
      obtain ⟨text, written⟩ := member_writable member (apart member List.mem_cons_self)
      obtain ⟨rest, later⟩ := ih next fun other there => apart other (List.mem_cons_of_mem member there)
      exact ⟨_, .next member text [] [] _ rest written no_spaces no_spaces later⟩

theorem object_writable (members : List Member) (apart : ∀ member ∈ members, member.Apart) :
    ∃ text, WrittenObject members text := by
  cases members with
  | nil => exact ⟨_, .empty [] [] [] no_spaces no_spaces no_spaces⟩
  | cons member members =>
      obtain ⟨inside, written⟩ := members_writable member members apart
      exact ⟨_, .some _ [] [] inside [] no_spaces no_spaces no_spaces written⟩

end LinkTidy.Config
