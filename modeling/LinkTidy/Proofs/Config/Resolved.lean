import LinkTidy.Command
import LinkTidy.Proofs.Config.Members
import LinkTidy.Proofs.Config.Period
import LinkTidy.Proofs.Text.Utf8.Reading
/-!
What is asked for by a configuration file and the filters given beside it. The file says it by its fields alone: neither
their order nor anything between them counts.
-/

set_option autoImplicit false

namespace LinkTidy.Config

open Command Json

-- The value of one field, if a member is of that field.
def Member.filters? : Member → Option (List Text)
  | .filters list => some list
  | _ => none

def Member.cacheDir? : Member → Option Text
  | .cacheDir path => some path
  | _ => none

def Member.hours? : Member → Option UInt64
  | .updatePeriodHours hours => some hours
  | _ => none

-- What members ask for, with extra filters behind their own. What they leave out has its default.
def effective (members : List Member) (extra : List Text) : Config where
  filters := (members.findSome? Member.filters?).getD defaultFilters ++ extra
  cacheDir := (members.findSome? Member.cacheDir?).getD "filters-cache".toList
  updatePeriodHours := (members.findSome? Member.hours?).getD 6

-- The members that belong to fields.
def fieldsOf (members : List Member) : List Member :=
  members.filter fun member => member.field?.isSome

section

variable {α : Type} (said : Member → Option α) (field : Field)
  (belongs : ∀ member, (said member).isSome = true → member.field? = some field)

include belongs

-- Behind a member that gives a field its value there is no other of that field.
theorem said_once (member : Member) (members : List Member) (once : EachOnce (member :: members))
    (here : (said member).isSome = true) : ∀ other ∈ members, said other = none := by
  intro other there
  rw [← Option.not_isSome_iff_eq_none]
  intro also
  exact (each_once_cons member members once).1 field (belongs member here) other there (belongs other also)

-- Among members that mention a field once, the first value for it is the only one.
theorem first_said_iff (members : List Member) (once : EachOnce members) (value : α) :
    members.findSome? said = some value ↔ ∃ member ∈ members, said member = some value := by
  induction members with
  | nil => simp
  | cons member members ih =>
      cases here : said member with
      | none => simp [here, ih (each_once_cons member members once).2]
      | some first =>
          have others := said_once said field belongs member members once (by rw [here]; rfl)
          simp only [List.findSome?_cons, here, List.mem_cons, exists_eq_or_imp]
          constructor
          · exact .inl
          · rintro (same | ⟨other, there, also⟩)
            · exact same
            · rw [others other there] at also
              cases also

theorem said_in_fields (members : List Member) (value : α) :
    (∃ member ∈ members, said member = some value) ↔ ∃ member ∈ fieldsOf members, said member = some value := by
  constructor
  · rintro ⟨member, there, given⟩
    have known := belongs member (by rw [given]; rfl)
    exact ⟨member, List.mem_filter.mpr ⟨there, by rw [known]; rfl⟩, given⟩
  · rintro ⟨member, there, given⟩
    exact ⟨member, (List.mem_filter.mp there).1, given⟩

theorem first_said_reordered (members others : List Member) (once : EachOnce members) (onceToo : EachOnce others)
    (same : (fieldsOf others).Perm (fieldsOf members)) : others.findSome? said = members.findSome? said := by
  ext value
  rw [first_said_iff said field belongs others onceToo, first_said_iff said field belongs members once,
    said_in_fields said field belongs others, said_in_fields said field belongs members]
  simp only [same.mem_iff]

-- Reading on keeps the value of a field, once there is one.
theorem said_kept (get : Draft → Option α)
    (adds : ∀ draft member, get (draft.add member) = (said member).or (get draft)) (members : List Member)
    (once : EachOnce members) (draft : Draft) :
    get (members.foldl Draft.add draft) = (members.findSome? said).or (get draft) := by
  induction members generalizing draft with
  | nil => rfl
  | cons member members ih =>
      rw [List.foldl_cons, ih (each_once_cons member members once).2, adds, List.findSome?_cons]
      cases here : said member with
      | none => rfl
      | some value =>
          have others := said_once said field belongs member members once (by rw [here]; rfl)
          rw [List.findSome?_eq_none_iff.mpr others]
          rfl

end

theorem filters_belong (member : Member) (given : member.filters?.isSome = true) : member.field? = some .filters := by
  cases member <;> first | rfl | cases given

theorem cache_dir_belongs (member : Member) (given : member.cacheDir?.isSome = true) :
    member.field? = some .cacheDir := by
  cases member <;> first | rfl | cases given

theorem hours_belong (member : Member) (given : member.hours?.isSome = true) :
    member.field? = some .updatePeriodHours := by
  cases member <;> first | rfl | cases given

theorem completed_effective (members : List Member) (extra : List Text) (once : EachOnce members) :
    let config := (members.foldl Draft.add {}).complete
    { config with filters := config.filters ++ extra } = effective members extra := by
  have filters := said_kept Member.filters? .filters filters_belong Draft.filters
    (by intro _ member; cases member <;> rfl) members once {}
  have cacheDir := said_kept Member.cacheDir? .cacheDir cache_dir_belongs Draft.cacheDir
    (by intro _ member; cases member <;> rfl) members once {}
  have hours := said_kept Member.hours? .updatePeriodHours hours_belong Draft.updatePeriodHours
    (by intro _ member; cases member <;> rfl) members once {}
  simp only [Option.or_none] at filters cacheDir hours
  simp only [Draft.complete, filters, cacheDir, hours, effective, default]

-- Options that name a file with these members.
structure GivenBy (read : FileReader) (options : SourceOptions) (members : List Member) : Prop where
  file : ∃ path text, options.config = some path ∧ read path = .ok (Utf8.encode text) ∧ WrittenObject members text
  once : EachOnce members

theorem resolve_given (read : FileReader) (options : SourceOptions) (members : List Member)
    (given : GivenBy read options members) : options.resolve read = (effective members options.filters).validate := by
  obtain ⟨path, text, named, file, written⟩ := given.file
  have content : read.readText path = .ok text := by
    rw [FileReader.readText, file]
    simp [Utf8.decode_encode]
  rw [SourceOptions.resolve, named]
  simp only [Option.map_some, content, resolveWith, object_read members text written given.once,
    ← completed_effective members options.filters given.once]

theorem effective_reordered (members others : List Member) (extra : List Text) (once : EachOnce members)
    (onceToo : EachOnce others) (same : (fieldsOf others).Perm (fieldsOf members)) :
    effective others extra = effective members extra := by
  have filters := first_said_reordered Member.filters? .filters filters_belong members others once onceToo same
  have cacheDir := first_said_reordered Member.cacheDir? .cacheDir cache_dir_belongs members others once onceToo same
  have hours := first_said_reordered Member.hours? .updatePeriodHours hours_belong members others once onceToo same
  rw [effective, effective, filters, cacheDir, hours]

-- What a file with given members and extra filters come to. They are accepted if and only if there is a filter and an
-- hour in what they ask for together, and then that is the configuration. Another file that says the same of the
-- fields, in whatever order and among whatever else, comes to the same.
structure ComesTo (members : List Member) (read : FileReader) (options : SourceOptions) : Prop where
  accepted_iff : (∃ config, options.resolve read = .ok config) ↔
    (effective members options.filters).filters ≠ [] ∧
      1 ≤ (effective members options.filters).updatePeriodHours.toNat
  is_effective : ∀ config, options.resolve read = .ok config → config = effective members options.filters
  same_fields : ∀ (otherRead : FileReader) (otherOptions : SourceOptions) (others : List Member),
    GivenBy otherRead otherOptions others → otherOptions.filters = options.filters →
      (fieldsOf others).Perm (fieldsOf members) → otherOptions.resolve otherRead = options.resolve read

theorem given_comes_to (read : FileReader) (options : SourceOptions) (members : List Member)
    (given : GivenBy read options members) : ComesTo members read options := by
  have resolved := resolve_given read options members given
  have accepted (config : Config) : options.resolve read = .ok config ↔
      effective members options.filters = config ∧ (effective members options.filters).filters ≠ [] ∧
        (effective members options.filters).updatePeriodHours ≠ 0 := by
    rw [resolved, validate_ok_iff]
  have someHour : (effective members options.filters).updatePeriodHours ≠ 0 ↔
      1 ≤ (effective members options.filters).updatePeriodHours.toNat := by
    rw [Nat.one_le_iff_ne_zero, ne_eq, ne_eq, ← UInt64.toNat_inj, UInt64.toNat_zero]
  constructor
  case accepted_iff =>
    rw [← someHour]
    exact ⟨fun ⟨config, ok⟩ => ((accepted config).mp ok).2, fun both => ⟨_, (accepted _).mpr ⟨rfl, both⟩⟩⟩
  case is_effective => exact fun config ok => ((accepted config).mp ok).1.symm
  case same_fields =>
    intro otherRead otherOptions others givenToo extra same
    rw [resolve_given otherRead otherOptions others givenToo, extra, resolved,
      effective_reordered members others options.filters given.once givenToo.once same]

-- Whatever the members are, an object can be written that has them, and however it is written, it is read as what they
-- say.
theorem resolved_from_members (members : List Member) (once : EachOnce members)
    (apart : ∀ member ∈ members, member.Apart) :
    (∃ text, WrittenObject members text) ∧
      ∀ (read : FileReader) (options : SourceOptions) (path text : Text), WrittenObject members text →
        options.config = some path → read path = .ok (Utf8.encode text) → ComesTo members read options :=
  ⟨object_writable members apart, fun read options path text written named file =>
    given_comes_to read options members ⟨⟨path, text, named, file, written⟩, once⟩⟩

-- A string that is given as a pair of units, and another member in front that holds half a pair.
theorem resolved_from_members_of_mixed_file :
    let text :=
      "\x7b\"x\": \x7b\"y\": \"\\ud800\"\x7d, \"filters\": [\"\\ud83d\\ude00\"], \"cache_dir\": \"é\"\x7d".toList
    let read : FileReader := fun _ => .ok (Utf8.encode text)
    let options : SourceOptions := { config := some ['c'], filters := [['b']] }
    let members : List Member := [.other ['x'], .filters [['😀']], .cacheDir ['é']]
    WrittenObject members text ∧ EachOnce members ∧ (∀ member ∈ members, member.Apart) ∧
      options.resolve read = .ok ⟨[['😀'], ['b']], ['é'], 6⟩ := by
  intro text read options members
  have blank : Spaces [' '] := by simp [Spaces]
  have unknown : ∀ field : Field, ['x'] ≠ field.name := by
    intro field
    cases field <;> decide
  have half : WrittenUnit 0xD800 "d800".toList :=
    .digits 'd' '8' '0' '0' 13 8 0 0 (.inl rfl) (.inl rfl) (.inl rfl) (.inl rfl)
  have object : WellFormed .value "\x7b\"y\": \"\\ud800\"\x7d".toList :=
    .object [] _ no_spaces (.lastMember ['y'] [] [' '] _ [] (.plain 'y' [] (by decide) (by decide) (by decide) .nil)
      no_spaces blank (.string _ (.unit 0xD800 _ [] half .nil)) no_spaces)
  have other : WrittenMember (.other ['x']) "\"x\": \x7b\"y\": \"\\ud800\"\x7d".toList :=
    .parts _ ['x'] [] [' '] _ (plain_written _ (by decide)) no_spaces blank
      (.other _ _ unknown object)
  have high : WrittenUnit 0xD83D "d83d".toList :=
    .digits 'd' '8' '3' 'd' 13 8 3 13 (.inl rfl) (.inl rfl) (.inl rfl) (.inl rfl)
  have low : WrittenUnit 0xDE00 "de00".toList :=
    .digits 'd' 'e' '0' '0' 13 14 0 0 (.inl rfl) (.inl rfl) (.inl rfl) (.inl rfl)
  have face : WrittenString ['😀'] "\"\\ud83d\\ude00\"".toList :=
    ⟨_, .cons '😀' [] _ [] (.pair '😀' _ _ (by decide) high low) .nil, rfl⟩
  have filters : WrittenMember (.filters [['😀']]) "\"filters\": [\"\\ud83d\\ude00\"]".toList :=
    .parts _ "filters".toList [] [' '] _ (plain_written _ (by decide)) no_spaces blank
      (.filters _ _ (.some _ [] _ no_spaces (.last _ _ [] face no_spaces)))
  have cacheDir : WrittenMember (.cacheDir ['é']) "\"cache_dir\": \"é\"".toList :=
    .parts _ "cache_dir".toList [] [' '] _ (plain_written _ (by decide)) no_spaces blank
      (.cacheDir _ _ ⟨['é'], plain_written _ (by decide), rfl⟩)
  have inside : WrittenMembers members _ :=
    .next _ _ [] [' '] _ _ other no_spaces blank
      (.next _ _ [] [' '] _ _ filters no_spaces blank (.last _ _ [] cacheDir no_spaces))
  have written : WrittenObject members text := by
    have built := WrittenObject.some members [] [] _ [] no_spaces no_spaces no_spaces inside
    refine Eq.mp (congrArg (WrittenObject members) ?_) built
    decide +kernel
  have once : EachOnce members := (by decide : [Field.filters, Field.cacheDir].Nodup)
  have apart : ∀ member ∈ members, member.Apart := by
    simpa [members, Member.Apart, Member.field?, Member.name] using unknown
  obtain ⟨-, comes⟩ := resolved_from_members members once apart
  obtain ⟨accepted, found, -⟩ := comes read options ['c'] text written rfl rfl
  obtain ⟨config, ok⟩ := accepted.mpr ⟨by decide, by decide⟩
  refine ⟨written, once, apart, ?_⟩
  rw [ok, found config ok]
  rfl

end LinkTidy.Config
