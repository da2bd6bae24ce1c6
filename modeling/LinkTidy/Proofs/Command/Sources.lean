import LinkTidy.Command
import LinkTidy.Proofs.Cleaner.RuleSets
import LinkTidy.Proofs.Command.Flags
import LinkTidy.Proofs.Source
import LinkTidy.Proofs.Store.History
/-!
Runs on local filter files: if one of them cannot be read nothing is cleaned, and otherwise texts are cleaned with the
rules of all of them.
-/

set_option autoImplicit false

namespace LinkTidy.Command

open Utf8 (Valid)

-- There is a file at the path, and it holds a text.
def Readable (read : FileReader) (path : Text) : Prop :=
  ∃ text, read path = .ok (Utf8.encode text)

theorem read_text_iff (read : FileReader) (path text : Text) :
    read.readText path = .ok text ↔ read path = .ok (Utf8.encode text) := by
  rw [FileReader.readText]
  cases found : read path with
  | error e => exact iff_of_false nofun nofun
  | ok bytes =>
      simp only [Except.ok.injEq]
      rw [eq_comm (b := Utf8.encode text), ← Utf8.decode_ok_iff]
      cases Utf8.decode bytes <;> simp

theorem readable_contents (read : FileReader) (paths : List Text) (readable : ∀ path ∈ paths, Readable read path) :
    ∃ contents : Text → Text, ∀ path ∈ paths, read path = .ok (Utf8.encode (contents path)) := by
  -- Anything will do for a path that is not among them.
  refine ⟨fun path => (read.readText path).toOption.getD [], fun path member => ?_⟩
  obtain ⟨text, there⟩ := readable path member
  simp only [(read_text_iff read path text).mpr there]
  exact there

theorem load_file (read : FileReader) (path : Text) (bytes : Bytes) (there : read path = .ok bytes) :
    Source.load read path = .ok ⟨path, bytes⟩ := by
  rw [Source.load, there]

theorem load_unreadable (read : FileReader) (path : Text) (bad : ¬ Readable read path) :
    (∃ e, Source.load read path = .error e) ∨ ∃ source, Source.load read path = .ok source ∧ ¬ Valid source.bytes := by
  cases found : read path with
  | error e =>
      rw [Source.load, found]
      exact .inl ⟨_, rfl⟩
  | ok bytes =>
      refine .inr ⟨_, load_file read path bytes found, ?_⟩
      rintro ⟨text, rfl⟩
      exact bad ⟨text, found⟩

-- The files at paths as sources, by what the files hold.
def fileSources (contents : Text → Text) (paths : List Text) : List RawSource :=
  paths.map fun path => ⟨path, Utf8.encode (contents path)⟩

theorem file_sources_valid (contents : Text → Text) (paths : List Text) :
    ∀ source ∈ fileSources contents paths, Valid source.bytes := by
  intro source member
  obtain ⟨path, -, rfl⟩ := List.mem_map.mp member
  exact ⟨contents path, rfl⟩

section

variable {σ : Type} (outside : Outside σ) (state : σ) (config : Config) (store : Store)
  (nearby : ∀ path ∈ config.filters, Source.isRemote path = false)

include nearby

theorem update_filters_refused (bad : ∃ path ∈ config.filters, ¬ Readable (outside.read state) path) :
    ∃ e, updateFilters outside config state store = (state, store, some e) := by
  obtain ⟨path, member, bad⟩ := bad
  obtain ⟨e, refused⟩ := (Store.refused_iff_bad (config.filters.map (Source.load (outside.read state)))).mpr
    ⟨Source.load (outside.read state) path, List.mem_map_of_mem member, load_unreadable _ path bad⟩
  refine ⟨e, ?_⟩
  rw [updateFilters, Source.fetch_all_local outside _ state 0 config.filters nearby]
  simp only [Store.update_all_refused store _ _ _ e refused]

theorem update_filters_taken (contents : Text → Text)
    (there : ∀ path ∈ config.filters, outside.read state path = .ok (Utf8.encode (contents path))) :
    updateFilters outside config state store =
      (state, store.afterSources FilterList.compileLine (fileSources contents config.filters), none) := by
  have loaded : config.filters.map (Source.load (outside.read state)) =
      (fileSources contents config.filters).map .ok := by
    rw [fileSources, List.map_map]
    exact List.map_congr_left fun path member => load_file _ path _ (there path member)
  rw [updateFilters, Source.fetch_all_local outside _ state 0 config.filters nearby, loaded]
  simp only [Store.update_all_uncancelled store _ _ (file_sources_valid contents config.filters)]

end

theorem file_store_reflects (contents : Text → Text) (paths : List Text) :
    Store.Reflects FilterList.compileLine (fileSources contents paths)
      (Store.empty.afterSources FilterList.compileLine (fileSources contents paths)) :=
  Store.reflects_sources FilterList.compileLine [] _ .empty (Store.reflects_empty _) (file_sources_valid contents paths)

-- A path that stands several times stands for one text, so it makes no difference whether its digest tells it apart.
theorem rules_of_file (contents : Text → Text) (paths : List Text) (id : Text) (rules : List Rule)
    (found : (Store.empty.afterSources FilterList.compileLine (fileSources contents paths)).rulesFor id = some rules) :
    id ∈ paths ∧ rules = FilterList.compile (contents id) := by
  obtain ⟨source, member, rfl, -, text, encoded, rfl⟩ := (file_store_reflects contents paths).rules id rules found
  obtain ⟨path, listed, rfl⟩ := List.mem_map.mp member
  have same : text = contents path :=
    Except.ok.inj ((Utf8.decode_encode text).symm.trans ((Utf8.decode_ok_iff _ _).mpr encoded.symm))
  exact ⟨listed, by rw [same]; rfl⟩

theorem mem_rules_of_files (contents : Text → Text) (paths : List Text) (rule : Rule) :
    rule ∈ (Store.empty.afterSources FilterList.compileLine (fileSources contents paths)).snapshot.flatten ↔
      ∃ path ∈ paths, rule ∈ FilterList.compile (contents path) := by
  have distinct := Store.distinct_after FilterList.compileLine .empty (fileSources contents paths) List.nodup_nil
  rw [Store.mem_snapshot _ distinct]
  constructor
  · rintro ⟨id, rules, found, member⟩
    obtain ⟨listed, rfl⟩ := rules_of_file contents paths id rules found
    exact ⟨id, listed, member⟩
  · rintro ⟨path, listed, member⟩
    have held : path ∈ (Store.empty.afterSources FilterList.compileLine (fileSources contents paths)).ids := by
      rw [(file_store_reflects contents paths).ids, List.mem_eraseDups, fileSources, List.map_map]
      exact List.mem_map.mpr ⟨path, listed, rfl⟩
    obtain ⟨entry, found⟩ := Option.isSome_iff_exists.mp ((Store.find_is_some _ path).mpr held)
    have rules := congrArg (Option.map Entry.rules) found
    obtain ⟨-, same⟩ := rules_of_file contents paths path entry.rules rules
    exact ⟨path, entry.rules, rules, same ▸ member⟩

-- A store that holds just these rules.
def holding (rules : List Rule) : Store where
  entries := [⟨[], [], rules, 0⟩]
  nextStamp := 1

def allRules (contents : Text → Text) (paths : List Text) : List Rule :=
  paths.flatMap fun path => FilterList.compile (contents path)

theorem files_clean_alike (contents : Text → Text) (paths : List Text) :
    Cleaner.CleanAlike (Store.empty.afterSources FilterList.compileLine (fileSources contents paths))
      (holding (allRules contents paths)) := by
  apply Cleaner.clean_alike_of_rules
  intro rule
  rw [mem_rules_of_files]
  exact List.mem_flatMap.symm.trans (by rw [holding, Store.snapshot, List.map_singleton, List.flatten_singleton, allRules])

section

variable {σ : Type} (outside : Outside σ) (state : σ) (paths : List Text) (parity : Bool) (some : paths ≠ [])
  (nearby : ∀ path ∈ paths, Source.isRemote path = false)

include some

theorem resolve_filters (read : FileReader) :
    SourceOptions.resolve { filters := paths, parity := parity } read = .ok { Config.default with filters := paths } := by
  have given : paths.isEmpty = false := List.isEmpty_eq_false_iff.mpr some
  simp [SourceOptions.resolve, Config.resolveWith, Config.validate, given, Config.default]

include nearby

theorem prepare_refused (bad : ∃ path ∈ paths, ¬ Readable (outside.read state) path) :
    ∃ e, prepare outside state { filters := paths, parity := parity } = (state, .error (.source e)) := by
  obtain ⟨e, refused⟩ :=
    update_filters_refused outside state { Config.default with filters := paths } .empty nearby bad
  exact ⟨e, by rw [prepare, resolve_filters paths parity some]; simp only [refused]⟩

theorem prepare_taken (contents : Text → Text)
    (there : ∀ path ∈ paths, outside.read state path = .ok (Utf8.encode (contents path))) :
    prepare outside state { filters := paths, parity := parity } =
      (state, .ok ({ Config.default with filters := paths },
        Store.empty.afterSources FilterList.compileLine (fileSources contents paths))) := by
  have taken :=
    update_filters_taken outside state { Config.default with filters := paths } .empty nearby contents there
  rw [prepare, resolve_filters paths parity some]
  simp only [taken]

end

-- What a command line leaves to be seen: what is printed, and the exit code.
def visible {σ : Type} (outside : Outside σ) (state : σ) (input : Bytes) (arguments : List Text) : Text × Nat :=
  match Request.ofArguments? arguments with
  | none => ([], usageExitCode)
  | some request => ((run outside state input request).2.stdout, (run outside state input request).2.exitCode)

-- A text cleaned with the rules of all files.
def cleanedText (parity : Bool) (contents : Text → Text) (paths : List Text) (text : Text) : Text :=
  (Cleaner.clean parity (holding (allRules contents paths)) text).text

theorem cleaned_text_alike (parity : Bool) (contents : Text → Text) (paths : List Text) (text : Text) :
    (Cleaner.clean parity (Store.empty.afterSources FilterList.compileLine (fileSources contents paths)) text).text =
      cleanedText parity contents paths text :=
  congrArg Cleaned.text (files_clean_alike contents paths parity Url.detect text)

theorem cleaned_text_congr (parity : Bool) (contents : Text → Text) (paths others : List Text)
    (same : ∀ path, path ∈ paths ↔ path ∈ others) (text : Text) :
    cleanedText parity contents paths text = cleanedText parity contents others text := by
  have rules : ∀ rule, rule ∈ (holding (allRules contents paths)).snapshot.flatten ↔
      rule ∈ (holding (allRules contents others)).snapshot.flatten := by
    intro rule
    simp [holding, Store.snapshot, allRules, same]
  exact congrArg Cleaned.text (Cleaner.clean_alike_of_rules _ _ rules parity Url.detect text)

section

variable {σ : Type} (outside : Outside σ) (state : σ) (input : Bytes) (paths : List Text) (parity : Bool)
  (arguments : List Text) (flags : Flags paths parity arguments) (texts : List Text) (somePath : paths ≠ [])
  (someText : texts ≠ []) (nearby : ∀ path ∈ paths, Source.isRemote path = false)

include flags somePath nearby

theorem clean_texts_refused (bad : ∃ path ∈ paths, ¬ Readable (outside.read state) path) :
    visible outside state input ("clean".toList :: arguments ++ "--".toList :: texts) = ([], 1) := by
  obtain ⟨e, refused⟩ := prepare_refused outside state paths parity somePath nearby bad
  rw [visible, clean_texts_requested paths parity arguments flags texts]
  simp only [run, clean, refused]
  rfl

include someText

theorem clean_texts_cleaned (contents : Text → Text)
    (there : ∀ path ∈ paths, outside.read state path = .ok (Utf8.encode (contents path))) :
    visible outside state input ("clean".toList :: arguments ++ "--".toList :: texts) =
      (unlines (texts.map (cleanedText parity contents paths)), 0) := by
  have given : texts.isEmpty = false := List.isEmpty_eq_false_iff.mpr someText
  rw [visible, clean_texts_requested paths parity arguments flags texts]
  simp only [run, clean, prepare_taken outside state paths parity somePath nearby contents there, given,
    cleaned_text_alike]
  rfl

end

-- Either some file is unreadable, and then nothing is cleaned, or every text is cleaned with the rules of all files. So
-- it makes no difference in which order the files are named, nor how often.
theorem clean_with_local_filters {σ : Type} (outside : Outside σ) (state : σ) (input : Bytes) (paths : List Text)
    (parity : Bool) (arguments texts : List Text) (flags : Flags paths parity arguments) (somePath : paths ≠ [])
    (someText : texts ≠ []) (nearby : ∀ path ∈ paths, Source.isRemote path = false) :
    ((∃ path ∈ paths, ¬ Readable (outside.read state) path) →
        visible outside state input ("clean".toList :: arguments ++ "--".toList :: texts) = ([], 1)) ∧
      (∀ contents : Text → Text, (∀ path ∈ paths, outside.read state path = .ok (Utf8.encode (contents path))) →
        visible outside state input ("clean".toList :: arguments ++ "--".toList :: texts) =
          (unlines (texts.map fun text => (Cleaner.clean parity
            (holding (paths.flatMap fun path => FilterList.compile (contents path))) text).text), 0)) ∧
      ∀ (otherPaths otherArguments : List Text), Flags otherPaths parity otherArguments →
        (∀ path, path ∈ otherPaths ↔ path ∈ paths) →
          visible outside state input ("clean".toList :: otherArguments ++ "--".toList :: texts) =
            visible outside state input ("clean".toList :: arguments ++ "--".toList :: texts) := by
  refine ⟨clean_texts_refused outside state input paths parity arguments flags texts somePath nearby,
    clean_texts_cleaned outside state input paths parity arguments flags texts somePath someText nearby, ?_⟩
  intro otherPaths otherArguments otherFlags same
  have otherSome : otherPaths ≠ [] := by
    obtain ⟨path, member⟩ := List.exists_mem_of_ne_nil paths somePath
    exact List.ne_nil_of_mem ((same path).mpr member)
  have otherNearby : ∀ path ∈ otherPaths, Source.isRemote path = false := fun path member =>
    nearby path ((same path).mp member)
  by_cases bad : ∃ path ∈ paths, ¬ Readable (outside.read state) path
  · have otherBad : ∃ path ∈ otherPaths, ¬ Readable (outside.read state) path := by
      obtain ⟨path, member, unreadable⟩ := bad
      exact ⟨path, (same path).mpr member, unreadable⟩
    rw [clean_texts_refused outside state input paths parity arguments flags texts somePath nearby bad,
      clean_texts_refused outside state input otherPaths parity otherArguments otherFlags texts otherSome otherNearby
        otherBad]
  · have readable : ∀ path ∈ paths, Readable (outside.read state) path := by
      simpa using bad
    obtain ⟨contents, there⟩ := readable_contents _ paths readable
    have otherThere : ∀ path ∈ otherPaths, outside.read state path = .ok (Utf8.encode (contents path)) :=
      fun path member => there path ((same path).mp member)
    rw [clean_texts_cleaned outside state input paths parity arguments flags texts somePath someText nearby contents
        there,
      clean_texts_cleaned outside state input otherPaths parity otherArguments otherFlags texts otherSome someText
        otherNearby contents otherThere,
      List.map_congr_left fun text _ => cleaned_text_congr parity contents otherPaths paths same text]

-- Two files that are texts, one that is none, and the first two named again in another order and once more.
theorem clean_with_two_filters :
    let read : FileReader := fun path =>
      if path = ['a'] then .ok (Utf8.encode "$removeparam=u".toList)
      else if path = ['b'] then .ok (Utf8.encode "||x.net^$removeparam=v".toList)
      else if path = ['c'] then .ok [0xFF]
      else .error .missing
    let text := "see http://x.net/?u=1&v=2&w=3 now".toList
    let asked (flags : List String) : List Text := "clean".toList :: flags.map String.toList ++ ["--".toList, text]
    visible .offline read [] (asked ["-f", "a", "-f", "b"]) = ("see http://x.net/?w=3 now\n".toList, 0) ∧
      visible .offline read [] (asked ["-fb", "--filter=a", "-f=b"]) = ("see http://x.net/?w=3 now\n".toList, 0) ∧
      visible .offline read [] (asked ["-f", "a", "--filter", "c"]) = ([], 1) := by
  intro read text asked
  have both : Flags [['a'], ['b']] false (["-f", "a", "-f", "b"].map String.toList) :=
    .filter ['a'] _ _ _ _ (.short rfl) (.filter ['b'] _ _ _ _ (.short rfl) .none)
  have thrice : Flags [['b'], ['a'], ['b']] false (["-fb", "--filter=a", "-f=b"].map String.toList) :=
    .filter ['b'] _ _ _ _ (.attached 'b' [] rfl (by decide))
      (.filter ['a'] _ _ _ _ .longEquals (.filter ['b'] _ _ _ _ .shortEquals .none))
  have broken : Flags [['a'], ['c']] false (["-f", "a", "--filter", "c"].map String.toList) :=
    .filter ['a'] _ _ _ _ (.short rfl) (.filter ['c'] _ _ _ _ (.long rfl) .none)
  have unreadable : ¬ Readable read ['c'] := by
    rintro ⟨text, there⟩
    have invalid : ¬ Valid [0xFF] := by decide +kernel
    exact invalid ⟨text, (Except.ok.inj there).symm⟩
  obtain ⟨-, cleaned, reordered⟩ :=
    clean_with_local_filters .offline read [] _ _ _ [text] both (by decide) (by decide) (by decide)
  obtain ⟨refused, -⟩ :=
    clean_with_local_filters .offline read [] _ _ _ [text] broken (by decide) (by decide) (by decide)
  let contents : Text → Text := fun path =>
    if path = ['a'] then "$removeparam=u".toList else "||x.net^$removeparam=v".toList
  have shown := cleaned contents (by decide +kernel)
  have result : visible .offline read [] (asked ["-f", "a", "-f", "b"]) = ("see http://x.net/?w=3 now\n".toList, 0) :=
    shown.trans (by decide +kernel)
  refine ⟨result, (reordered _ _ thrice (by simp)).trans result, refused ⟨['c'], by decide, unreadable⟩⟩

end LinkTidy.Command
