import LinkTidy.Proofs.Command.Sources
import LinkTidy.Proofs.Text.Fields
/-!
The lines of an input, as they are cleaned and as they are watched: both print what cleaning the texts of the lines
prints, up to the first line that is no text.
-/

set_option autoImplicit false

namespace LinkTidy.Command

open Utf8 (Valid encode)

theorem split_input_line (line rest : Bytes) (plain : 10 ∉ line) :
    splitInput (line ++ 10 :: rest) = (line ++ [10]) :: splitInput rest := by
  induction line with
  | nil => rw [List.nil_append, splitInput, if_pos rfl, List.nil_append]
  | cons b more ih =>
      have other : b ≠ 10 := fun same => plain (same ▸ List.mem_cons_self)
      have later := ih fun member => plain (List.mem_cons_of_mem _ member)
      rw [List.cons_append, splitInput, if_neg other, later, List.cons_append]

theorem split_input_last (line : Bytes) (some : line ≠ []) (plain : 10 ∉ line) : splitInput line = [line] := by
  induction line with
  | nil => exact absurd rfl some
  | cons b more ih =>
      have other : b ≠ 10 := fun same => plain (same ▸ List.mem_cons_self)
      rw [splitInput, if_neg other]
      cases more with
      | nil => rfl
      | cons c others => rw [ih (List.cons_ne_nil c others) fun member => plain (List.mem_cons_of_mem _ member)]

theorem encode_line (line rest : Text) : encode (line ++ '\n' :: rest) = encode line ++ 10 :: encode rest :=
  Utf8.encode_append line _

-- Puts a printed line in front of what a run leaves.
def Outcome.after (printed : Text) (outcome : Outcome) : Outcome :=
  { outcome with stdout := printed ++ outcome.stdout }

section

variable (cleaned : Text → Text)

theorem clean_lines_text (line : Text) (plain : '\n' ∉ line) (rest : Bytes) :
    cleanLines cleaned (splitInput (encode line ++ 10 :: rest)) =
      (cleanLines cleaned (splitInput rest)).after (cleaned (dropLastChar '\r' line) ++ ['\n']) := by
  have ended : encode line ++ [10] = encode (line ++ ['\n']) := by
    rw [Utf8.encode_append]
    rfl
  have unended : withoutLineEnd (line ++ ['\n']) = dropLastChar '\r' line := by
    rw [withoutLineEnd, if_pos List.getLast?_concat, List.dropLast_concat]
  rw [split_input_line _ rest (Utf8.line_feed_absent line plain), ended, cleanLines, Utf8.decode_encode]
  simp only [unended, Outcome.after, List.append_assoc, List.singleton_append]

theorem clean_lines_last (text : Text) (some : text ≠ []) (plain : '\n' ∉ text) :
    cleanLines cleaned (splitInput (encode text)) = ⟨cleaned text ++ ['\n'], none⟩ := by
  have written : encode text ≠ [] := by
    obtain ⟨c, rest, rfl⟩ := List.exists_cons_of_ne_nil some
    rw [Utf8.encode_cons]
    exact List.append_ne_nil_of_left_ne_nil String.utf8EncodeChar_ne_nil _
  have unended : withoutLineEnd text = text := by
    rw [withoutLineEnd, if_neg]
    exact fun last => plain (List.mem_of_getLast? last)
  rw [split_input_last _ written (Utf8.line_feed_absent text plain), cleanLines, Utf8.decode_encode]
  simp only [unended, cleanLines]

theorem clean_lines_bad (bad behind : Bytes) (plain : 10 ∉ bad) (invalid : ¬ Valid bad)
    (ends : behind = [] ∨ ∃ rest, behind = 10 :: rest) :
    ∃ fault, cleanLines cleaned (splitInput (bad ++ behind)) = ⟨[], some (.input fault)⟩ := by
  rcases ends with rfl | ⟨rest, rfl⟩
  · have some : bad ≠ [] := fun none => invalid (none ▸ ⟨[], rfl⟩)
    obtain ⟨fault, refused⟩ := (Utf8.decode_refused_iff bad).mpr invalid
    rw [List.append_nil, split_input_last bad some plain, cleanLines, refused]
    exact ⟨fault, rfl⟩
  · obtain ⟨fault, refused⟩ := (Utf8.decode_refused_iff (bad ++ [10])).mpr fun valid =>
      invalid (Utf8.valid_before_line_feed bad valid)
    rw [split_input_line bad rest plain, cleanLines, refused]
    exact ⟨fault, rfl⟩

theorem clean_lines_texts (lines : List Text) (plain : ∀ line ∈ lines, '\n' ∉ line) (rest : Bytes) :
    cleanLines cleaned (splitInput (encode (unlines lines) ++ rest)) =
      (cleanLines cleaned (splitInput rest)).after (unlines (lines.map fun line => cleaned (dropLastChar '\r' line))) := by
  induction lines with
  | nil => rfl
  | cons line others ih =>
      have fed : encode (unlines (line :: others)) ++ rest = encode line ++ 10 :: (encode (unlines others) ++ rest) := by
        rw [unlines, List.flatMap_cons, List.append_assoc, List.singleton_append, encode_line, List.append_assoc]
        rfl
      rw [fed, clean_lines_text cleaned line (plain line List.mem_cons_self),
        ih fun other member => plain other (List.mem_cons_of_mem _ member)]
      simp [Outcome.after, unlines]

end

-- A text that is read back from a line as it was written.
def IsLine (text : Text) : Prop :=
  '\n' ∉ text ∧ text.getLast? ≠ some '\r'

instance (text : Text) : Decidable (IsLine text) :=
  inferInstanceAs (Decidable (_ ∧ _))

-- The inputs that have these texts as their lines: each is ended in either way, and the last may end with the input if
-- there is something in it.
inductive Fed : List Text → Text → Prop where
  | nothing : Fed [] []
  | feed (text : Text) (texts : List Text) (rest : Text) (later : Fed texts rest) :
      Fed (text :: texts) (text ++ '\n' :: rest)
  | returned (text : Text) (texts : List Text) (rest : Text) (later : Fed texts rest) :
      Fed (text :: texts) (text ++ '\r' :: '\n' :: rest)
  | unended (text : Text) (some : text ≠ []) : Fed [text] text

theorem clean_lines_fed (cleaned : Text → Text) (texts : List Text) (input : Text) (fed : Fed texts input)
    (plain : ∀ text ∈ texts, IsLine text) :
    cleanLines cleaned (splitInput (encode input)) = ⟨unlines (texts.map cleaned), none⟩ := by
  induction fed with
  | nothing => rfl
  | feed text texts rest _ ih =>
      have here := plain text List.mem_cons_self
      have later := ih fun other member => plain other (List.mem_cons_of_mem _ member)
      rw [encode_line, clean_lines_text cleaned text here.1, later, drop_last_absent '\r' text here.2]
      simp [Outcome.after, unlines]
  | returned text texts rest _ ih =>
      have here := plain text List.mem_cons_self
      have later := ih fun other member => plain other (List.mem_cons_of_mem _ member)
      have whole : text ++ '\r' :: '\n' :: rest = (text ++ ['\r']) ++ '\n' :: rest := by
        rw [List.append_assoc, List.singleton_append]
      rw [whole, encode_line, clean_lines_text cleaned (text ++ ['\r']) (by simpa using here.1), later, drop_last_written]
      simp [Outcome.after, unlines]
  | unended text some =>
      have here := plain text List.mem_cons_self
      rw [clean_lines_last cleaned text some here.1]
      simp [unlines]

section

variable {σ : Type} (outside : Outside σ) (config : Config) (parity : Bool)

theorem watch_lines (state : σ) (store : Store) (lines : List Bytes) :
    watchEvents outside config parity state store (lines.map .line) =
      (state, cleanLines (fun text => (Cleaner.clean parity store text).text) lines) := by
  induction lines with
  | nil => rfl
  | cons line rest ih =>
      rw [List.map_cons, watchEvents, cleanLines]
      cases Utf8.decode line with
      | error fault => rfl
      | ok text => simp only [ih]

theorem watch_failed_renewal (state : σ) (change : σ → σ) (store : Store) (rest : List (Event σ))
    (nearby : ∀ path ∈ config.filters, Source.isRemote path = false)
    (bad : ∃ path ∈ config.filters, ¬ Readable (outside.read (change state)) path) :
    watchEvents outside config parity state store (.renewal change :: rest) =
      watchEvents outside config parity (change state) store rest := by
  obtain ⟨e, refused⟩ := update_filters_refused outside (change state) config store nearby bad
  rw [watchEvents, refused]

theorem watch_interrupted (state : σ) (store : Store) (events rest : List (Event σ)) :
    watchEvents outside config parity state store (events ++ .interrupt :: rest) =
      watchEvents outside config parity state store events := by
  induction events generalizing state store with
  | nil => rfl
  | cons event more ih =>
      cases event with
      | line bytes => rw [List.cons_append, watchEvents, watchEvents, ih]
      | renewal change => simp only [List.cons_append, watchEvents, ih]
      | interrupt => rfl

end

section

variable {σ : Type} (outside : Outside σ) (state : σ)

theorem watch_as_clean (input : Bytes) (options : SourceOptions) :
    run outside state input (.watch options) = run outside state input (.clean options []) := by
  rw [run, run, watch, clean]
  obtain ⟨next, prepared⟩ := prepare outside state options
  cases prepared with
  | error e => rfl
  | ok prepared =>
      obtain ⟨config, store⟩ := prepared
      exact watch_lines outside config options.parity next store (splitInput input)

theorem clean_fed (options : SourceOptions) (texts : List Text) (input : Text) (other : Bytes)
    (some : texts ≠ []) (plain : ∀ text ∈ texts, IsLine text) (fed : Fed texts input) :
    run outside state (encode input) (.clean options []) = run outside state other (.clean options texts) := by
  have given : texts.isEmpty = false := List.isEmpty_eq_false_iff.mpr some
  rw [run, run, clean, clean]
  obtain ⟨next, prepared⟩ := prepare outside state options
  cases prepared with
  | error e => rfl
  | ok prepared =>
      simp only [given, List.isEmpty_nil]
      exact congrArg (Prod.mk next) (clean_lines_fed _ texts input fed plain)

end

section

variable {σ : Type} (outside : Outside σ) (state : σ) (input : Bytes) (paths : List Text) (parity : Bool)
  (somePath : paths ≠ []) (nearby : ∀ path ∈ paths, Source.isRemote path = false) (contents : Text → Text)
  (there : ∀ path ∈ paths, outside.read state path = .ok (encode (contents path)))

include somePath nearby there

theorem clean_input_cleaned :
    run outside state input (.clean { filters := paths, parity := parity } []) =
      (state, cleanLines (cleanedText parity contents paths) (splitInput input)) := by
  rw [run, clean, prepare_taken outside state paths parity somePath nearby contents there]
  simp only [List.isEmpty_nil, if_true, cleaned_text_alike]

theorem clean_input_stops (lines : List Text) (bad behind : Bytes) (plain : ∀ line ∈ lines, '\n' ∉ line)
    (badPlain : 10 ∉ bad) (invalid : ¬ Valid bad) (ends : behind = [] ∨ ∃ rest, behind = 10 :: rest) :
    ∃ fault, run outside state (encode (unlines lines) ++ (bad ++ behind))
        (.clean { filters := paths, parity := parity } []) =
      (state, ⟨unlines (lines.map fun line => cleanedText parity contents paths (dropLastChar '\r' line)),
        some (.input fault)⟩) := by
  obtain ⟨fault, stopped⟩ := clean_lines_bad (cleanedText parity contents paths) bad behind badPlain invalid ends
  refine ⟨fault, ?_⟩
  rw [clean_input_cleaned outside state _ paths parity somePath nearby contents there,
    clean_lines_texts (cleanedText parity contents paths) lines plain, stopped]
  simp [Outcome.after]

end

-- The three ways to hand over texts leave the same to be seen, whatever the filters are and whether or not they can be
-- read. With readable files every text is cleaned, and a line that is no text ends the run behind the lines before it;
-- where no file is named, lists from the web are asked for, and nothing is known of them.
theorem front_ends_agree {σ : Type} (outside : Outside σ) (state : σ) (paths : List Text) (parity : Bool)
    (arguments : List Text) (flags : Flags paths parity arguments) :
    (∀ (texts : List Text) (input : Text) (other : Bytes), texts ≠ [] → (∀ text ∈ texts, IsLine text) →
        Fed texts input →
          visible outside state (encode input) ("clean".toList :: arguments) =
              visible outside state other ("clean".toList :: arguments ++ "--".toList :: texts) ∧
            visible outside state (encode input) ("watch".toList :: arguments) =
              visible outside state other ("clean".toList :: arguments ++ "--".toList :: texts)) ∧
      (paths ≠ [] → (∀ path ∈ paths, Source.isRemote path = false) → ∀ contents : Text → Text,
        (∀ path ∈ paths, outside.read state path = .ok (encode (contents path))) →
          (∀ (texts : List Text) (other : Bytes), texts ≠ [] →
            visible outside state other ("clean".toList :: arguments ++ "--".toList :: texts) =
              (unlines (texts.map (cleanedText parity contents paths)), 0)) ∧
          ∀ (lines : List Text) (bad behind : Bytes), (∀ line ∈ lines, '\n' ∉ line) → 10 ∉ bad → ¬ Valid bad →
            (behind = [] ∨ ∃ rest, behind = 10 :: rest) →
              ∀ command ∈ ["clean".toList, "watch".toList],
                visible outside state (encode (unlines lines) ++ (bad ++ behind)) (command :: arguments) =
                  (unlines (lines.map fun line => cleanedText parity contents paths (dropLastChar '\r' line)), 1)) := by
  have cleanSeen : ∀ input, visible outside state input ("clean".toList :: arguments) =
      ((run outside state input (.clean { filters := paths, parity := parity } [])).2.stdout,
        (run outside state input (.clean { filters := paths, parity := parity } [])).2.exitCode) := by
    intro input
    rw [visible, clean_input_requested paths parity arguments flags]
  have watchSeen : ∀ input, visible outside state input ("watch".toList :: arguments) =
      visible outside state input ("clean".toList :: arguments) := by
    intro input
    rw [cleanSeen, visible, watch_requested paths parity arguments flags]
    simp only [watch_as_clean]
  constructor
  · intro texts input other someText plain fed
    have same : visible outside state (encode input) ("clean".toList :: arguments) =
        visible outside state other ("clean".toList :: arguments ++ "--".toList :: texts) := by
      rw [cleanSeen, visible, clean_texts_requested paths parity arguments flags texts,
        clean_fed outside state _ texts input other someText plain fed]
    exact ⟨same, (watchSeen (encode input)).trans same⟩
  · intro somePath nearby contents there
    refine ⟨fun texts other someText => clean_texts_cleaned outside state other paths parity arguments flags texts
      somePath someText nearby contents there, ?_⟩
    intro lines bad behind plain badPlain invalid ends command member
    obtain ⟨fault, stopped⟩ :=
      clean_input_stops outside state paths parity somePath nearby contents there lines bad behind plain badPlain
        invalid ends
    have seen : visible outside state (encode (unlines lines) ++ (bad ++ behind)) ("clean".toList :: arguments) =
        (unlines (lines.map fun line => cleanedText parity contents paths (dropLastChar '\r' line)), 1) := by
      rw [cleanSeen, stopped]
      rfl
    simp only [List.mem_cons, List.not_mem_nil, or_false] at member
    rcases member with rfl | rfl
    · exact seen
    · exact (watchSeen _).trans seen

-- An ending of either kind, an empty line and a last line without an end; then a line that is no text.
theorem front_ends_agree_on_three_lines :
    let read : FileReader := fun path =>
      if path = ['a'] then .ok (Utf8.encode "$removeparam=u".toList) else .error .missing
    let flags : List Text := ["--parity".toList, "-f".toList, "a".toList]
    let texts : List Text := ["see x.net/?u=1 y.net".toList, [], "x.net/?v&u".toList]
    let shown : Text × Nat := ("see x.net/ y.net\n\nx.net/?v\n".toList, 0)
    visible .offline read [] ("clean".toList :: flags ++ "--".toList :: texts) = shown ∧
      visible .offline read (encode "see x.net/?u=1 y.net\r\n\nx.net/?v&u".toList) ("clean".toList :: flags) = shown ∧
      visible .offline read (encode "see x.net/?u=1 y.net\r\n\nx.net/?v&u".toList) ("watch".toList :: flags) = shown ∧
      visible .offline read (encode "x.net/?u\n".toList ++ ([0x61, 0xFF] ++ [10, 0x62])) ("watch".toList :: flags) =
        ("x.net/\n".toList, 1) := by
  intro read flags texts shown
  have given : Flags [['a']] true flags := .parity _ _ (.filter ['a'] _ _ _ _ (.short rfl) .none)
  obtain ⟨agree, cleaned⟩ := front_ends_agree .offline read [['a']] true flags given
  have fed : Fed texts "see x.net/?u=1 y.net\r\n\nx.net/?v&u".toList :=
    .returned "see x.net/?u=1 y.net".toList _ _ (.feed [] _ _ (.unended "x.net/?v&u".toList (by decide)))
  obtain ⟨sameClean, sameWatch⟩ := agree texts _ [] (by decide) (by decide +kernel) fed
  obtain ⟨byTexts, stops⟩ := cleaned (by decide) (by decide) (fun _ => "$removeparam=u".toList) (by decide +kernel)
  have printed : visible .offline read [] ("clean".toList :: flags ++ "--".toList :: texts) = shown :=
    (byTexts texts [] (by decide)).trans (by decide +kernel)
  have stopped := stops ["x.net/?u".toList] [0x61, 0xFF] [10, 0x62] (by decide) (by decide) (by decide +kernel)
    (.inr ⟨[0x62], rfl⟩) "watch".toList (by decide)
  exact ⟨printed, sameClean.trans printed, sameWatch.trans printed, stopped.trans (by decide +kernel)⟩

end LinkTidy.Command
