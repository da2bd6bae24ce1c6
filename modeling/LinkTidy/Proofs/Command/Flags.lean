import LinkTidy.Proofs.Command.Options
/-!
Command lines that name filters by flags: however each filter is written, the request asks for their paths in order.
-/

set_option autoImplicit false

namespace LinkTidy.Command

-- The ways to write a filter. A path in an argument of its own must not look like an option.
inductive FilterFlag (path : Text) : List Text → Prop where
  | short (plain : looksLikeOption path = false) : FilterFlag path ["-f".toList, path]
  | attached (first : Char) (more : Text) (whole : path = first :: more) (noSign : first ≠ '=') :
      FilterFlag path ["-f".toList ++ path]
  | shortEquals : FilterFlag path ["-f=".toList ++ path]
  | long (plain : looksLikeOption path = false) : FilterFlag path ["--filter".toList, path]
  | longEquals : FilterFlag path ["--filter=".toList ++ path]

-- Flags that name these paths in order. The parity flag may stand once among them, anywhere.
inductive Flags : List Text → Bool → List Text → Prop where
  | none : Flags [] false []
  | filter (path : Text) (written : List Text) (paths : List Text) (parity : Bool) (rest : List Text)
      (flag : FilterFlag path written) (others : Flags paths parity rest) : Flags (path :: paths) parity (written ++ rest)
  | parity (paths : List Text) (rest : List Text) (others : Flags paths false rest) :
      Flags paths true ("--parity".toList :: rest)

def Verb.HasSources (verb : Verb) : Prop :=
  verb = .clean ∨ verb = .watch

theorem filter_flag_written (path : Text) (written : List Text) (flag : FilterFlag path written) :
    ValueFlag 'f' "filter".toList path written := by
  cases flag with
  | short plain => exact .short plain
  | attached first more whole noSign => exact .attached first more whole noSign
  | shortEquals => exact .shortEquals
  | long plain => exact .long plain
  | longEquals => exact .longEquals

section

variable (verb : Verb) (sources : verb.HasSources) (given : Given)

include sources

theorem filter_flag_read (path : Text) (written rest : List Text) (flag : FilterFlag path written) :
    readArguments verb none false given (written ++ rest) =
      readArguments verb none false (given.with .filter path) rest := by
  have isShort : verb.short? 'f' = some .filter := by
    rcases sources with rfl | rfl <;> rfl
  have isLong : verb.long? "filter".toList = some .filter := by
    rcases sources with rfl | rfl <;> rfl
  exact value_flag_read verb given .filter 'f' _ path isShort isLong rfl rest written
    (filter_flag_written path written flag)

theorem parity_flag_read (fresh : given.has .parity = false) (rest : List Text) :
    readArguments verb none false given ("--parity".toList :: rest) =
      readArguments verb none false (given.with .parity []) rest := by
  have isLong : verb.long? "parity".toList = some .parity := by
    rcases sources with rfl | rfl <;> rfl
  exact long_switch_read verb given .parity "parity".toList isLong rfl nofun fresh rest

end

-- What flags add to what has been given before them.
structure AddsFlags (given next : Given) (paths : List Text) (parity : Bool) : Prop where
  filters : next.values .filter = given.values .filter ++ paths
  config : next.values .config = given.values .config
  parity : next.has .parity = (given.has .parity || parity)
  texts : next.texts = given.texts

theorem flags_read (verb : Verb) (sources : verb.HasSources) (given : Given) (paths : List Text) (parity : Bool)
    (arguments rest : List Text) (flags : Flags paths parity arguments)
    (fresh : parity = true → given.has .parity = false) :
    ∃ next, readArguments verb none false given (arguments ++ rest) = readArguments verb none false next rest ∧
      AddsFlags given next paths parity := by
  induction flags generalizing given with
  | none => exact ⟨given, rfl, (List.append_nil _).symm, rfl, (Bool.or_false _).symm, rfl⟩
  | filter path written paths parity others flag _ ih =>
      have still : parity = true → (given.with .filter path).has .parity = false := by
        intro set
        rw [has_with, fresh set]
        rfl
      obtain ⟨next, read, adds⟩ := ih (given.with .filter path) still
      refine ⟨next, ?_, ?_, ?_, ?_, ?_⟩
      · rw [List.append_assoc, filter_flag_read verb sources given path written _ flag, read]
      · rw [adds.filters, values_with, if_pos rfl, List.append_assoc, List.singleton_append]
      · rw [adds.config, values_with, if_neg (by decide), List.append_nil]
      · rw [adds.parity, has_with, Bool.or_assoc]
        rfl
      · exact adds.texts
  | parity paths others _ ih =>
      obtain ⟨next, read, adds⟩ := ih (given.with .parity []) nofun
      refine ⟨next, ?_, ?_, ?_, ?_, ?_⟩
      · rw [List.cons_append, parity_flag_read verb sources given (fresh rfl), read]
      · rw [adds.filters, values_with, if_neg (by decide), List.append_nil]
      · rw [adds.config, values_with, if_neg (by decide), List.append_nil]
      · rw [adds.parity, has_with, Bool.or_assoc]
        rfl
      · exact adds.texts

section

variable (paths : List Text) (parity : Bool) (arguments : List Text) (flags : Flags paths parity arguments)

include flags

theorem flags_sources (verb : Verb) (sources : verb.HasSources) (rest : List Text) :
    ∃ given, readArguments verb none false {} (arguments ++ rest) = readArguments verb none false given rest ∧
      given.sources = { filters := paths, parity := parity } ∧ given.texts = [] := by
  obtain ⟨given, read, adds⟩ := flags_read verb sources {} paths parity arguments rest flags fun _ => rfl
  refine ⟨given, read, ?_, adds.texts⟩
  rw [Given.sources, adds.filters, adds.config, adds.parity]
  rfl

theorem flags_alone (verb : Verb) (sources : verb.HasSources) :
    ∃ given, readArguments verb none false {} arguments = .given given ∧
      given.sources = { filters := paths, parity := parity } ∧ given.texts = [] := by
  obtain ⟨given, read, asked, noTexts⟩ := flags_sources paths parity arguments flags verb sources []
  rw [List.append_nil] at read
  exact ⟨given, read, asked, noTexts⟩

theorem clean_texts_requested (texts : List Text) :
    Request.ofArguments? ("clean".toList :: arguments ++ "--".toList :: texts) =
      some (.clean { filters := paths, parity := parity } texts) := by
  obtain ⟨given, read, asked, noTexts⟩ :=
    flags_sources paths parity arguments flags .clean (.inl rfl) ("--".toList :: texts)
  have whole := read.trans (texts_read .clean given texts)
  rw [List.cons_append, request_of_verb "clean".toList .clean rfl _ _ whole, Given.request?, noTexts, List.nil_append,
    ← asked]
  rfl

theorem clean_input_requested :
    Request.ofArguments? ("clean".toList :: arguments) = some (.clean { filters := paths, parity := parity } []) := by
  obtain ⟨given, read, asked, noTexts⟩ := flags_alone paths parity arguments flags .clean (.inl rfl)
  rw [request_of_verb "clean".toList .clean rfl _ _ read, Given.request?, noTexts, asked]

theorem watch_requested :
    Request.ofArguments? ("watch".toList :: arguments) = some (.watch { filters := paths, parity := parity }) := by
  obtain ⟨given, read, asked, noTexts⟩ := flags_alone paths parity arguments flags .watch (.inr rfl)
  rw [request_of_verb "watch".toList .watch rfl _ _ read, Given.request?, noTexts, asked]
  rfl

end

end LinkTidy.Command
