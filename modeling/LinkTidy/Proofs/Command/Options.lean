import LinkTidy.Command.Arguments
import LinkTidy.Proofs.Text.Cut
/-!
Reading the arguments of a command one option after the other: however an option is written, it is noted with its value.
-/

set_option autoImplicit false

namespace LinkTidy.Command

def Given.with (given : Given) (name : OptionName) (value : Text) : Given :=
  { given with options := given.options ++ [(name, value)] }

theorem values_with (given : Given) (name : OptionName) (value : Text) (other : OptionName) :
    (given.with name value).values other = given.values other ++ if name = other then [value] else [] := by
  rw [Given.values, Given.with, List.filter_append, List.map_append]
  by_cases same : name = other
  · simp [Given.values, same]
  · simp [Given.values, same]

theorem has_with (given : Given) (name : OptionName) (value : Text) (other : OptionName) :
    (given.with name value).has other = (given.has other || name == other) := by
  simp [Given.has, Given.with]

theorem has_values (given : Given) (name : OptionName) : given.has name = !(given.values name).isEmpty := by
  rw [Given.has, Given.values, List.isEmpty_map]
  induction given.options with
  | nil => rfl
  | cons option rest ih => cases same : option.1 == name <;> simp [same, ih]

-- The ways to write an option with a value.
inductive ValueFlag (letter : Char) (long value : Text) : List Text → Prop where
  | short (plain : looksLikeOption value = false) : ValueFlag letter long value [['-', letter], value]
  | attached (first : Char) (more : Text) (whole : value = first :: more) (noSign : first ≠ '=') :
      ValueFlag letter long value ['-' :: letter :: value]
  | shortEquals : ValueFlag letter long value ['-' :: letter :: '=' :: value]
  | long (plain : looksLikeOption value = false) : ValueFlag letter long value ['-' :: '-' :: long, value]
  | longEquals : ValueFlag letter long value ['-' :: '-' :: (long ++ '=' :: value)]

theorem long_plain (verb : Verb) (long : Text) (name : OptionName) (known : verb.long? long = some name) :
    long ≠ [] ∧ ∀ c ∈ long, (c != '=') = true := by
  have each : ∀ entry ∈ verb.options, entry.1.toList ≠ [] ∧ entry.1.toList.all (· != '=') = true := by
    cases verb <;> decide
  obtain ⟨entry, found, -⟩ := Option.map_eq_some_iff.mp known
  have same : entry.1.toList = long := by simpa using List.find?_some found
  obtain ⟨some, plain⟩ := each entry (List.mem_of_find?_eq_some found)
  rw [same] at some plain
  exact ⟨some, List.all_eq_true.mp plain⟩

-- A long name is read up to the end of its argument, or up to the value behind it.
theorem long_cut (verb : Verb) (long : Text) (name : OptionName) (known : verb.long? long = some name) (behind : Text)
    (ending : ∀ c, behind.head? = some c → (c != '=') = false) :
    ∃ c more, long = c :: more ∧ (c :: (more ++ behind)).takeWhile (· != '=') = c :: more ∧
      (c :: (more ++ behind)).dropWhile (· != '=') = behind := by
  obtain ⟨some, plain⟩ := long_plain verb long name known
  obtain ⟨c, more, rfl⟩ := List.exists_cons_of_ne_nil some
  exact ⟨c, more, rfl, take_while_ended (· != '=') (c :: more) behind plain ending⟩

theorem short_plain (verb : Verb) (letter : Char) (name : OptionName) (known : verb.short? letter = some name) :
    letter ≠ '-' := by
  rintro rfl
  cases verb <;> cases known

theorem repeatable_cases (name : OptionName) (repeatable : name.isRepeatable = true) :
    name = .input ∨ name = .filter := by
  revert repeatable
  cases name <;> decide

theorem note_taken (given : Given) (name : OptionName) (value : Text)
    (room : name.isRepeatable = true ∨ given.has name = false) (notConfig : name ≠ .config) :
    given.note? name value = some (given.with name value) := by
  rw [Given.note?, Given.with, if_neg]
  rcases room with repeatable | fresh
  · simp [repeatable, notConfig]
  · rw [Given.has] at fresh
    simp [fresh, notConfig]

section

variable (verb : Verb) (given next : Given) (letter : Char) (letters : Text) (name : OptionName)
  (known : verb.short? letter = some name) (rest : List Text)

include known

theorem cluster_done (done : readCluster verb given (letter :: letters) = .done next) :
    readArguments verb none false given (('-' :: letter :: letters) :: rest) =
      readArguments verb none false next rest := by
  simp [readArguments, short_plain verb letter name known, done]

theorem cluster_wants (wants : readCluster verb given (letter :: letters) = .wants next name) :
    readArguments verb none false given (('-' :: letter :: letters) :: rest) =
      readArguments verb (some name) false next rest := by
  simp [readArguments, short_plain verb letter name known, wants]

end

section

variable (verb : Verb) (given : Given) (name : OptionName) (letter : Char) (long value : Text)
  (isShort : verb.short? letter = some name) (isLong : verb.long? long = some name)

section

variable (repeatable : name.isRepeatable = true) (rest : List Text)

include repeatable

theorem wanted_value_read (plain : looksLikeOption value = false) :
    readArguments verb (some name) false given (value :: rest) =
      readArguments verb none false (given.with name value) rest := by
  rw [readArguments, if_neg Bool.false_ne_true]
  simp only [plain]
  rcases repeatable_cases name repeatable with rfl | rfl <;> rfl

include isLong in
theorem long_read :
    readArguments verb none false given (('-' :: '-' :: long) :: rest) =
      readArguments verb (some name) false given rest := by
  obtain ⟨c, more, rfl, cut⟩ := long_cut verb long name isLong [] nofun
  rw [List.append_nil] at cut
  rcases repeatable_cases name repeatable with rfl | rfl <;>
    simp [readArguments, cut, isLong, OptionName.takesValue]

include isLong in
theorem long_value_read :
    readArguments verb none false given (('-' :: '-' :: (long ++ '=' :: value)) :: rest) =
      readArguments verb none false (given.with name value) rest := by
  have ending : ∀ c, ('=' :: value).head? = some c → (c != '=') = false := by
    rintro c ⟨⟩
    rfl
  obtain ⟨c, more, rfl, cut⟩ := long_cut verb long name isLong ('=' :: value) ending
  rw [List.cons_append]
  rcases repeatable_cases name repeatable with rfl | rfl <;>
    simp [readArguments, cut, isLong, OptionName.takesValue, note_taken, OptionName.isRepeatable]

include isShort isLong in
theorem value_flag_read (written : List Text) (flag : ValueFlag letter long value written) :
    readArguments verb none false given (written ++ rest) =
      readArguments verb none false (given.with name value) rest := by
  have takes : name.takesValue = true := by
    rcases repeatable_cases name repeatable with rfl | rfl <;> rfl
  have noHelp : name ≠ .help := by
    rintro rfl
    cases takes
  have noted : given.note? name value = some (given.with name value) := by
    refine note_taken given name value (.inl repeatable) ?_
    rintro rfl
    cases repeatable
  cases flag with
  | short plain =>
      rw [← wanted_value_read verb given name value repeatable rest plain, List.cons_append, List.singleton_append]
      apply cluster_wants verb given given letter [] name isShort
      simp [readCluster, isShort, takes]
  | attached first more whole noSign =>
      subst whole
      apply cluster_done verb given _ letter _ name isShort
      simp [readCluster, isShort, takes, noSign, noted]
  | shortEquals =>
      apply cluster_done verb given _ letter _ name isShort
      simp [readCluster, isShort, takes, noted]
  | long plain =>
      rw [← wanted_value_read verb given name value repeatable rest plain, List.cons_append, List.singleton_append]
      exact long_read verb given name long isLong repeatable _
  | longEquals => exact long_value_read verb given name long value isLong repeatable rest

end

section

variable (switch : name.takesValue = false) (noHelp : name ≠ .help) (fresh : given.has name = false) (rest : List Text)

include switch fresh

theorem switch_noted : given.note? name [] = some (given.with name []) := by
  refine note_taken given name [] (.inr fresh) ?_
  rintro rfl
  cases switch

include noHelp

include isLong in
theorem long_switch_read :
    readArguments verb none false given (('-' :: '-' :: long) :: rest) =
      readArguments verb none false (given.with name []) rest := by
  have noted := switch_noted given name switch fresh
  obtain ⟨c, more, rfl, cut⟩ := long_cut verb long name isLong [] nofun
  rw [List.append_nil] at cut
  simp [readArguments, cut, isLong, switch, noted]

include isShort in
theorem short_switch_read :
    readArguments verb none false given (['-', letter] :: rest) =
      readArguments verb none false (given.with name []) rest := by
  apply cluster_done verb given _ letter [] name isShort
  simp [readCluster, isShort, switch, switch_noted given name switch fresh]

end

end

theorem texts_read (verb : Verb) (given : Given) (texts : List Text) :
    readArguments verb none true given texts = .given { given with texts := given.texts ++ texts } := by
  induction texts generalizing given with
  | nil =>
      rw [List.append_nil]
      rfl
  | cons text rest ih =>
      have step : readArguments verb Option.none true given (text :: rest) =
          readArguments verb Option.none true { given with texts := given.texts ++ [text] } rest := rfl
      rw [step, ih, List.append_assoc, List.singleton_append]

theorem request_of_verb (name : Text) (verb : Verb) (known : verb? name = some verb) (arguments : List Text)
    (given : Given) (read : readArguments verb none false {} arguments = .given given) :
    Request.ofArguments? (name :: arguments) = given.request? verb := by
  rw [Request.ofArguments?, known]
  simp only [read]

end LinkTidy.Command
