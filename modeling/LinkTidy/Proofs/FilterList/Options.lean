import LinkTidy.FilterList.Clause
import LinkTidy.Proofs.Text.Cut
/-!
Finding an option in a line: the search passes over everything that does not hold the option's name, and then takes the
value up to the end of the option.
-/

set_option autoImplicit false

namespace LinkTidy.FilterList

theorem leading_option_none (name text : Text) (absent : ¬ name <+: text) : leadingOption? name text = none := by
  rw [leadingOption?, is_prefix_none name text absent, Option.bind_none]

-- What may stand in a value, and what ends it.
theorem value_char_iff (c : Char) : isValueChar c = true ↔ c ≠ ',' ∧ c ≠ '\n' := by
  simp [isValueChar]

-- A value of an option: it is not empty and reaches up to a comma or a line feed.
def IsValue (value : Text) : Prop :=
  value ≠ [] ∧ ',' ∉ value ∧ '\n' ∉ value

instance (value : Text) : Decidable (IsValue value) :=
  inferInstanceAs (Decidable (_ ∧ _))

-- What may stand behind a value.
def EndsValue (behind : Text) : Prop :=
  ∀ c, behind.head? = some c → c = ',' ∨ c = '\n'

theorem is_value_iff (value : Text) : IsValue value ↔ value ≠ [] ∧ ∀ c ∈ value, isValueChar c = true := by
  rw [IsValue, and_congr_right_iff]
  intro _
  constructor
  · rintro ⟨noComma, noFeed⟩ c member
    rw [value_char_iff]
    exact ⟨fun same => noComma (same ▸ member), fun same => noFeed (same ▸ member)⟩
  · intro each
    exact ⟨fun comma => ((value_char_iff _).mp (each _ comma)).1 rfl,
      fun feed => ((value_char_iff _).mp (each _ feed)).2 rfl⟩

theorem ends_value_iff (behind : Text) : EndsValue behind ↔ ∀ c, behind.head? = some c → isValueChar c = false := by
  have ends : ∀ c, isValueChar c = false ↔ c = ',' ∨ c = '\n' := by
    intro c
    rw [← Bool.not_eq_true, value_char_iff, ne_eq, ne_eq, ← not_or, not_not]
  simp only [EndsValue, ends]

theorem leading_option_value (name value behind : Text) (written : IsValue value) (ending : EndsValue behind) :
    leadingOption? name (name ++ value ++ behind) = some (value, behind) := by
  obtain ⟨some, each⟩ := (is_value_iff value).mp written
  have cut := take_while_ended isValueChar value behind each ((ends_value_iff behind).mp ending)
  rw [leadingOption?, List.append_assoc, is_prefix_append, Option.bind_some]
  simp [cut, some]

theorem find_option_none (name text : Text) (absent : ¬ name <:+: text) : findOption? name text = none := by
  induction text with
  | nil => rfl
  | cons c rest ih =>
      rw [List.infix_cons_iff, not_or] at absent
      rw [findOption?, leading_option_none name _ absent.1, ih absent.2]

theorem find_option_behind (name front rest : Text) (sign : Char) (absent : sign ∉ name)
    (free : ¬ name <:+: front) : findOption? name (front ++ sign :: rest) = findOption? name rest := by
  induction front with
  | nil =>
      have quiet : ¬ name <+: sign :: rest := by
        intro begins
        exact free (prefix_before_stop name [] _ (by simpa using absent) begins).isInfix
      rw [List.nil_append, findOption?, leading_option_none name _ quiet]
  | cons c more ih =>
      have quiet : ¬ name <+: c :: more ++ sign :: rest := by
        intro begins
        exact free (prefix_before_stop name (c :: more) _ (by simpa using absent) begins).isInfix
      rw [List.infix_cons_iff, not_or] at free
      rw [List.cons_append] at quiet ⊢
      rw [findOption?, leading_option_none name _ quiet, ih free.2]

-- What follows an option in a list of them.
def behindOption (others : List Text) : Text :=
  if others = [] then [] else ',' :: [','].intercalate others

theorem intercalate_behind (option : Text) (others : List Text) :
    [','].intercalate (option :: others) = option ++ behindOption others := by
  cases others with
  | nil => rw [List.intercalate_singleton, behindOption, if_pos rfl, List.append_nil]
  | cons next more =>
      rw [List.intercalate_cons_cons, behindOption, if_neg (List.cons_ne_nil next more), List.append_assoc,
        List.singleton_append]

section

variable (name : Text) (comma : ',' ∉ name) (named : name ≠ [])

include comma named

theorem find_option_behind_option (others : List Text) :
    findOption? name (behindOption others) = findOption? name ([','].intercalate others) := by
  cases others with
  | nil => rfl
  | cons next more =>
      rw [behindOption, if_neg (List.cons_ne_nil next more)]
      exact find_option_behind name [] _ ',' comma (by rwa [List.infix_nil])

theorem find_option_passes (option : Text) (others : List Text) (free : ¬ name <:+: option) :
    findOption? name ([','].intercalate (option :: others)) = findOption? name ([','].intercalate others) := by
  rw [intercalate_behind, ← find_option_behind_option name comma named]
  cases others with
  | nil =>
      rw [behindOption, if_pos rfl, List.append_nil, find_option_none name option free]
      rfl
  | cons next more =>
      rw [find_option_behind_option name comma named, behindOption, if_neg (List.cons_ne_nil next more),
        find_option_behind name option _ ',' comma free]

theorem find_option_absent (options : List Text) (free : ∀ option ∈ options, ¬ name <:+: option) :
    findOption? name ([','].intercalate options) = none := by
  induction options with
  | nil => rfl
  | cons option others ih =>
      rw [find_option_passes name comma named option others (free option List.mem_cons_self)]
      exact ih fun later member => free later (List.mem_cons_of_mem _ member)

theorem find_option_listed (front behind : List Text) (value : Text) (written : IsValue value)
    (free : ∀ option ∈ front, ¬ name <:+: option) :
    findOption? name ([','].intercalate (front ++ (name ++ value) :: behind)) = some (value, behindOption behind) := by
  induction front with
  | nil =>
      have ending : EndsValue (behindOption behind) := by
        intro c first
        rw [behindOption] at first
        split at first
        · cases first
        · exact .inl (Option.some.inj first).symm
      have here := leading_option_value name value (behindOption behind) written ending
      rw [List.nil_append, intercalate_behind]
      obtain ⟨c, rest, rfl⟩ := List.exists_cons_of_ne_nil named
      rw [List.cons_append, List.cons_append] at here ⊢
      rw [findOption?, here]
  | cons option more ih =>
      rw [List.cons_append, find_option_passes name comma named option _ (free option List.mem_cons_self)]
      exact ih fun later member => free later (List.mem_cons_of_mem _ member)

-- An option that stands once in a list is found wherever it stands, and is not found again behind.
theorem find_option_once (options others : List Text) (value : Text) (written : IsValue value)
    (placed : options.Perm ((name ++ value) :: others)) (free : ∀ option ∈ others, ¬ name <:+: option) :
    ∃ behind, findOption? name ([','].intercalate options) = some (value, behind) ∧ findOption? name behind = none := by
  obtain ⟨front, behind, rfl⟩ := List.append_of_mem (placed.mem_iff.mpr List.mem_cons_self)
  have rest : (front ++ behind).Perm others := (List.perm_middle.symm.trans placed).cons_inv
  have free : ∀ option ∈ front ++ behind, ¬ name <:+: option := fun option member =>
    free option (rest.mem_iff.mp member)
  refine ⟨behindOption behind, ?_, ?_⟩
  · exact find_option_listed name comma named front behind value written fun option member =>
      free option (List.mem_append_left behind member)
  · rw [find_option_behind_option name comma named]
    exact find_option_absent name comma named behind fun option member =>
      free option (List.mem_append_right front member)

end

end LinkTidy.FilterList
