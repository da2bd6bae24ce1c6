import LinkTidy.Proofs.FilterList.Searches
import Mathlib.Data.List.TakeWhile
/-!
The clauses of a line as a scan from left to right finds them, told without expressions: where an option first stands with
a value, what a line begins with, and which of the domains that follow each other counts.
-/

set_option autoImplicit false

namespace LinkTidy.FilterList

-- An option of that name stands nowhere with a value.
def NoOption (name text : Text) : Prop :=
  ∀ front c behind, text = front ++ name ++ c :: behind → c = ',' ∨ c = '\n'

-- The first place where an option stands with a value, and all of the value.
structure FirstOption (name text front value behind : Text) : Prop where
  whole : text = front ++ name ++ value ++ behind
  written : IsValue value
  ending : EndsValue behind
  first : ∀ earlier c rest, text = earlier ++ name ++ c :: rest → c ≠ ',' → c ≠ '\n' → front.length ≤ earlier.length

-- The anchor of a line, and what is behind it. Where nothing is left behind two bars, they are the anchor.
inductive AnchorClause (line : Text) : Text → Text → Prop where
  | run (anchor behind : Text) (start : anchorStart line = anchor ++ behind) (written : anchor ≠ [])
      (each : ∀ c ∈ anchor, c ≠ '^' ∧ c ≠ '$') (ending : ∀ c, behind.head? = some c → c = '^' ∨ c = '$') :
      AnchorClause line anchor behind
  | bars (behind : Text) (barred : line = "||".toList ++ behind)
      (nothing : ∀ c, (anchorStart line).head? = some c → c = '^' ∨ c = '$') : AnchorClause line "||".toList behind

-- The clause that a line begins with: a domain option before an anchor.
inductive LeadClause (line : Text) : Option (Text × Text) → Prop where
  | option (value behind : Text) (whole : line = domainName ++ value ++ behind) (written : IsValue value)
      (ending : EndsValue behind) : LeadClause line (some (value, behind))
  | anchor (anchor behind : Text) (noOption : ∀ c rest, line = domainName ++ c :: rest → c = ',' ∨ c = '\n')
      (anchored : AnchorClause line anchor behind) : LeadClause line (some (anchor, behind))
  | nothing (noOption : ∀ c rest, line = domainName ++ c :: rest → c = ',' ∨ c = '\n')
      (noAnchor : ∀ anchor behind, ¬ AnchorClause line anchor behind) : LeadClause line none

-- The values of all options of a name, each one found behind the one before it.
inductive OptionValues (name : Text) : Text → List Text → Prop where
  | done (text : Text) (nothing : NoOption name text) : OptionValues name text []
  | next (text front value behind : Text) (values : List Text) (first : FirstOption name text front value behind)
      (later : OptionValues name behind values) : OptionValues name text (value :: values)

-- The domain clauses of a line.
inductive DomainClauses (line : Text) : List Text → Prop where
  | led (clause behind : Text) (values : List Text) (lead : LeadClause line (some (clause, behind)))
      (later : OptionValues domainName behind values) : DomainClauses line (clause :: values)
  | unled (values : List Text) (noLead : LeadClause line none) (later : OptionValues domainName line values) :
      DomainClauses line values

-- Of several clauses the second one counts.
def chosen : List Text → Text
  | [] => []
  | [only] => only
  | _ :: second :: _ => second

inductive Scanned (line : Text) : Option (Text × Text) → Prop where
  | nothing (noParam : NoOption paramName line) : Scanned line none
  | clauses (front param behind : Text) (domains : List Text) (first : FirstOption paramName line front param behind)
      (listed : DomainClauses line domains) : Scanned line (some (chosen domains, param))

theorem leading_option_some_iff (name text value behind : Text) :
    leadingOption? name text = some (value, behind) ↔
      text = name ++ value ++ behind ∧ IsValue value ∧ EndsValue behind := by
  constructor
  · intro leads
    rw [leadingOption?, Option.bind_eq_some_iff] at leads
    obtain ⟨rest, begins, cut⟩ := leads
    have whole := List.isPrefixOf?_eq_some_iff_append_eq.mp begins
    dsimp only at cut
    split at cut
    · cases cut
    · rename_i some
      cases cut
      refine ⟨?_, ?_, ?_⟩
      · rw [List.append_assoc, List.takeWhile_append_dropWhile, whole]
      · rw [is_value_iff]
        exact ⟨fun empty => some (by rw [empty]; rfl), fun c member => List.mem_takeWhile_imp member⟩
      · rw [ends_value_iff]
        intro c first
        have stops := List.head?_dropWhile_not isValueChar rest
        rw [first] at stops
        exact stops
  · rintro ⟨rfl, written, ending⟩
    exact leading_option_value name value behind written ending

theorem leading_option_none_iff (name text : Text) :
    leadingOption? name text = none ↔ ∀ c rest, text = name ++ c :: rest → c = ',' ∨ c = '\n' := by
  constructor
  · rintro nothing c rest rfl
    by_contra other
    rw [not_or] at other
    rw [leadingOption?, is_prefix_append, Option.bind_some] at nothing
    dsimp only at nothing
    rw [List.takeWhile_cons_of_pos ((value_char_iff c).mpr other)] at nothing
    cases nothing
  · intro none
    cases leads : leadingOption? name text with
    | none => rfl
    | some clause =>
        obtain ⟨whole, written, -⟩ := (leading_option_some_iff name text clause.1 clause.2).mp leads
        obtain ⟨some, each⟩ := (is_value_iff clause.1).mp written
        obtain ⟨c, more, value⟩ := List.exists_cons_of_ne_nil some
        rw [value] at whole each
        have ends := none c (more ++ clause.2) (by simpa using whole)
        have passes := (value_char_iff c).mp (each c List.mem_cons_self)
        exact absurd ends (not_or.mpr passes)

theorem find_option_none_iff (name text : Text) : findOption? name text = none ↔ NoOption name text := by
  induction text with
  | nil =>
      refine ⟨fun _ front c behind whole => ?_, fun _ => rfl⟩
      exact absurd whole.symm (List.append_ne_nil_of_right_ne_nil _ (List.cons_ne_nil _ _))
  | cons c rest ih =>
      rw [find_option_step, Option.or_eq_none_iff, leading_option_none_iff, List.tail_cons, ih]
      constructor
      · rintro ⟨here, later⟩ front d behind whole
        cases front with
        | nil => exact here d behind whole
        | cons e front => exact later front d behind (List.cons.inj whole).2
      · intro none
        refine ⟨fun d behind whole => none [] d behind whole, fun front d behind whole => ?_⟩
        exact none (c :: front) d behind (congrArg (c :: ·) whole)

theorem FirstOption.begins {name text front value behind : Text} (first : FirstOption name text front value behind) :
    ∃ c rest, text = front ++ name ++ c :: rest ∧ c ≠ ',' ∧ c ≠ '\n' := by
  obtain ⟨some, each⟩ := (is_value_iff value).mp first.written
  obtain ⟨c, more, rfl⟩ := List.exists_cons_of_ne_nil some
  refine ⟨c, more ++ behind, ?_, (value_char_iff c).mp (each c List.mem_cons_self)⟩
  rw [← List.cons_append, ← List.append_assoc]
  exact first.whole

theorem find_option_first (name text value behind : Text) (found : findOption? name text = some (value, behind)) :
    ∃ front, FirstOption name text front value behind := by
  induction text with
  | nil => cases found
  | cons c rest ih =>
      rw [find_option_step] at found
      cases leads : leadingOption? name (c :: rest) with
      | some clause =>
          rw [leads, Option.some_or] at found
          rw [Option.some.inj found] at leads
          obtain ⟨whole, written, ending⟩ := (leading_option_some_iff name _ value behind).mp leads
          exact ⟨[], whole, written, ending, fun _ _ _ _ _ _ => Nat.zero_le _⟩
      | none =>
          rw [leads, Option.none_or] at found
          obtain ⟨front, later⟩ := ih found
          refine ⟨c :: front, congrArg (c :: ·) later.whole, later.written, later.ending, ?_⟩
          intro earlier d behind whole noComma noFeed
          cases earlier with
          | nil =>
              -- The line itself does not begin with the option.
              rcases (leading_option_none_iff name _).mp leads d behind whole with comma | feed
              · exact absurd comma noComma
              · exact absurd feed noFeed
          | cons e earlier =>
              have deeper := later.first earlier d behind (List.cons.inj whole).2 noComma noFeed
              exact Nat.succ_le_succ deeper

theorem first_option_iff (name text value behind : Text) :
    findOption? name text = some (value, behind) ↔ ∃ front, FirstOption name text front value behind := by
  refine ⟨find_option_first name text value behind, ?_⟩
  rintro ⟨front, first⟩
  obtain ⟨c, rest, begun, noComma, noFeed⟩ := first.begins
  cases found : findOption? name text with
  | none =>
      have ends := (find_option_none_iff name text).mp found front c rest begun
      exact absurd ends (not_or.mpr ⟨noComma, noFeed⟩)
  | some clause =>
      obtain ⟨front', first'⟩ := find_option_first name text clause.1 clause.2 found
      obtain ⟨c', rest', begun', noComma', noFeed'⟩ := first'.begins
      -- Neither place is behind the other, so they are the same, and so are the values.
      have size := Nat.le_antisymm (first.first front' c' rest' begun' noComma' noFeed')
        (first'.first front c rest begun noComma noFeed)
      have same := first.whole.symm.trans first'.whole
      simp only [List.append_assoc] at same
      have value' := leading_option_value name value behind first.written first.ending
      rw [List.append_assoc, (List.append_inj same size).2, ← List.append_assoc,
        leading_option_value name clause.1 clause.2 first'.written first'.ending] at value'
      exact value'

theorem anchor_char_iff (c : Char) : isAnchorChar c = true ↔ c ≠ '^' ∧ c ≠ '$' := by
  simp [isAnchorChar]

theorem anchor_stop_iff (c : Char) : isAnchorChar c = false ↔ c = '^' ∨ c = '$' := by
  rw [← Bool.not_eq_true, anchor_char_iff, ne_eq, ne_eq, ← not_or, not_not]

theorem no_anchor_run_iff (text : Text) :
    (text.takeWhile isAnchorChar).isEmpty = true ↔ ∀ c, text.head? = some c → c = '^' ∨ c = '$' := by
  cases text with
  | nil => simp
  | cons c rest => simp [List.takeWhile_cons, ← anchor_stop_iff]

theorem anchor_clause_iff (line anchor behind : Text) :
    anchor? line = some (anchor, behind) ↔ AnchorClause line anchor behind := by
  rw [anchor_cut]
  constructor
  · intro found
    split at found
    · rename_i nothing
      obtain ⟨rest, barred, same⟩ := Option.map_eq_some_iff.mp found
      obtain ⟨rfl, rfl⟩ := Prod.mk.inj same
      exact .bars rest (List.isPrefixOf?_eq_some_iff_append_eq.mp barred).symm ((no_anchor_run_iff _).mp nothing)
    · rename_i some
      obtain ⟨rfl, rfl⟩ := Prod.mk.inj (Option.some.inj found)
      refine .run _ _ List.takeWhile_append_dropWhile.symm (fun nothing => some (by rw [nothing]; rfl)) ?_ ?_
      · exact fun c member => (anchor_char_iff c).mp (List.mem_takeWhile_imp member)
      · intro c first
        have stop := List.head?_dropWhile_not isAnchorChar (anchorStart line)
        rw [first] at stop
        exact (anchor_stop_iff c).mp stop
  · intro anchored
    cases anchored with
    | run _ _ start written each ending =>
        have passes : ∀ c ∈ anchor, isAnchorChar c = true := fun c member => (anchor_char_iff c).mpr (each c member)
        have cut := take_while_ended isAnchorChar anchor behind passes fun c first => (anchor_stop_iff c).mpr (ending c first)
        rw [start, cut.1, cut.2, if_neg fun nothing => written (List.isEmpty_iff.mp nothing)]
    | bars _ barred nothing =>
        rw [if_pos ((no_anchor_run_iff _).mpr nothing), barred, is_prefix_append]
        rfl

theorem lead_clause_iff (line : Text) (clause : Option (Text × Text)) :
    LeadClause line clause ↔ clause = (leadingOption? domainName line).or (anchor? line) := by
  constructor
  · intro lead
    cases lead with
    | option value behind whole written ending =>
        rw [(leading_option_some_iff domainName line value behind).mpr ⟨whole, written, ending⟩, Option.some_or]
    | anchor anchor behind noOption anchored =>
        rw [(leading_option_none_iff domainName line).mpr noOption, (anchor_clause_iff line anchor behind).mpr anchored,
          Option.none_or]
    | nothing noOption noAnchor =>
        rw [(leading_option_none_iff domainName line).mpr noOption, Option.none_or]
        cases anchored : anchor? line with
        | none => rfl
        | some found => exact absurd ((anchor_clause_iff line found.1 found.2).mp anchored) (noAnchor found.1 found.2)
  · rintro rfl
    cases leads : leadingOption? domainName line with
    | some found =>
        obtain ⟨whole, written, ending⟩ := (leading_option_some_iff domainName line found.1 found.2).mp leads
        exact .option found.1 found.2 whole written ending
    | none =>
        have noOption := (leading_option_none_iff domainName line).mp leads
        rw [Option.none_or]
        cases anchored : anchor? line with
        | some found => exact .anchor found.1 found.2 noOption ((anchor_clause_iff line found.1 found.2).mp anchored)
        | none =>
            refine .nothing noOption fun anchor behind is => ?_
            rw [(anchor_clause_iff line anchor behind).mpr is] at anchored
            cases anchored

theorem option_values_head (name text : Text) (values : List Text) (listed : OptionValues name text values) :
    values.head? = (findOption? name text).map (·.1) := by
  cases listed with
  | done _ nothing => rw [(find_option_none_iff name text).mpr nothing]; rfl
  | next _ front value behind _ first => rw [(first_option_iff name text value behind).mpr ⟨front, first⟩]; rfl

theorem option_values_some (name text : Text) : ∃ values, OptionValues name text values := by
  generalize size : text.length = n
  induction n using Nat.strongRecOn generalizing text with
  | ind n shorter =>
      cases found : findOption? name text with
      | none => exact ⟨[], .done text ((find_option_none_iff name text).mp found)⟩
      | some option =>
          obtain ⟨front, first⟩ := find_option_first name text option.1 option.2 found
          have whole := congrArg List.length first.whole
          have positive := List.length_pos_iff.mpr first.written.1
          simp only [List.length_append] at whole
          obtain ⟨values, later⟩ := shorter option.2.length (by omega) option.2 rfl
          exact ⟨option.1 :: values, .next text front option.1 option.2 values first later⟩

theorem chosen_cons (clause : Text) (values : List Text) : chosen (clause :: values) = values.head?.getD clause := by
  cases values <;> rfl

theorem domain_clauses_chosen (line : Text) (clauses : List Text) (listed : DomainClauses line clauses) :
    chosen clauses = domainClause line := by
  rw [domain_clause_first, ← Option.or_assoc]
  cases listed with
  | led clause behind values lead later =>
      rw [chosen_cons, option_values_head domainName behind values later, ← (lead_clause_iff line _).mp lead]
      rfl
  | unled _ noLead later =>
      rw [← (lead_clause_iff line _).mp noLead, Option.none_or]
      cases later with
      | done _ nothing => rw [(find_option_none_iff domainName line).mpr nothing]; rfl
      | next _ front value behind values first later =>
          rw [chosen_cons, option_values_head domainName behind values later,
            (first_option_iff domainName line value behind).mpr ⟨front, first⟩]
          rfl

theorem domain_clauses_some (line : Text) : ∃ clauses, DomainClauses line clauses := by
  have lead := (lead_clause_iff line _).mpr rfl
  generalize (leadingOption? domainName line).or (anchor? line) = clause at lead
  cases clause with
  | none =>
      obtain ⟨values, later⟩ := option_values_some domainName line
      exact ⟨values, .unled values lead later⟩
  | some clause =>
      obtain ⟨values, later⟩ := option_values_some domainName clause.2
      exact ⟨clause.1 :: values, .led clause.1 clause.2 values lead later⟩

theorem scanned_iff (line : Text) (clauses : Option (Text × Text)) :
    Scanned line clauses ↔ clauses = clauses? line := by
  rw [clauses?]
  constructor
  · intro scanned
    cases scanned with
    | nothing noParam => rw [(find_option_none_iff paramName line).mpr noParam]; rfl
    | clauses front param behind domains first listed =>
        rw [(first_option_iff paramName line param behind).mpr ⟨front, first⟩, domain_clauses_chosen line domains listed]
        rfl
  · rintro rfl
    cases found : findOption? paramName line with
    | none => exact .nothing ((find_option_none_iff paramName line).mp found)
    | some option =>
        obtain ⟨front, first⟩ := find_option_first paramName line option.1 option.2 found
        obtain ⟨domains, listed⟩ := domain_clauses_some line
        have scanned := Scanned.clauses front option.1 option.2 domains first listed
        rw [domain_clauses_chosen line domains listed] at scanned
        exact scanned

-- A search for the two expressions and a scan without them find the same clauses in every line.
theorem clauses_scanned (line : Text) (clauses : Option (Text × Text)) :
    (FoundByForms line clauses ↔ clauses = clauses? line) ∧ (Scanned line clauses ↔ clauses = clauses? line) :=
  ⟨found_by_forms_iff line clauses, scanned_iff line clauses⟩

-- Behind the bars nothing is left in front of the dollar sign, so they are the anchor; the first domain option has no
-- value, and the second one counts.
example : clauses? "||^$domain=,xdomain=a|b,removeparam=c|d,domain=e".toList = some ("a|b".toList, "c|d".toList) := by
  decide +kernel

end LinkTidy.FilterList
