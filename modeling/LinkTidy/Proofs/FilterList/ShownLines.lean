import LinkTidy.Proofs.FilterList.Scans
import LinkTidy.Proofs.FilterList.Wildcards
import LinkTidy.Proofs.Rule.Display
/-!
Each rule of a list is shown on one line: a clause stands in one line, and so does all that is read from it.
-/

set_option autoImplicit false

namespace LinkTidy.FilterList

open Regex (Pattern)

theorem accepted_source (source : Text) (p : Pattern) (accepted : Pattern.ofText? source = some p) :
    p.source = source := by
  rw [Pattern.ofText?] at accepted
  split at accepted
  · cases accepted
    rfl
  · cases accepted

theorem drop_front_suffix (word text : Text) : dropFront word text <:+ text := by
  by_cases begins : word <+: text
  · obtain ⟨rest, rfl⟩ := begins
    rw [drop_front_begins]
    exact List.suffix_append word rest
  · simp only [drop_front_other word text begins, List.suffix_refl]

section

variable (line : Text) (plain : '\n' ∉ line)

include plain

theorem lead_clause_plain (clause behind : Text) (lead : LeadClause line (some (clause, behind))) : '\n' ∉ clause := by
  cases lead with
  | option _ _ _ written => exact written.2.2
  | anchor _ _ _ anchored =>
      cases anchored with
      | bars => decide
      | run _ _ start =>
          intro inside
          have suffix := (drop_front_suffix ['^'] _).trans (drop_front_suffix "||".toList line)
          rw [← anchorStart, start] at suffix
          exact plain (suffix.subset (List.mem_append_left behind inside))

omit plain in
theorem option_values_plain (name : Text) (values : List Text) (listed : OptionValues name line values) :
    ∀ value ∈ values, '\n' ∉ value := by
  induction listed with
  | done => exact List.forall_mem_nil _
  | next _ _ _ _ _ first _ ih => exact List.forall_mem_cons.mpr ⟨first.written.2.2, ih⟩

theorem domain_clauses_plain (clauses : List Text) (listed : DomainClauses line clauses) :
    ∀ clause ∈ clauses, '\n' ∉ clause := by
  cases listed with
  | led clause behind values lead later =>
      exact List.forall_mem_cons.mpr ⟨lead_clause_plain line plain clause behind lead,
        option_values_plain behind domainName values later⟩
  | unled _ _ later => exact option_values_plain line domainName clauses later

theorem clauses_plain (domain param : Text) (found : clauses? line = some (domain, param)) :
    '\n' ∉ domain ∧ '\n' ∉ param := by
  have scanned := (scanned_iff line _).mpr found.symm
  cases scanned with
  | clauses front _ behind domains first listed =>
      have each := domain_clauses_plain line plain domains listed
      refine ⟨?_, first.written.2.2⟩
      match domains, each with
      | [], _ => exact List.not_mem_nil
      | [only], each => exact each only List.mem_cons_self
      | _ :: second :: _, each => exact each second (List.mem_cons_of_mem _ List.mem_cons_self)

end

section

variable (clause : Text) (plain : '\n' ∉ clause) (matcher : Matcher)

include plain

theorem slashed_matcher_plain (slashed : isSlashed clause = true) (found : slashedMatcher? clause = some matcher) :
    '\n' ∉ matcher.source := by
  obtain ⟨source, rfl⟩ := (is_slashed_iff clause).mp slashed
  rw [slashed_matcher_source] at found
  obtain ⟨p, accepted, rfl⟩ := Option.map_eq_some_iff.mp found
  rw [Matcher.source, accepted_source source p accepted]
  exact fun inside => plain (by simp [inside])

theorem param_matchers_plain (member : matcher ∈ paramMatchers clause) : '\n' ∉ matcher.source := by
  rw [paramMatchers] at member
  split at member
  · rename_i slashed
    exact slashed_matcher_plain clause plain matcher slashed (Option.mem_toList.mp member)
  · obtain ⟨key, listed, rfl⟩ := List.mem_map.mp member
    exact fun inside => plain (mem_fields '|' clause key listed '\n' inside).1

theorem expanded_plain : '\n' ∉ expandWildcards clause := by
  by_cases star : '*' ∈ clause
  · intro inside
    rw [expanded_starred clause star] at inside
    have deeper : '\n' ∈ clause.flatMap Regex.starredText := by simpa using inside
    obtain ⟨c, member, written⟩ := List.mem_flatMap.mp deeper
    have other : c ≠ '\n' := fun same => plain (same ▸ member)
    rw [Regex.starredText, Pattern.escape, List.flatMap_singleton] at written
    split at written
    · exact absurd written (by decide)
    · split at written <;> simp [Ne.symm other] at written
  · rw [expandWildcards, if_neg fun found => star (List.contains_iff_mem.mp found)]
    exact plain

theorem segment_matcher_plain_source (found : segmentMatcher? clause = some matcher) : '\n' ∉ matcher.source := by
  rw [segmentMatcher?] at found
  split at found
  · rename_i slashed
    exact slashed_matcher_plain _ (expanded_plain clause plain) matcher slashed found
  · cases found
    exact plain

theorem domain_matchers_plain (member : matcher ∈ domainMatchers clause) : '\n' ∉ matcher.source := by
  rw [domainMatchers] at member
  split at member
  · rename_i slashed
    exact slashed_matcher_plain clause plain matcher slashed (Option.mem_toList.mp member)
  · obtain ⟨segment, listed, found⟩ := List.mem_filterMap.mp member
    refine segment_matcher_plain_source segment ?_ matcher found
    exact fun inside => plain (mem_fields '|' clause segment listed '\n' inside).1

end

theorem quote_printable (matcher : Matcher) : matcher.quote ≠ '\n' ∧ matcher.quote ≠ '\r' := by
  have sign : matcher.quote = '"' ∨ matcher.quote = '/' := by
    cases matcher with
    | literal => exact .inl rfl
    | token => exact .inl rfl
    | pattern => exact .inr rfl
  rcases sign with same | same <;> rw [same] <;> decide

theorem matcher_display_plain (matcher : Matcher) (plain : '\n' ∉ matcher.source) : '\n' ∉ matcher.display := by
  rw [Matcher.display_quoted]
  simp [plain, Ne.symm (quote_printable matcher).1]

theorem clause_rules_plain (domain param : Text) (domainPlain : '\n' ∉ domain) (paramPlain : '\n' ∉ param) :
    ∀ rule ∈ clauseRules domain param, '\n' ∉ rule.display := by
  have params : ∀ matcher ∈ paramMatchers param, '\n' ∉ matcher.display := fun matcher member =>
    matcher_display_plain matcher (param_matchers_plain param paramPlain matcher member)
  have domains : ∀ matcher ∈ domainMatchers domain, '\n' ∉ matcher.display := fun matcher member =>
    matcher_display_plain matcher (domain_matchers_plain domain domainPlain matcher member)
  intro rule member
  rw [clauseRules] at member
  split at member
  · obtain ⟨p, listed, rfl⟩ := List.mem_map.mp member
    rw [Rule.display_general]
    exact List.not_mem_append (by decide) (params p listed)
  · obtain ⟨d, inDomains, inside⟩ := List.mem_flatMap.mp member
    obtain ⟨p, listed, rfl⟩ := List.mem_map.mp inside
    rw [Rule.display_specific]
    exact List.not_mem_append (by decide)
      (List.not_mem_append (List.not_mem_append (domains d inDomains) (by decide)) (params p listed))

theorem display_ends (rule : Rule) : ∃ front, rule.display = front ++ [rule.param.quote] := by
  cases rule with
  | general param =>
      rw [Rule.display_general, Matcher.display_quoted, ← List.append_assoc]
      exact ⟨_, rfl⟩
  | specific domain param =>
      rw [Rule.display_specific, Matcher.display_quoted param, ← List.append_assoc, ← List.append_assoc]
      exact ⟨_, rfl⟩

-- What is shown of a rule is a line that can be printed and read back.
theorem compile_display_line (text : Text) :
    ∀ rule ∈ compile text, '\n' ∉ rule.display ∧ rule.display.getLast? ≠ some '\r' := by
  intro rule member
  constructor
  · obtain ⟨line, listed, inside⟩ := List.mem_flatMap.mp member
    have plain := lines_plain text line listed
    rw [compile_line_clauses] at inside
    split at inside
    · cases inside
    · cases found : clauses? line with
      | none =>
          rw [found] at inside
          cases inside
      | some clauses =>
          obtain ⟨domainPlain, paramPlain⟩ := clauses_plain line plain clauses.1 clauses.2 found
          rw [found] at inside
          exact clause_rules_plain clauses.1 clauses.2 domainPlain paramPlain rule inside
  · obtain ⟨front, whole⟩ := display_ends rule
    rw [whole, List.getLast?_concat]
    exact fun same => (quote_printable rule.param).2 (Option.some.inj same)

end LinkTidy.FilterList
