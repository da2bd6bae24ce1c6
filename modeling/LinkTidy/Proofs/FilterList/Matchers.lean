import LinkTidy.FilterList
/-!
The matchers and rules that a filter line can write.
-/

set_option autoImplicit false

namespace LinkTidy.FilterList

-- Parameters are keys or patterns.
def IsParam : Matcher → Prop
  | .literal _ => False
  | .token _ => True
  | .pattern _ => True

-- Domains are occurring texts or patterns.
def IsDomain : Matcher → Prop
  | .literal _ => True
  | .token _ => False
  | .pattern _ => True

def Written : Rule → Prop
  | .general param => IsParam param
  | .specific domain param => IsDomain domain ∧ IsParam param

theorem slashed_matcher_pattern (clause : Text) (matcher : Matcher) (some : slashedMatcher? clause = some matcher) :
    ∃ p, matcher = .pattern p := by
  rw [slashedMatcher?, Option.map_eq_some_iff] at some
  obtain ⟨p, -, rfl⟩ := some
  exact ⟨p, rfl⟩

theorem param_matchers_shape (param : Text) (matcher : Matcher) (member : matcher ∈ paramMatchers param) :
    IsParam matcher := by
  rw [paramMatchers] at member
  split at member
  · obtain ⟨p, rfl⟩ := slashed_matcher_pattern param matcher (Option.mem_toList.mp member)
    trivial
  · obtain ⟨key, -, rfl⟩ := List.mem_map.mp member
    trivial

theorem segment_matcher_shape (segment : Text) (matcher : Matcher) (some : segmentMatcher? segment = some matcher) :
    IsDomain matcher := by
  rw [segmentMatcher?] at some
  split at some
  · obtain ⟨p, rfl⟩ := slashed_matcher_pattern _ matcher some
    trivial
  · cases some
    trivial

theorem domain_matchers_shape (domain : Text) (matcher : Matcher) (member : matcher ∈ domainMatchers domain) :
    IsDomain matcher := by
  rw [domainMatchers] at member
  split at member
  · obtain ⟨p, rfl⟩ := slashed_matcher_pattern domain matcher (Option.mem_toList.mp member)
    trivial
  · obtain ⟨segment, -, some⟩ := List.mem_filterMap.mp member
    exact segment_matcher_shape segment matcher some

-- The rules of two clauses: one for each parameter if the domain is blank, else one for each domain and parameter.
def clauseRules (domain param : Text) : List Rule :=
  if isBlankText domain then (paramMatchers param).map .general
  else (domainMatchers domain).flatMap fun domain => (paramMatchers param).map (.specific domain)

theorem compile_line_clauses (line : Text) :
    compileLine line =
      if isBlankText line || line.head? == some '!' then none
      else (clauses? line).map fun clauses => clauseRules clauses.1 clauses.2 := rfl

theorem clause_rules_written (domain param : Text) (rule : Rule) (member : rule ∈ clauseRules domain param) :
    Written rule := by
  rw [clauseRules] at member
  split at member
  · obtain ⟨matcher, inside, rfl⟩ := List.mem_map.mp member
    exact param_matchers_shape param matcher inside
  · obtain ⟨domainMatcher, inDomains, inside⟩ := List.mem_flatMap.mp member
    obtain ⟨paramMatcher, inParams, rfl⟩ := List.mem_map.mp inside
    exact ⟨domain_matchers_shape domain domainMatcher inDomains, param_matchers_shape param paramMatcher inParams⟩

theorem compile_line_written (line : Text) (rules : List Rule) (compiled : compileLine line = some rules) :
    ∀ rule ∈ rules, Written rule := by
  intro rule member
  rw [compile_line_clauses] at compiled
  split at compiled
  · cases compiled
  · obtain ⟨clauses, -, rfl⟩ := Option.map_eq_some_iff.mp compiled
    exact clause_rules_written clauses.1 clauses.2 rule member

theorem compile_written (text : Text) : ∀ rule ∈ compile text, Written rule := by
  intro rule member
  obtain ⟨line, -, inside⟩ := List.mem_flatMap.mp member
  cases compiled : compileLine line with
  | none =>
      rw [compiled] at inside
      cases inside
  | some rules =>
      rw [compiled] at inside
      exact compile_line_written line rules compiled rule inside

end LinkTidy.FilterList
