import LinkTidy.Proofs.FilterList.Matchers
import LinkTidy.Proofs.FilterList.Meanings
import LinkTidy.Proofs.FilterList.Scans
import LinkTidy.Proofs.Text.Ranges
/-!
The rules of a line as the product of its domains and its parameters, and the reading of a line in which what stands
between slashes is read by a checked range.
-/

set_option autoImplicit false

namespace LinkTidy.FilterList

open Regex (Pattern)

-- Whether a clause has two bytes or more, and a slash at each end.
def isSlashedBytes (clause : Text) : Bool :=
  2 ≤ byteLength clause && clause.head? == some '/' && clause.getLast? == some '/'

-- The pattern between the first and the last byte. The outer option fails where these are no characters of their own,
-- the inner one where the text between them is no pattern.
def slashedMatcherChecked? (clause : Text) : Option (Option Matcher) :=
  (range? 1 (byteLength clause - 1) clause).map fun source => (Pattern.ofText? source).map .pattern

def paramMatchersChecked? (param : Text) : Option (List Matcher) :=
  if isSlashedBytes param then (slashedMatcherChecked? param).map Option.toList
  else some ((fields '|' param).map .token)

def segmentMatcherChecked? (segment : Text) : Option (Option Matcher) :=
  let expanded := expandWildcards segment
  if isSlashedBytes expanded then slashedMatcherChecked? expanded else some (some (.literal segment))

def domainMatchersChecked? (domain : Text) : Option (List Matcher) :=
  if isSlashedBytes domain then (slashedMatcherChecked? domain).map Option.toList
  else ((fields '|' domain).mapM segmentMatcherChecked?).map (List.filterMap id)

def clauseRulesChecked? (domain param : Text) : Option (List Rule) :=
  (paramMatchersChecked? param).bind fun params =>
    if isBlankText domain then some (params.map .general)
    else (domainMatchersChecked? domain).map fun domains =>
      domains.flatMap fun domain => params.map (.specific domain)

def compileLineChecked? (line : Text) : Option (Option (List Rule)) :=
  if isBlankText line || line.head? == some '!' then some none
  else ((clauses? line).map fun clauses => (clauseRulesChecked? clauses.1 clauses.2).map some).getD (some none)

theorem is_slashed_bytes (clause : Text) : isSlashedBytes clause = isSlashed clause := by
  rw [isSlashedBytes, isSlashed]
  cases clause with
  | nil => rfl
  | cons c rest =>
      cases rest with
      | cons d more =>
          have sizes : 2 ≤ byteLength (c :: d :: more) := by
            have first := c.utf8Size_pos
            have second := d.utf8Size_pos
            rw [byteLength, byteLength]
            omega
          simp [sizes]
      | nil =>
          -- One character of several bytes is no slash.
          by_cases slash : c = '/'
          · rw [slash]
            rfl
          · simp [slash]

theorem slashed_matcher_read (clause : Text) (slashed : isSlashed clause = true) :
    slashedMatcherChecked? clause = some (slashedMatcher? clause) := by
  obtain ⟨source, rfl⟩ := (is_slashed_iff clause).mp slashed
  have stop : byteLength ('/' :: source ++ ['/']) - 1 = byteLength (['/'] ++ source) := by
    rw [byte_length_append]
    rfl
  have read : range? 1 (byteLength ('/' :: source ++ ['/']) - 1) ('/' :: source ++ ['/']) = some source := by
    rw [stop]
    exact range_middle ['/'] source ['/']
  rw [slashedMatcherChecked?, read, slashed_matcher_source, Option.map_some]

theorem param_matchers_read (param : Text) : paramMatchersChecked? param = some (paramMatchers param) := by
  rw [paramMatchersChecked?, paramMatchers, is_slashed_bytes]
  by_cases slashed : isSlashed param = true
  · rw [if_pos slashed, if_pos slashed, slashed_matcher_read param slashed, Option.map_some]
  · rw [if_neg slashed, if_neg slashed]

theorem segment_matcher_read (segment : Text) : segmentMatcherChecked? segment = some (segmentMatcher? segment) := by
  rw [segmentMatcherChecked?, segmentMatcher?, is_slashed_bytes]
  by_cases slashed : isSlashed (expandWildcards segment) = true
  · rw [if_pos slashed, if_pos slashed, slashed_matcher_read _ slashed]
  · rw [if_neg slashed, if_neg slashed]

theorem domain_matchers_read (domain : Text) : domainMatchersChecked? domain = some (domainMatchers domain) := by
  rw [domainMatchersChecked?, domainMatchers, is_slashed_bytes]
  by_cases slashed : isSlashed domain = true
  · rw [if_pos slashed, if_pos slashed, slashed_matcher_read domain slashed, Option.map_some]
  · have each : (fields '|' domain).mapM segmentMatcherChecked? = some ((fields '|' domain).map segmentMatcher?) := by
      rw [funext segment_matcher_read]
      exact List.mapM_pure
    rw [if_neg slashed, if_neg slashed, each, Option.map_some, List.filterMap_map]
    rfl

theorem clause_rules_read (domain param : Text) :
    clauseRulesChecked? domain param = some (clauseRules domain param) := by
  rw [clauseRulesChecked?, clauseRules, param_matchers_read, Option.bind_some]
  by_cases blank : isBlankText domain = true
  · rw [if_pos blank, if_pos blank]
  · rw [if_neg blank, if_neg blank, domain_matchers_read, Option.map_some]

theorem compile_line_read (line : Text) : compileLineChecked? line = some (compileLine line) := by
  rw [compileLineChecked?, compile_line_clauses]
  by_cases skipped : (isBlankText line || line.head? == some '!') = true
  · rw [if_pos skipped, if_pos skipped]
  · rw [if_neg skipped, if_neg skipped]
    cases clauses? line with
    | none => rfl
    | some clauses => rw [Option.map_some, Option.getD_some, clause_rules_read, Option.map_some, Option.map_some]

section Product

variable (params : List Matcher)

-- One row of rules for each domain.
def productRules (domains : List Matcher) : List Rule :=
  domains.flatMap fun domain => params.map (.specific domain)

theorem product_rules_cons (domain : Matcher) (domains : List Matcher) :
    productRules params (domain :: domains) = params.map (.specific domain) ++ productRules params domains := rfl

theorem product_rules_length (domains : List Matcher) :
    (productRules params domains).length = domains.length * params.length := by
  induction domains with
  | nil => rw [List.length_nil, Nat.zero_mul]; rfl
  | cons domain rest ih =>
      rw [product_rules_cons, List.length_append, List.length_map, ih, List.length_cons, Nat.succ_mul, Nat.add_comm]

theorem product_rules_at (domains : List Matcher) (i j : Nat) (domain param : Matcher)
    (row : domains[i]? = some domain) (column : params[j]? = some param) :
    (productRules params domains)[i * params.length + j]? = some (.specific domain param) := by
  induction domains generalizing i with
  | nil => cases row
  | cons first rest ih =>
      rw [product_rules_cons]
      cases i with
      | zero =>
          cases row
          have inside : j < (params.map (Rule.specific domain)).length := by
            rw [List.length_map]
            exact (List.getElem?_eq_some_iff.mp column).1
          rw [Nat.zero_mul, Nat.zero_add, List.getElem?_append_left inside, List.getElem?_map, column, Option.map_some]
      | succ i =>
          -- The row of the first domain is passed.
          have place : (i + 1) * params.length + j = (params.map (Rule.specific first)).length + (i * params.length + j) := by
            rw [List.length_map, Nat.succ_mul]
            omega
          rw [place, List.getElem?_append_right (Nat.le_add_right _ _), Nat.add_sub_cancel_left]
          exact ih i row

theorem product_rules_specific (domains : List Matcher) (rule : Rule) (member : rule ∈ productRules params domains) :
    ∃ domain ∈ domains, ∃ param ∈ params, rule = .specific domain param := by
  obtain ⟨domain, inDomains, inside⟩ := List.mem_flatMap.mp member
  obtain ⟨param, inParams, rfl⟩ := List.mem_map.mp inside
  exact ⟨domain, inDomains, param, inParams, rfl⟩

-- The rules of one segment between bars.
def segmentRules (segment : Text) : List Rule :=
  productRules params (segmentMatcher? segment).toList

theorem segment_rules_mean (segment : Text) (domains : List Matcher) (read : SegmentMeans segment domains) :
    segmentRules params segment = productRules params domains := by
  rw [segmentRules, (segment_means_iff segment domains).mp read]

theorem product_rules_segments (segments : List Text) (some : segments ≠ []) (apart : ∀ segment ∈ segments, '|' ∉ segment)
    (unslashed : ¬ Slashed (['|'].intercalate segments)) :
    productRules params (domainMatchers (['|'].intercalate segments)) = segments.flatMap (segmentRules params) := by
  rw [domainMatchers, if_neg (not_is_slashed _ unslashed), fields_intercalate '|' segments some apart,
    List.filterMap_eq_flatMap_toList, productRules, List.flatMap_assoc]
  rfl

end Product

theorem is_blank_text_iff (text : Text) : isBlankText text = true ↔ ∀ c ∈ text, Unicode.isBlank c = true :=
  List.all_eq_true

-- The rules of a line with these clauses: one for each parameter, or one for each domain and parameter. What a segment of
-- the domain clause is read as has no part in the rules of the other segments.
inductive LineRules (domain param : Text) (rules : List Rule) : Prop where
  | general (params : List Matcher) (blank : ∀ c ∈ domain, Unicode.isBlank c = true)
      (paramsRead : ParamMeans param params) (length : rules.length = params.length)
      (each : ∀ (i : Nat) (p : Matcher), params[i]? = some p → rules[i]? = some (.general p)) :
      LineRules domain param rules
  | specific (domains params : List Matcher) (written : ∃ c ∈ domain, Unicode.isBlank c = false)
      (domainsRead : DomainMeans domain domains) (paramsRead : ParamMeans param params)
      (length : rules.length = domains.length * params.length)
      (each : ∀ (i j : Nat) (d p : Matcher), domains[i]? = some d → params[j]? = some p →
        rules[i * params.length + j]? = some (.specific d p))
      (everywhere : ∀ rule ∈ rules, ∃ d ∈ domains, ∃ p ∈ params, rule = .specific d p)
      (bySegment : ∀ front segment behind own, domain = ['|'].intercalate (front ++ segment :: behind) →
        (∀ piece ∈ front ++ segment :: behind, '|' ∉ piece) → ¬ Slashed domain → SegmentMeans segment own →
        rules = front.flatMap (segmentRules params) ++ productRules params own ++ behind.flatMap (segmentRules params)) :
      LineRules domain param rules

theorem clause_rules_product (domain param : Text) : LineRules domain param (clauseRules domain param) := by
  rw [clauseRules]
  have paramsRead := (param_means_iff param _).mpr rfl
  by_cases blank : isBlankText domain = true
  · rw [if_pos blank]
    refine .general (paramMatchers param) ((is_blank_text_iff domain).mp blank) paramsRead (List.length_map ..) ?_
    intro i p column
    rw [List.getElem?_map, column, Option.map_some]
  · rw [if_neg blank]
    have written : ∃ c ∈ domain, Unicode.isBlank c = false := by
      simpa [is_blank_text_iff] using blank
    refine .specific (domainMatchers domain) (paramMatchers param) written ((domain_means_iff domain _).mpr rfl) paramsRead
      (product_rules_length _ _) (product_rules_at _ _) (product_rules_specific _ _) ?_
    intro front segment behind own whole apart unslashed read
    subst whole
    have rules := product_rules_segments (paramMatchers param) _ (by simp) apart unslashed
    rw [List.flatMap_append, List.flatMap_cons, segment_rules_mean _ segment own read, ← List.append_assoc] at rules
    exact rules

-- What a line compiles to, and that no read of a range fails on the way.
structure Compiles (line : Text) : Prop where
  succeeds : compileLineChecked? line = some (compileLine line)
  nothing_iff : compileLine line = none ↔
    (∀ c ∈ line, Unicode.isBlank c = true) ∨ line.head? = some '!' ∨ NoOption paramName line
  product : ∀ rules, compileLine line = some rules →
    ∃ domain param, clauses? line = some (domain, param) ∧ LineRules domain param rules

theorem compile_line_nothing (line : Text) :
    compileLine line = none ↔
      (∀ c ∈ line, Unicode.isBlank c = true) ∨ line.head? = some '!' ∨ NoOption paramName line := by
  have noClauses : clauses? line = none ↔ NoOption paramName line := by
    rw [clauses?, Option.map_eq_none_iff, find_option_none_iff]
  rw [compile_line_clauses, ← is_blank_text_iff, ← noClauses, ← or_assoc]
  by_cases skipped : (isBlankText line || line.head? == some '!') = true
  · rw [if_pos skipped]
    rw [Bool.or_eq_true, beq_iff_eq] at skipped
    exact iff_of_true rfl (.inl skipped)
  · rw [if_neg skipped, Option.map_eq_none_iff]
    rw [Bool.or_eq_true, beq_iff_eq] at skipped
    rw [or_iff_right skipped]

theorem line_compiles_to_product (line : Text) : Compiles line := by
  constructor
  case succeeds => exact compile_line_read line
  case nothing_iff => exact compile_line_nothing line
  case product =>
    intro rules compiled
    rw [compile_line_clauses] at compiled
    split at compiled
    · cases compiled
    · obtain ⟨⟨domain, param⟩, clauses, rfl⟩ := Option.map_eq_some_iff.mp compiled
      exact ⟨domain, param, clauses, clause_rules_product domain param⟩

example : compileLine "$removeparam=a|b,domain=c.com|/(/|d.com".toList =
    some (productRules [.token "a".toList, .token "b".toList] [.literal "c.com".toList, .literal "d.com".toList]) := by
  decide +kernel

end LinkTidy.FilterList
