import LinkTidy.Proofs.FilterList.Matchers
import LinkTidy.Proofs.FilterList.Meanings
import LinkTidy.Proofs.Rule.Stripping
import LinkTidy.Proofs.Text.Fields
import LinkTidy.Proofs.Url.Parts
import Mathlib.Data.List.Infix
/-!
Which addresses the rules of a line with a domain can reach.
-/

set_option autoImplicit false

namespace LinkTidy.FilterList

open Rule (applyAll kept stripped)

theorem segment_matcher_literal (segment : Text) (plain : '*' ∉ segment) (unslashed : isSlashed segment = false) :
    segmentMatcher? segment = some (.literal segment) := by
  rw [segment_matcher_plain segment plain, if_neg (Bool.eq_false_iff.mp unslashed)]

theorem domain_matchers_literal (domain : Text) (plain : '*' ∉ domain) (unslashed : isSlashed domain = false)
    (segments : ∀ segment ∈ fields '|' domain, isSlashed segment = false) :
    domainMatchers domain = (fields '|' domain).map .literal := by
  have literals : ∀ segment ∈ fields '|' domain, segmentMatcher? segment = some (.literal segment) := by
    intro segment member
    refine segment_matcher_literal segment (fun star => plain ?_) (segments segment member)
    exact (mem_fields '|' domain segment member '*' star).1
  rw [domainMatchers, if_neg (Bool.eq_false_iff.mp unslashed), List.filterMap_congr literals]
  exact congrFun List.filterMap_eq_map _

theorem stripped_of_literals (segments : List Text) (params : List Matcher) (original pair : Text) :
    stripped ((segments.map Matcher.literal).flatMap fun domain => params.map (.specific domain)) original pair =
      (segments.any (fun segment => occursIn segment original) && params.any fun param => param.accepts pair) := by
  rw [Bool.eq_iff_iff, Bool.and_eq_true, List.any_eq_true, List.any_eq_true, stripped, List.any_eq_true]
  constructor
  · rintro ⟨rule, member, strips⟩
    obtain ⟨domain, inDomains, inside⟩ := List.mem_flatMap.mp member
    obtain ⟨segment, inSegments, rfl⟩ := List.mem_map.mp inDomains
    obtain ⟨param, inParams, rfl⟩ := List.mem_map.mp inside
    rw [Rule.strips, Bool.and_eq_true] at strips
    exact ⟨⟨segment, inSegments, strips.1⟩, param, inParams, strips.2⟩
  · rintro ⟨⟨segment, inSegments, occurs⟩, param, inParams, accepts⟩
    refine ⟨.specific (.literal segment) param, ?_, ?_⟩
    · exact List.mem_flatMap.mpr ⟨_, List.mem_map_of_mem inSegments, List.mem_map_of_mem inParams⟩
    · rw [Rule.strips, Bool.and_eq_true]
      exact ⟨occurs, accepts⟩

theorem parse_original (url : Text) : (UrlModel.parse url).url.original = url :=
  Url.of_text_original 0 url

theorem clause_rules_literal (domain param : Text) (written : ∃ c ∈ domain, Unicode.isBlank c = false)
    (plain : '*' ∉ domain) (unslashed : isSlashed domain = false)
    (segments : ∀ segment ∈ fields '|' domain, isSlashed segment = false) :
    clauseRules domain param =
      ((fields '|' domain).map Matcher.literal).flatMap fun domain => (paramMatchers param).map (.specific domain) := by
  have limited : ¬ isBlankText domain = true := by
    intro blank
    obtain ⟨c, member, notBlank⟩ := written
    rw [isBlankText, List.all_eq_true] at blank
    exact absurd (blank c member) (Bool.eq_false_iff.mp notBlank)
  rw [clauseRules, if_neg limited, domain_matchers_literal domain plain unslashed segments]

theorem compiled_clauses (line domain param : Text) (rules : List Rule) (clauses : clauses? line = some (domain, param))
    (compiled : compileLine line = some rules) : rules = clauseRules domain param := by
  rw [compile_line_clauses, clauses] at compiled
  split at compiled
  · cases compiled
  · exact (Option.some.inj compiled).symm

-- A domain clause of plain texts limits its line to the addresses that hold one of the texts; but an empty text among
-- them, as two bars in a row or a bar at an end give, lifts the limit.
theorem scoped_line_reaches (line domain param : Text) (clauses : clauses? line = some (domain, param))
    (written : ∃ c ∈ domain, Unicode.isBlank c = false) (plain : '*' ∉ domain) (unslashed : isSlashed domain = false)
    (segments : ∀ segment ∈ fields '|' domain, isSlashed segment = false) :
    ([] ∉ fields '|' domain → ∀ url, (∀ segment ∈ fields '|' domain, segment ≠ [] → ¬ segment <:+: url) →
        applyAll ((compileLine line).getD []) (UrlModel.parse url) = (UrlModel.parse url, 0)) ∧
      ([] ∈ fields '|' domain → compileLine line ≠ none → ∀ url,
        (applyAll ((compileLine line).getD []) (UrlModel.parse url)).1.pairs =
          (UrlModel.parse url).pairs.filter fun pair =>
            !(paramMatchers param).any fun matcher => matcher.accepts pair) := by
  cases compiled : compileLine line with
  | none => exact ⟨fun _ _ _ => rfl, fun _ some => absurd rfl some⟩
  | some rules =>
      have reach : ∀ original pair, stripped rules original pair =
          ((fields '|' domain).any (fun segment => occursIn segment original) &&
            (paramMatchers param).any fun matcher => matcher.accepts pair) := by
        rw [compiled_clauses line domain param rules clauses compiled,
          clause_rules_literal domain param written plain unslashed segments]
        exact stripped_of_literals _ _
      rw [Option.getD_some]
      constructor
      · intro noEmpty url absent
        have outside : (fields '|' domain).any (fun segment => occursIn segment url) = false := by
          rw [List.any_eq_false]
          intro segment member occurs
          exact absent segment member (fun empty => noEmpty (empty ▸ member)) ((occurs_in_iff segment url).mp occurs)
        have untouched : ∀ pair ∈ (UrlModel.parse url).pairs,
            stripped rules (UrlModel.parse url).url.original pair = false := by
          intro pair _
          rw [reach, parse_original, outside, Bool.false_and]
        apply Prod.ext
        · rw [Rule.apply_all_model, (Rule.kept_eq_iff rules _).mpr untouched]
        · exact (Rule.apply_all_no_hit rules _).mpr untouched
      · intro empty _ url
        have everywhere : (fields '|' domain).any (fun segment => occursIn segment url) = true :=
          List.any_eq_true.mpr ⟨[], empty, (occurs_in_iff [] url).mpr List.nil_infix⟩
        rw [Rule.apply_all_model]
        change kept rules (UrlModel.parse url) = _
        simp only [kept, reach, parse_original, everywhere, Bool.true_and]

theorem scoped_line_two_hosts :
    let line := "||a.com|b.org^$removeparam=c".toList
    let url := "https://other.net/?c=1".toList
    applyAll ((compileLine line).getD []) (UrlModel.parse url) = (UrlModel.parse url, 0) := by
  have written : ∃ c ∈ "a.com|b.org".toList, Unicode.isBlank c = false := ⟨'a', by decide, by decide⟩
  refine (scoped_line_reaches _ "a.com|b.org".toList "c".toList ?_ written ?_ ?_ ?_).1 ?_ _ ?_ <;> decide +kernel

-- The bar behind the host makes a second, empty host, which every address holds.
theorem scoped_line_with_stray_bar :
    let line := "||a.com|$removeparam=c".toList
    let url := "https://other.org/?c=1".toList
    clauses? line = some ("a.com|".toList, "c".toList) ∧ (∃ c ∈ "a.com|".toList, Unicode.isBlank c = false) ∧
      '*' ∉ "a.com|".toList ∧ isSlashed "a.com|".toList = false ∧
      (∀ segment ∈ fields '|' "a.com|".toList, isSlashed segment = false) ∧
      (∀ segment ∈ fields '|' "a.com|".toList, segment ≠ [] → ¬ segment <:+: url) ∧
      (applyAll ((compileLine line).getD []) (UrlModel.parse url)).1.pairs ≠ (UrlModel.parse url).pairs := by
  refine ⟨by decide +kernel, ⟨'a', by decide, by decide⟩, ?_⟩
  decide +kernel

end LinkTidy.FilterList
