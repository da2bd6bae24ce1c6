import LinkTidy.FilterList.Clause
import LinkTidy.Proofs.Text.Fields
import Mathlib.Data.List.Forall2
/-!
What the text of a clause says: it is one pattern between slashes, or it lists keys or domains between bars.
-/

set_option autoImplicit false

namespace LinkTidy.FilterList

open Regex (Pattern)

def Slashed (clause : Text) : Prop :=
  ∃ source, clause = '/' :: source ++ ['/']

-- What a pattern stands for; a text that is no regular expression stands for nothing.
def patternMatchers (source : Text) : List Matcher :=
  ((Pattern.ofText? source).map Matcher.pattern).toList

inductive ParamMeans : Text → List Matcher → Prop
  | pattern (source : Text) : ParamMeans ('/' :: source ++ ['/']) (patternMatchers source)
  | keys (keys : List Text) (some : keys ≠ []) (apart : ∀ key ∈ keys, '|' ∉ key)
      (unslashed : ¬ Slashed (['|'].intercalate keys)) : ParamMeans (['|'].intercalate keys) (keys.map .token)

-- The pattern of a domain with stars between its pieces: a star stands for any characters of a line.
def starPattern (pieces : List Text) : Text :=
  ".*?".toList.intercalate (pieces.map Pattern.escape)

-- Stars come before slashes: a segment with a star is no pattern even between slashes.
inductive SegmentMeans : Text → List Matcher → Prop
  | starred (pieces : List Text) (several : 2 ≤ pieces.length) (apart : ∀ piece ∈ pieces, '*' ∉ piece) :
      SegmentMeans (['*'].intercalate pieces) (patternMatchers (starPattern pieces))
  | pattern (source : Text) (plain : '*' ∉ source) : SegmentMeans ('/' :: source ++ ['/']) (patternMatchers source)
  | literal (segment : Text) (plain : '*' ∉ segment) (unslashed : ¬ Slashed segment) :
      SegmentMeans segment [.literal segment]

inductive DomainMeans : Text → List Matcher → Prop
  | pattern (source : Text) : DomainMeans ('/' :: source ++ ['/']) (patternMatchers source)
  | segments (segments : List Text) (matchers : List (List Matcher)) (some : segments ≠ [])
      (apart : ∀ segment ∈ segments, '|' ∉ segment) (unslashed : ¬ Slashed (['|'].intercalate segments))
      (read : List.Forall₂ SegmentMeans segments matchers) :
      DomainMeans (['|'].intercalate segments) matchers.flatten

theorem is_slashed_iff (clause : Text) : isSlashed clause = true ↔ Slashed clause := by
  rw [isSlashed, Bool.and_eq_true, Bool.and_eq_true, decide_eq_true_iff, beq_iff_eq, beq_iff_eq]
  constructor
  · rintro ⟨⟨long, first⟩, last⟩
    obtain ⟨text, rfl⟩ := List.getLast?_eq_some_iff.mp last
    cases text with
    | nil => simp at long
    | cons c source =>
        have slash : c = '/' := Option.some.inj first
        exact ⟨source, by rw [slash]⟩
  · rintro ⟨source, rfl⟩
    exact ⟨⟨by simp, rfl⟩, List.getLast?_append_of_ne_nil _ (List.cons_ne_nil _ _)⟩

theorem is_slashed_pattern (source : Text) : isSlashed ('/' :: source ++ ['/']) = true :=
  (is_slashed_iff _).mpr ⟨source, rfl⟩

theorem not_is_slashed (clause : Text) (unslashed : ¬ Slashed clause) : ¬ isSlashed clause = true :=
  fun slashed => unslashed ((is_slashed_iff clause).mp slashed)

theorem slashes_trimmed (source : Text) : trimEnds? ('/' :: source ++ ['/']) = some source := by
  have last : ('/' :: source ++ ['/']).getLast? = some '/' := List.getLast?_concat
  rw [trimEnds?, last, if_pos ⟨by simp, rfl, rfl⟩, List.cons_append, List.tail_cons, List.dropLast_concat]

theorem slashed_matcher_source (source : Text) :
    slashedMatcher? ('/' :: source ++ ['/']) = (Pattern.ofText? source).map .pattern := by
  rw [slashedMatcher?, slashes_trimmed, Option.bind_some]

theorem param_means_iff (clause : Text) (matchers : List Matcher) :
    ParamMeans clause matchers ↔ matchers = paramMatchers clause := by
  constructor
  · intro read
    cases read with
    | pattern source =>
        rw [paramMatchers, if_pos (is_slashed_pattern source), slashed_matcher_source, patternMatchers]
    | keys keys some apart unslashed =>
        rw [paramMatchers, if_neg (not_is_slashed _ unslashed), fields_intercalate '|' keys some apart]
  · rintro rfl
    by_cases slashed : Slashed clause
    · obtain ⟨source, rfl⟩ := slashed
      rw [paramMatchers, if_pos (is_slashed_pattern source), slashed_matcher_source]
      exact .pattern source
    · have read := ParamMeans.keys (fields '|' clause) (fields_ne_nil _ _) (fields_apart _ _)
      rw [intercalate_fields] at read
      rw [paramMatchers, if_neg (not_is_slashed clause slashed)]
      exact read slashed

theorem segment_matcher_starred (segment : Text) (star : '*' ∈ segment) :
    segmentMatcher? segment = (Pattern.ofText? (starPattern (fields '*' segment))).map .pattern := by
  have expanded : expandWildcards segment = '/' :: starPattern (fields '*' segment) ++ ['/'] :=
    if_pos (List.contains_iff_mem.mpr star)
  rw [segmentMatcher?, expanded]
  exact (if_pos (is_slashed_pattern _)).trans (slashed_matcher_source _)

theorem segment_matcher_plain (segment : Text) (plain : '*' ∉ segment) :
    segmentMatcher? segment = if isSlashed segment then slashedMatcher? segment else some (.literal segment) := by
  have kept : expandWildcards segment = segment := if_neg fun star => plain (List.contains_iff_mem.mp star)
  rw [segmentMatcher?, kept]

theorem segment_means_iff (segment : Text) (matchers : List Matcher) :
    SegmentMeans segment matchers ↔ matchers = (segmentMatcher? segment).toList := by
  constructor
  · intro read
    cases read with
    | starred pieces several apart =>
        obtain ⟨first, next, more, rfl⟩ : ∃ first next more, pieces = first :: next :: more := by
          match pieces, several with
          | first :: next :: more, _ => exact ⟨first, next, more, rfl⟩
        have star : '*' ∈ ['*'].intercalate (first :: next :: more) := by simp
        rw [segment_matcher_starred _ star, fields_intercalate '*' _ (List.cons_ne_nil _ _) apart, patternMatchers]
    | pattern source plain =>
        rw [segment_matcher_plain _ (by simpa using plain), if_pos (is_slashed_pattern source),
          slashed_matcher_source, patternMatchers]
    | literal _ plain unslashed =>
        rw [segment_matcher_plain segment plain, if_neg (not_is_slashed segment unslashed), Option.toList_some]
  · rintro rfl
    by_cases star : '*' ∈ segment
    · have read := SegmentMeans.starred (fields '*' segment) (fields_several '*' segment star) (fields_apart _ _)
      rw [intercalate_fields] at read
      rw [segment_matcher_starred segment star]
      exact read
    · rw [segment_matcher_plain segment star]
      by_cases slashed : Slashed segment
      · obtain ⟨source, rfl⟩ := slashed
        rw [if_pos (is_slashed_pattern source), slashed_matcher_source]
        exact .pattern source fun inside => star (by simpa using inside)
      · rw [if_neg (not_is_slashed segment slashed)]
        exact .literal segment star slashed

theorem segments_mean_iff (segments : List Text) (matchers : List (List Matcher)) :
    List.Forall₂ SegmentMeans segments matchers ↔
      matchers = segments.map fun segment => (segmentMatcher? segment).toList := by
  induction segments generalizing matchers with
  | nil => rw [List.forall₂_nil_left_iff, List.map_nil]
  | cons segment rest ih =>
      rw [List.forall₂_cons_left_iff, List.map_cons]
      constructor
      · rintro ⟨first, others, read, later, rfl⟩
        rw [(segment_means_iff segment first).mp read, (ih others).mp later]
      · rintro rfl
        exact ⟨_, _, (segment_means_iff segment _).mpr rfl, (ih _).mpr rfl, rfl⟩

theorem domain_means_iff (clause : Text) (matchers : List Matcher) :
    DomainMeans clause matchers ↔ matchers = domainMatchers clause := by
  constructor
  · intro read
    cases read with
    | pattern source =>
        rw [domainMatchers, if_pos (is_slashed_pattern source), slashed_matcher_source, patternMatchers]
    | segments segments matchers some apart unslashed read =>
        rw [domainMatchers, if_neg (not_is_slashed _ unslashed), fields_intercalate '|' segments some apart,
          (segments_mean_iff segments matchers).mp read, List.filterMap_eq_flatMap_toList, List.flatMap_def]
  · rintro rfl
    by_cases slashed : Slashed clause
    · obtain ⟨source, rfl⟩ := slashed
      rw [domainMatchers, if_pos (is_slashed_pattern source), slashed_matcher_source]
      exact .pattern source
    · have each := (segments_mean_iff (fields '|' clause) _).mpr rfl
      have read := fun unslashed => DomainMeans.segments _ _ (fields_ne_nil _ _) (fields_apart _ _) unslashed each
      rw [intercalate_fields] at read
      rw [domainMatchers, if_neg (not_is_slashed clause slashed), List.filterMap_eq_flatMap_toList, List.flatMap_def]
      exact read slashed

end LinkTidy.FilterList
