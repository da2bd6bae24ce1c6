import LinkTidy.Proofs.FilterList.Meanings
import LinkTidy.Proofs.Regex.Pieces
/-!
Domains with stars: whatever else stands in such a domain, it becomes a pattern that finds the pieces between the stars
in order, and nothing but a star has a meaning of its own.
-/

set_option autoImplicit false

namespace LinkTidy.FilterList

open Regex (Pattern Expr Spelled maxSize starredText)

theorem starred_piece (piece : Text) (plain : '*' ∉ piece) : piece.flatMap starredText = Pattern.escape piece := by
  refine List.flatMap_congr fun c member => ?_
  have other : c ≠ '*' := fun same => plain (same ▸ member)
  rw [starredText, if_neg other, Pattern.escape, List.flatMap_singleton]

theorem star_pattern_starred (pieces : List Text) (apart : ∀ piece ∈ pieces, '*' ∉ piece) :
    starPattern pieces = (['*'].intercalate pieces).flatMap starredText := by
  induction pieces with
  | nil => rfl
  | cons piece rest ih =>
      obtain ⟨plain, others⟩ := List.forall_mem_cons.mp apart
      cases rest with
      | nil =>
          rw [starPattern, List.map_singleton, List.intercalate_singleton, List.intercalate_singleton,
            starred_piece piece plain]
      | cons next more =>
          have later := ih others
          rw [starPattern, List.map_cons] at later ⊢
          rw [List.map_cons, List.intercalate_cons_cons, later, List.intercalate_cons_cons, List.flatMap_append,
            List.flatMap_append, starred_piece piece plain]
          rfl

theorem star_pattern_of_segment (segment : Text) :
    starPattern (fields '*' segment) = segment.flatMap starredText := by
  rw [star_pattern_starred _ (fields_apart '*' segment), intercalate_fields]

theorem expanded_starred (segment : Text) (star : '*' ∈ segment) :
    expandWildcards segment = '/' :: segment.flatMap starredText ++ ['/'] := by
  rw [← star_pattern_of_segment]
  exact if_pos (List.contains_iff_mem.mpr star)

-- A domain without stars stays as it is. One with stars always becomes the text of a regular expression between slashes;
-- unless it is too large, the expression is accepted, and finds the pieces between the stars in order, character by
-- character up to case, with any text of one line between them.
theorem wildcards_match_pieces (segment : Text) :
    ('*' ∉ segment → expandWildcards segment = segment) ∧
      ('*' ∈ segment → isSlashed (expandWildcards segment) = true ∧
        ∃ source, trimEnds? (expandWildcards segment) = some source ∧ (Expr.ofStarred segment).IsWritten source ∧
          ((Expr.ofStarred segment).size ≤ maxSize →
            ∃ p, Pattern.ofText? source = some p ∧ segmentMatcher? segment = some (.pattern p) ∧
              ∀ text, (Matcher.pattern p).accepts text = true ↔
                ∃ before found behind, text = before ++ found ++ behind ∧ Spelled (fields '*' segment) found)) := by
  constructor
  · exact fun plain => if_neg fun star => plain (List.contains_iff_mem.mp star)
  · intro star
    have expanded := expanded_starred segment star
    have written := Regex.starred_written segment
    refine ⟨by rw [expanded]; exact is_slashed_pattern _, segment.flatMap starredText, ?_, written, ?_⟩
    · rw [expanded, slashes_trimmed]
    · intro bounded
      obtain ⟨p, accepted, expr⟩ := Regex.of_text_bounded _ _ written bounded
      refine ⟨p, accepted, ?_, fun text => ?_⟩
      · rw [segment_matcher_starred segment star, star_pattern_of_segment, accepted, Option.map_some]
      · have found := Regex.pieces_found_iff text _ (fields_ne_nil '*' segment) (fields_apart '*' segment)
        rw [intercalate_fields, ← expr] at found
        exact found

-- The pieces are `k.`, `ns/?` and nothing; the letters `k` and `s` have cases outside ASCII.
theorem wildcards_match_kelvin_sign :
    let segment := "k.*ns/?*".toList
    '*' ∈ segment ∧ (Expr.ofStarred segment).size ≤ maxSize ∧
      ∃ p, segmentMatcher? segment = some (.pattern p) ∧
        (Matcher.pattern p).accepts "http://\u212A.xyzN\u017F/?q".toList = true := by
  have star : '*' ∈ "k.*ns/?*".toList := by decide
  have bounded : (Expr.ofStarred "k.*ns/?*".toList).size ≤ maxSize := by decide +kernel
  have alike : Spelled ["k.".toList, "ns/?".toList, []] "\u212A.xyzN\u017F/?".toList := by
    refine .more "k.".toList "\u212A.".toList "xyz".toList _ _ ?_ (by decide) ?_
    · decide +kernel
    · exact .more "ns/?".toList "N\u017F/?".toList [] [] _ (by decide +kernel) (by decide) (.last [] [] .nil)
  obtain ⟨-, source, -, -, matched⟩ := (wildcards_match_pieces "k.*ns/?*".toList).2 star
  obtain ⟨p, -, made, accepts_iff⟩ := matched bounded
  exact ⟨star, bounded, p, made, (accepts_iff _).mpr ⟨"http://".toList, _, "q".toList, by decide +kernel, alike⟩⟩

example : (segmentMatcher? "a*b".toList).map (·.accepts "a\nb".toList) = some false := by decide +kernel

end LinkTidy.FilterList
