import LinkTidy.Proofs.Cleaner.Runs
import LinkTidy.Proofs.Url.Candidates
import LinkTidy.Proofs.Url.Separators
/-!
Cleaning a text cleans what stands on either side of a separator as if it stood alone.
-/

set_option autoImplicit false

namespace LinkTidy.Cleaner

open Url (detect ofFound? isSeparator Scan)

theorem clean_text_joined (store : Store) (a b : Text) (separator : Char) (separates : isSeparator separator = true) :
    (clean false store (a ++ separator :: b)).text =
      (clean false store a).text ++ separator :: (clean false store b).text := by
  rw [clean_joins_runs, clean_joins_runs, clean_joins_runs, Url.runs_joined a b separator separates, List.map_append,
    List.map_cons, Url.join_runs_append]

theorem clean_changed_joined (store : Store) (a b : Text) (separator : Char)
    (separates : isSeparator separator = true) :
    (clean false store (a ++ separator :: b)).changed =
      ((clean false store a).changed || (clean false store b).changed) := by
  have changed (text : Text) :
      (clean false store text).changed = true ↔ ∃ url ∈ detect text, Loses store.snapshot.flatten url :=
    (clean_with_located store text _ (Url.detect_located text)).2
  rw [Bool.eq_iff_iff, Bool.or_eq_true, changed, changed, changed, Url.detect_joined a b separator separates]
  simp only [List.mem_append, List.mem_map, or_and_right, exists_or, exists_exists_and_eq_and, loses_moved]

-- What is found in any text is what a search of all of it finds; and where a separator stands, what is found and what
-- becomes of it is told by each side alone.
theorem cleaning_splits_at_separators (store : Store) (a b : Text) (separator : Char)
    (separates : Unicode.isBlank separator = true ∨ separator = '<' ∨ separator = '>') :
    (∀ text, ∃ found, Scan false 0 text found ∧ (∀ other, Scan false 0 text other → other = found) ∧
      detect text = found.filterMap fun word => ofFound? word.1 word.2) ∧
      detect (a ++ separator :: b) = detect a ++ (detect b).map (Url.moved (byteLength (a ++ [separator]))) ∧
      (clean false store (a ++ separator :: b)).text =
        (clean false store a).text ++ separator :: (clean false store b).text ∧
      (clean false store (a ++ separator :: b)).changed =
        ((clean false store a).changed || (clean false store b).changed) := by
  have cut : isSeparator separator = true := by
    simpa [isSeparator, or_assoc] using separates
  refine ⟨?_, Url.detect_joined a b separator cut, clean_text_joined store a b separator cut,
    clean_changed_joined store a b separator cut⟩
  intro text
  obtain ⟨found, scanned, detected⟩ := Url.detect_scanned text
  exact ⟨found, scanned, fun other also => Url.scan_unique also scanned, detected⟩

-- A line separator of three bytes, a word in front of it that would swallow the address behind it, and the same address on
-- both sides.
theorem cleaning_splits_at_line_separator :
    let store : Store := { entries := [⟨"list".toList, [], [.general (.token "u".toList)], 0⟩], nextStamp := 1 }
    let a := "(www.b.org/?u=1) é".toList
    let b := "www.b.org/?u=1&v=2".toList
    Unicode.isBlank '\u2028' = true ∧
      detect (a ++ '\u2028' :: b) = detect a ++ (detect b).map (Url.moved 22) ∧
      (clean false store (a ++ '\u2028' :: b)).text = "(www.b.org/) é\u2028www.b.org/?v=2".toList := by
  intro store a b
  have blank : Unicode.isBlank '\u2028' = true := by decide +kernel
  obtain ⟨-, found, text, -⟩ := cleaning_splits_at_separators store a b '\u2028' (.inl blank)
  refine ⟨blank, found, text.trans ?_⟩
  decide +kernel

end LinkTidy.Cleaner
