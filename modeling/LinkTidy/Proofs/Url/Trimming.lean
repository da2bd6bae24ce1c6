import LinkTidy.Proofs.Url.Detection
import Mathlib.Data.List.Induction
/-!
What trimming leaves of a text: its longest beginning that does not end in punctuation of the sentence around it.
-/

set_option autoImplicit false

namespace LinkTidy.Url

-- Whether a text ends in a sign that closes a sentence or a part of it, or in a bracket with none to close.
def EndsLoosely (text : Text) : Prop :=
  (∃ sign ∈ ['.', ',', ';', ':', '!', '?', '\'', '"'], text.getLast? = some sign) ∨
    ∃ brackets ∈ [('(', ')'), ('[', ']'), ('\x7b', '\x7d')],
      text.getLast? = some brackets.2 ∧ text.count brackets.1 < text.count brackets.2

theorem ends_loosely_iff (front : Text) (last : Char) :
    EndsLoosely (front ++ [last]) ↔ endsSentence last (front ++ [last]).reverse = true := by
  rw [EndsLoosely, List.getLast?_concat]
  unfold endsSentence
  split <;> simp_all [unbalanced]

theorem not_ends_loosely_nil : ¬ EndsLoosely [] := by
  simp [EndsLoosely]

theorem trim_end_loose (front : Text) (last : Char) (loose : EndsLoosely (front ++ [last])) :
    trimEnd (front ++ [last]) = trimEnd front := by
  have ends := (ends_loosely_iff front last).mp loose
  rw [List.reverse_concat] at ends
  rw [trimEnd, List.reverse_concat, trimReversed, if_pos ends, trimEnd]

theorem trim_end_firm (text : Text) (firm : ¬ EndsLoosely text) : trimEnd text = text := by
  cases text using List.reverseRecOn with
  | nil => rfl
  | append_singleton front last =>
      rw [ends_loosely_iff, List.reverse_concat] at firm
      rw [trimEnd, List.reverse_concat, trimReversed, if_neg firm, List.reverse_cons, List.reverse_reverse]

-- The longest of the beginnings of a text that do not end loosely.
structure LongestFirm (trimmed text : Text) : Prop where
  begins : trimmed <+: text
  firm : ¬ EndsLoosely trimmed
  longest : ∀ other, other <+: text → ¬ EndsLoosely other → other.length ≤ trimmed.length

theorem trim_end_longest (text : Text) : LongestFirm (trimEnd text) text := by
  induction text using List.reverseRecOn with
  | nil => exact ⟨List.prefix_rfl, not_ends_loosely_nil, fun other begins _ => begins.length_le⟩
  | append_singleton front last ih =>
      by_cases loose : EndsLoosely (front ++ [last])
      · rw [trim_end_loose front last loose]
        refine ⟨ih.begins.trans (List.prefix_append front [last]), ih.firm, ?_⟩
        intro other begins firm
        rcases List.prefix_concat_iff.mp begins with rfl | shorter
        · exact absurd loose firm
        · exact ih.longest other shorter firm
      · rw [trim_end_firm _ loose]
        exact ⟨List.prefix_rfl, loose, fun other begins _ => begins.length_le⟩

example : trimEnd "(a(b)).')".toList = "(a(b))".toList := by decide

theorem trim_end_again (text : Text) : trimEnd (trimEnd text) = trimEnd text :=
  trim_end_firm _ (trim_end_longest text).firm

end LinkTidy.Url
