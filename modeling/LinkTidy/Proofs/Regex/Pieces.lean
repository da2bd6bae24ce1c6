import LinkTidy.Proofs.Regex.Starred
import Mathlib.Data.List.Forall2
/-!
The matches of a pattern of stars and literal characters: pieces equal up to case, with text of one line between them.
-/

set_option autoImplicit false

namespace LinkTidy.Regex

open LinkTidy.Unicode

-- The text found stands at place `i` of a text and ends at place `j`.
def StandsAt (text found : Text) (i j : Nat) : Prop :=
  found <+: text.drop i ∧ j = i + found.length

-- Equal character by character up to case.
def Alike (piece found : Text) : Prop :=
  List.Forall₂ (fun c d => sameFold c d = true) piece found

instance (piece found : Text) : Decidable (Alike piece found) :=
  inferInstanceAs (Decidable (List.Forall₂ _ piece found))

-- The pieces in order, with any text of one line between them.
inductive Spelled : List Text → Text → Prop where
  | last (piece found : Text) (alike : Alike piece found) : Spelled [piece] found
  | more (piece found gap others : Text) (pieces : List Text) (alike : Alike piece found) (line : '\n' ∉ gap)
      (later : Spelled pieces others) : Spelled (piece :: pieces) (found ++ gap ++ others)

section Standing

variable (text : Text) (i j : Nat)

theorem stands_nil : StandsAt text [] i j ↔ i = j := by
  simp [StandsAt, eq_comm]

theorem stands_append (front behind : Text) :
    StandsAt text (front ++ behind) i j ↔ ∃ k, StandsAt text front i k ∧ StandsAt text behind k j := by
  constructor
  · rintro ⟨⟨rest, whole⟩, rfl⟩
    refine ⟨i + front.length, ⟨⟨behind ++ rest, ?_⟩, rfl⟩, ⟨rest, ?_⟩, ?_⟩
    · rw [← whole, List.append_assoc]
    · rw [← List.drop_drop, ← whole, List.append_assoc, List.drop_left]
    · rw [List.length_append, Nat.add_assoc]
  · rintro ⟨_, ⟨⟨tail, first⟩, rfl⟩, ⟨rest, second⟩, rfl⟩
    rw [← List.drop_drop, ← first, List.drop_left] at second
    exact ⟨⟨rest, by rw [List.append_assoc, second, first]⟩, by rw [List.length_append, Nat.add_assoc]⟩

theorem stands_single (c : Char) : StandsAt text [c] i j ↔ j = i + 1 ∧ text[i]? = some c := by
  rw [StandsAt, List.singleton_prefix_iff_head?_eq_some, List.head?_drop, and_comm]
  rfl

end Standing

section Spans

variable (text : Text) (i j : Nat)

theorem parts_spans_cons (part : Expr) (earlier : List Expr) :
    (Expr.ofParts (part :: earlier)).Spans text i j ↔
      ∃ k, (Expr.ofParts earlier).Spans text i k ∧ part.Spans text k j := by
  cases earlier with
  | nil => simp [Expr.ofParts, Expr.Spans]
  | cons other more => rfl

theorem parts_spans_append (later earlier : List Expr) :
    (Expr.ofParts (later ++ earlier)).Spans text i j ↔
      ∃ k, (Expr.ofParts earlier).Spans text i k ∧ (Expr.ofParts later).Spans text k j := by
  induction later generalizing j with
  | nil => simp [Expr.ofParts, Expr.Spans]
  | cons part rest ih =>
      rw [List.cons_append, parts_spans_cons]
      simp only [ih, parts_spans_cons]
      constructor
      · rintro ⟨m, ⟨k, first, second⟩, third⟩
        exact ⟨k, first, m, second, third⟩
      · rintro ⟨k, first, m, second, third⟩
        exact ⟨m, ⟨k, first, second⟩, third⟩

theorem starred_spans_append (front behind : Text) :
    (Expr.ofStarred (front ++ behind)).Spans text i j ↔
      ∃ k, (Expr.ofStarred front).Spans text i k ∧ (Expr.ofStarred behind).Spans text k j := by
  rw [Expr.ofStarred, List.reverse_append, List.map_append]
  exact parts_spans_append text i j _ _

theorem chars_rounds_iff (set : CharSet) (n : Nat) :
    Rounds ((Expr.chars set).Spans text) n i j ↔
      ∃ found : Text, found.length = n ∧ (∀ c ∈ found, set.mem c = true) ∧ StandsAt text found i j := by
  induction n generalizing i with
  | zero => simp [Rounds, stands_nil]
  | succ n ih =>
      constructor
      · rintro ⟨k, ⟨rfl, c, there, inside⟩, rest⟩
        obtain ⟨found, size, all, stands⟩ := (ih (i + 1)).mp rest
        refine ⟨c :: found, congrArg (· + 1) size, List.forall_mem_cons.mpr ⟨inside, all⟩, ?_⟩
        exact (stands_append text i j [c] found).mpr ⟨i + 1, (stands_single text i _ c).mpr ⟨rfl, there⟩, stands⟩
      · rintro ⟨found, size, all, stands⟩
        obtain ⟨c, rest, rfl⟩ := List.exists_cons_of_length_eq_add_one size
        obtain ⟨k, first, second⟩ := (stands_append text i j [c] rest).mp stands
        obtain ⟨rfl, there⟩ := (stands_single text i k c).mp first
        obtain ⟨inside, others⟩ := List.forall_mem_cons.mp all
        exact ⟨i + 1, ⟨rfl, c, there, inside⟩, (ih (i + 1)).mpr ⟨rest, Nat.succ.inj size, others, second⟩⟩

-- A star matches any text of one line.
theorem star_spans_iff :
    (Expr.ofStarred ['*']).Spans text i j ↔ ∃ gap : Text, '\n' ∉ gap ∧ StandsAt text gap i j := by
  have inLine : ∀ c, (CharSet.compl (.single '\n')).mem c = true ↔ c ≠ '\n' := by
    intro c
    rw [CharSet.mem, Bool.not_eq_true', Bool.eq_false_iff, Ne, mem_single_iff]
  constructor
  · rintro ⟨more, -, rounds⟩
    obtain ⟨gap, -, all, stands⟩ := (chars_rounds_iff text i j _ _).mp rounds
    exact ⟨gap, fun member => (inLine '\n').mp (all '\n' member) rfl, stands⟩
  · rintro ⟨gap, line, stands⟩
    have unbounded : ∀ n, none = some n → gap.length ≤ n - 0 := fun _ same => absurd same.symm (Option.some_ne_none _)
    refine ⟨gap.length, unbounded, (chars_rounds_iff text i j _ _).mpr ⟨gap, (Nat.zero_add _).symm, ?_, stands⟩⟩
    exact fun c member => (inLine c).mpr fun same => line (same ▸ member)

-- A piece without stars matches what equals it up to case.
theorem piece_spans_iff (piece : Text) (plain : '*' ∉ piece) :
    (Expr.ofStarred piece).Spans text i j ↔ ∃ found, Alike piece found ∧ StandsAt text found i j := by
  induction piece generalizing i with
  | nil =>
      have empty : ∀ found, Alike [] found ↔ found = [] := fun found => List.forall₂_nil_left_iff
      simp only [empty, exists_eq_left, stands_nil]
      rfl
  | cons c rest ih =>
      obtain ⟨other, later⟩ := not_or.mp (List.mem_cons.not.mp plain)
      have single : ∀ k, (Expr.ofStarred [c]).Spans text i k ↔
          ∃ d, sameFold c d = true ∧ StandsAt text [d] i k := by
        intro k
        have part : Expr.ofStarred [c] = .chars (.folded (.single c)) := if_neg (Ne.symm other)
        rw [part, Expr.Spans]
        simp only [mem_folded_single_iff, stands_single]
        constructor
        · rintro ⟨rfl, d, there, same⟩
          exact ⟨d, same, rfl, there⟩
        · rintro ⟨d, same, rfl, there⟩
          exact ⟨rfl, d, there, same⟩
      rw [← List.singleton_append, starred_spans_append]
      simp only [single, ih _ later]
      constructor
      · rintro ⟨k, ⟨d, same, first⟩, found, alike, second⟩
        exact ⟨d :: found, .cons same alike, (stands_append text i j [d] found).mpr ⟨k, first, second⟩⟩
      · rintro ⟨_, _ | ⟨same, alike⟩, stands⟩
        obtain ⟨k, first, second⟩ := (stands_append text i j [_] _).mp stands
        exact ⟨k, ⟨_, same, first⟩, _, alike, second⟩

theorem pieces_spans_iff (pieces : List Text) (some : pieces ≠ []) (apart : ∀ piece ∈ pieces, '*' ∉ piece) :
    (Expr.ofStarred (['*'].intercalate pieces)).Spans text i j ↔
      ∃ found, Spelled pieces found ∧ StandsAt text found i j := by
  induction pieces generalizing i with
  | nil => exact absurd rfl some
  | cons piece rest ih =>
      obtain ⟨plain, others⟩ := List.forall_mem_cons.mp apart
      cases rest with
      | nil =>
          rw [List.intercalate_singleton, piece_spans_iff text i j piece plain]
          constructor
          · exact fun ⟨found, alike, stands⟩ => ⟨found, .last piece found alike, stands⟩
          · rintro ⟨found, spelled, stands⟩
            cases spelled with
            | last _ _ alike => exact ⟨found, alike, stands⟩
            | more _ _ _ _ _ _ _ later => cases later
      | cons next more =>
          rw [List.intercalate_cons_cons, starred_spans_append]
          simp only [starred_spans_append, piece_spans_iff text _ _ piece plain, star_spans_iff,
            ih _ (List.cons_ne_nil next more) others]
          constructor
          · rintro ⟨m, ⟨k, ⟨found, alike, first⟩, gap, line, second⟩, behind, spelled, third⟩
            refine ⟨found ++ gap ++ behind, .more piece found gap behind _ alike line spelled, ?_⟩
            exact (stands_append text i j _ _).mpr ⟨m, (stands_append text i m _ _).mpr ⟨k, first, second⟩, third⟩
          · rintro ⟨_, spelled, stands⟩
            cases spelled with
            | more _ found gap behind _ alike line spelled =>
                obtain ⟨m, front, third⟩ := (stands_append text i j _ _).mp stands
                obtain ⟨k, first, second⟩ := (stands_append text i m _ _).mp front
                exact ⟨m, ⟨k, ⟨found, alike, first⟩, gap, line, second⟩, behind, spelled, third⟩

end Spans

-- The pieces are found in a text exactly if they stand somewhere in it.
theorem pieces_found_iff (text : Text) (pieces : List Text) (some : pieces ≠ [])
    (apart : ∀ piece ∈ pieces, '*' ∉ piece) :
    (Expr.ofStarred (['*'].intercalate pieces)).matchesIn text = true ↔
      ∃ before found behind, text = before ++ found ++ behind ∧ Spelled pieces found := by
  rw [matches_in_iff]
  simp only [pieces_spans_iff text _ _ pieces some apart]
  constructor
  · rintro ⟨i, j, -, found, spelled, ⟨behind, whole⟩, -⟩
    exact ⟨text.take i, found, behind, by rw [List.append_assoc, whole, List.take_append_drop], spelled⟩
  · rintro ⟨before, found, behind, rfl, spelled⟩
    refine ⟨before.length, before.length + found.length, by simp, found, spelled, ⟨behind, ?_⟩, rfl⟩
    rw [List.append_assoc, List.drop_left]

end LinkTidy.Regex
