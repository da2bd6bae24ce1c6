import LinkTidy.Proofs.Regex.Search
import LinkTidy.Proofs.Unicode.CaseFold
import LinkTidy.Regex.Pattern
/-!
Patterns of stars and literal characters: a star is written as any characters of a line, and all else is escaped. Such a
text is always a regular expression, and its matches are the pieces between the stars, one behind the other.
-/

set_option autoImplicit false

namespace LinkTidy.Regex

open LinkTidy.Unicode

-- The expression that a text writes, however large it is.
def Expr.IsWritten (e : Expr) (source : Text) : Prop :=
  ∃ tree flags, Tree.ofPattern? source = some tree ∧ Expr.ofTree? {} tree = some (e, flags)

theorem of_text_bounded (e : Expr) (source : Text) (written : e.IsWritten source) (bounded : e.size ≤ maxSize) :
    ∃ p, Pattern.ofText? source = some p ∧ p.expr = e := by
  obtain ⟨tree, flags, read, meant⟩ := written
  have whole : Expr.ofPattern? source = some e := by
    simp [Expr.ofPattern?, read, meant, bounded]
  rw [Pattern.ofText?]
  split
  case h_1 other same => exact ⟨_, rfl, Option.some.inj (same.symm.trans whole)⟩
  case h_2 none => exact absurd (none.symm.trans whole) nofun

def starredText (c : Char) : Text :=
  if c = '*' then ['.', '*', '?'] else Pattern.escape [c]

def starredTree (c : Char) : Tree :=
  if c = '*' then .repetition 0 none .dot else .literal { char := c }

def starredExpr (c : Char) : Expr :=
  if c = '*' then .repetition 0 none (.chars (.compl (.single '\n'))) else .chars (.folded (.single c))

-- Joins parts, the last one first.
def Expr.ofParts : List Expr → Expr
  | [] => .empty
  | [part] => part
  | part :: earlier => .sequence (Expr.ofParts earlier) part

def Expr.ofStarred (segment : Text) : Expr :=
  .ofParts (segment.reverse.map starredExpr)

theorem read_part_literal (r : ParserState) (c : Char) (rest : Text) (plain : isMeta c = false) :
    readPart r c rest = some (r.push (.literal { char := c }), rest) := by
  rw [readPart.eq_def]
  split
  case h_13 => rfl
  all_goals exact absurd plain (by decide)

theorem read_escape_meta (c : Char) (rest : Text) (special : isMeta c = true) :
    readEscape false (c :: rest) = some (.literal { char := c }, rest) := by
  rw [readEscape.eq_def]
  dsimp only
  split
  case h_24 => rw [isEscapable, special, Bool.true_or, if_pos rfl]
  all_goals exact absurd special (by decide)

section

variable (r : ParserState) (kept : r.ignoreSpace = false) (fuel : Nat)

include kept

theorem read_all_part (c : Char) (rest behind : Text) (next : ParserState)
    (read : readPart r c rest = some (next, behind)) : readAll (fuel + 1) r (c :: rest) = readAll fuel next behind := by
  have whole : skip r.ignoreSpace (c :: rest) = c :: rest := by rw [kept]; rfl
  rw [readAll, whole]
  exact congrArg (Option.bind · _) read

theorem read_all_done : readAll (fuel + 1) r [] = some r := by
  have whole : skip r.ignoreSpace [] = [] := by rw [kept]; rfl
  rw [readAll, whole]

theorem read_all_star (rest : Text) :
    readAll (fuel + 2) r (starredText '*' ++ rest) = readAll fuel (r.push (starredTree '*')) rest :=
  (read_all_part r kept (fuel + 1) '.' ('*' :: '?' :: rest) _ (r.push .dot) rfl).trans
    (read_all_part (r.push .dot) kept fuel '*' ('?' :: rest) rest _ rfl)

theorem read_all_literal (c : Char) (other : c ≠ '*') (rest : Text) :
    readAll (fuel + 1) r (starredText c ++ rest) = readAll fuel (r.push (starredTree c)) rest := by
  rw [starredText, if_neg other, starredTree, if_neg other, Pattern.escape, List.flatMap_singleton]
  by_cases special : isMeta c = true
  · rw [if_pos special]
    refine read_all_part r kept fuel '\\' (c :: rest) rest _ ?_
    rw [readPart, kept, read_escape_meta c rest special]
    rfl
  · rw [if_neg special]
    exact read_all_part r kept fuel c rest rest _ (read_part_literal r c rest (Bool.eq_false_iff.mpr special))

end

theorem starred_text_length (c : Char) : (if c = '*' then 2 else 1) ≤ (starredText c).length := by
  rw [starredText]
  split
  · decide
  · rw [Pattern.escape, List.flatMap_singleton]
    split <;> simp

-- Every character takes one step, and a star two; neither takes more steps than it is written with characters.
theorem read_all_starred (text : Text) (r : ParserState) (kept : r.ignoreSpace = false) (fuel : Nat)
    (enough : (text.flatMap starredText).length < fuel) :
    readAll fuel r (text.flatMap starredText) =
      some { r with parts := (text.map starredTree).reverse ++ r.parts } := by
  induction text generalizing r fuel with
  | nil =>
      obtain ⟨more, rfl⟩ := Nat.exists_eq_add_of_lt enough
      exact read_all_done r kept _
  | cons c rest ih =>
      have parts : ((c :: rest).map starredTree).reverse = (rest.map starredTree).reverse ++ [starredTree c] := by
        rw [List.map_cons, List.reverse_cons]
      have long := starred_text_length c
      rw [List.flatMap_cons, List.length_append] at enough
      rw [List.flatMap_cons, parts, List.append_assoc, List.singleton_append]
      by_cases star : c = '*'
      · subst star
        rw [if_pos rfl] at long
        obtain ⟨more, rfl⟩ := Nat.exists_eq_add_of_le (show 2 ≤ fuel by omega)
        rw [Nat.add_comm 2 more, read_all_star r kept more, ih (r.push _) kept more (by omega)]
        rfl
      · rw [if_neg star] at long
        obtain ⟨more, rfl⟩ := Nat.exists_eq_add_of_le (show 1 ≤ fuel by omega)
        rw [Nat.add_comm 1 more, read_all_literal r kept more c star, ih (r.push _) kept more (by omega)]
        rfl

theorem starred_tree_flat (run : Run) (c : Char) : (starredTree c).depth run ≤ 1 := by
  rw [starredTree]
  split
  · exact Nat.le_refl 1
  · exact Nat.zero_le 1

theorem starred_parts_flat (text : Text) : (Tree.ofParts (text.map starredTree)).depth .parts ≤ 1 := by
  induction text with
  | nil => exact Nat.zero_le 1
  | cons c earlier ih =>
      cases earlier with
      | nil => exact starred_tree_flat .parts c
      | cons d more => exact Nat.max_le.mpr ⟨ih, starred_tree_flat .none c⟩

theorem starred_depth (text : Text) : (Tree.ofParts (text.map starredTree)).depth .none ≤ maxDepth := by
  cases text with
  | nil => exact Nat.zero_le _
  | cons c earlier =>
      cases earlier with
      | nil => exact (starred_tree_flat .none c).trans (by decide)
      | cons d more =>
          have flat := starred_parts_flat (d :: more)
          have single := starred_tree_flat .none c
          have bound : 1 + max ((Tree.ofParts ((d :: more).map starredTree)).depth .parts)
              ((starredTree c).depth .none) ≤ maxDepth := by
            rw [maxDepth]
            omega
          exact bound

theorem of_tree_starred (c : Char) : Expr.ofTree? {} (starredTree c) = some (starredExpr c, {}) := by
  rw [starredTree, starredExpr]
  split <;> rfl

theorem of_tree_parts (text : Text) :
    Expr.ofTree? {} (Tree.ofParts (text.map starredTree)) = some (Expr.ofParts (text.map starredExpr), {}) := by
  induction text with
  | nil => rfl
  | cons c earlier ih =>
      cases earlier with
      | nil => exact of_tree_starred c
      | cons d more =>
          have tree : Tree.ofParts ((c :: d :: more).map starredTree) =
              .sequence (Tree.ofParts ((d :: more).map starredTree)) (starredTree c) := rfl
          rw [tree, Expr.ofTree?, ih]
          simp only [of_tree_starred, Option.bind_eq_bind, Option.bind_some]
          rfl

theorem starred_written (segment : Text) : (Expr.ofStarred segment).IsWritten (segment.flatMap starredText) := by
  refine ⟨Tree.ofParts (segment.reverse.map starredTree), {}, ?_, of_tree_parts segment.reverse⟩
  have read := read_all_starred segment {} rfl _ (Nat.lt_succ_self _)
  rw [List.append_nil, ← List.map_reverse] at read
  rw [Tree.ofPattern?, read]
  exact if_pos (Bool.and_eq_true_iff.mpr ⟨rfl, decide_eq_true (starred_depth segment.reverse)⟩)

end LinkTidy.Regex
