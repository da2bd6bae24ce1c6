import LinkTidy.Regex.Search
/-!
What a search finds. The matches of an expression are told by the places where they start and end; the search carries
every set of places to the places where the matches that start there end.
-/

set_option autoImplicit false

namespace LinkTidy.Regex

-- A number of moves, one behind the other.
def Rounds (moves : Nat → Nat → Prop) : Nat → Nat → Nat → Prop
  | 0, i, j => i = j
  | n + 1, i, j => ∃ k, moves i k ∧ Rounds moves n k j

-- The character before a place.
def charBefore (text : Text) (i : Nat) : Option Char :=
  if i = 0 then none else text[i - 1]?

-- A match of the expression goes from place `i` of the text to place `j`.
def Expr.Spans (text : Text) : Expr → Nat → Nat → Prop
  | .empty, i, j => i = j
  | .chars set, i, j => j = i + 1 ∧ ∃ c, text[i]? = some c ∧ set.mem c = true
  | .anchor a, i, j => i = j ∧ i ≤ text.length ∧ a.holds (charBefore text i) text[i]? = true
  | .repetition least most body, i, j =>
      ∃ more, (∀ n, most = some n → more ≤ n - least) ∧ Rounds (body.Spans text) (least + more) i j
  | .sequence a b, i, j => ∃ k, a.Spans text i k ∧ b.Spans text k j
  | .choice a b, i, j => a.Spans text i j ∨ b.Spans text i j

theorem rounds_add (moves : Nat → Nat → Prop) (m n i j : Nat) :
    Rounds moves (m + n) i j ↔ ∃ k, Rounds moves m i k ∧ Rounds moves n k j := by
  induction m generalizing i with
  | zero => simp [Rounds]
  | succ m ih =>
      rw [Nat.add_right_comm, Rounds]
      constructor
      · rintro ⟨next, move, rest⟩
        obtain ⟨k, first, second⟩ := (ih next).mp rest
        exact ⟨k, ⟨next, move, first⟩, second⟩
      · rintro ⟨k, ⟨next, move, first⟩, second⟩
        exact ⟨next, move, (ih next).mpr ⟨k, first, second⟩⟩

-- Moves that never go back, and never past the end.
def Forward (length : Nat) (moves : Nat → Nat → Prop) : Prop :=
  ∀ i j, moves i j → i = j ∨ (i < j ∧ j ≤ length)

theorem rounds_forward (length : Nat) (moves : Nat → Nat → Prop) (forward : Forward length moves) (n : Nat) :
    Forward length (Rounds moves n) := by
  induction n with
  | zero => exact fun i j same => .inl same
  | succ n ih =>
      rintro i j ⟨k, move, rest⟩
      have first := forward i k move
      have second := ih k j rest
      omega

-- Rounds that stay where they are can be left out, so there need not be more rounds than characters between the places.
theorem rounds_shorten (length : Nat) (moves : Nat → Nat → Prop) (forward : Forward length moves) (n i j : Nat)
    (rounds : Rounds moves n i j) : ∃ m ≤ j - i, Rounds moves m i j := by
  induction n generalizing i with
  | zero => exact ⟨0, Nat.zero_le _, rounds⟩
  | succ n ih =>
      obtain ⟨k, move, rest⟩ := rounds
      obtain ⟨m, few, shorter⟩ := ih k rest
      rcases forward i k move with rfl | ⟨ahead, -⟩
      · exact ⟨m, few, shorter⟩
      · have behind := rounds_forward length moves forward n k j rest
        exact ⟨m + 1, by omega, k, move, shorter⟩

theorem rounds_bounded (length : Nat) (moves : Nat → Nat → Prop) (forward : Forward length moves) (n i j : Nat)
    (rounds : Rounds moves n i j) : ∃ m ≤ length + 1, Rounds moves m i j := by
  obtain ⟨m, few, shorter⟩ := rounds_shorten length moves forward n i j rounds
  have ends := rounds_forward length moves forward n i j rounds
  exact ⟨m, by omega, shorter⟩

theorem spans_forward (text : Text) (e : Expr) : Forward text.length (e.Spans text) := by
  induction e with
  | empty => exact fun i j same => .inl same
  | chars set =>
      rintro i j ⟨rfl, c, there, -⟩
      obtain ⟨inside, -⟩ := List.getElem?_eq_some_iff.mp there
      exact .inr ⟨Nat.lt_succ_self i, inside⟩
  | anchor a => exact fun i j spans => .inl spans.1
  | repetition least most body ih =>
      rintro i j ⟨more, -, rounds⟩
      exact rounds_forward text.length _ ih _ i j rounds
  | sequence a b first second =>
      rintro i j ⟨k, front, behind⟩
      have start := first i k front
      have stop := second k j behind
      omega
  | choice a b first second =>
      rintro i j (spans | spans)
      · exact first i j spans
      · exact second i j spans

theorem double_bit (n : Nat) (b : Bool) (i : Nat) :
    (2 * n + if b = true then 1 else 0).testBit i = if i = 0 then b else n.testBit (i - 1) := by
  cases i with
  | zero => cases b <;> simp
  | succ i =>
      have half : (2 * n + if b = true then 1 else 0) / 2 = n := by
        split <;> omega
      rw [Nat.testBit_succ, half, if_neg (Nat.succ_ne_zero i), Nat.add_sub_cancel]

theorem places_before_bit (test : Char → Bool) (text : Text) (i : Nat) :
    (placesBefore test text).testBit i = true ↔ ∃ c, text[i]? = some c ∧ test c = true := by
  induction text generalizing i with
  | nil => simp [placesBefore]
  | cons c rest ih =>
      rw [placesBefore, double_bit]
      cases i with
      | zero => simp
      | succ i => rw [if_neg (Nat.succ_ne_zero i), Nat.add_sub_cancel, ih, List.getElem?_cons_succ]

theorem places_between_bit (test : Option Char → Option Char → Bool) (before : Option Char) (text : Text) (i : Nat) :
    (placesBetween test before text).testBit i = true ↔
      i ≤ text.length ∧ test (if i = 0 then before else text[i - 1]?) text[i]? = true := by
  induction text generalizing before i with
  | nil =>
      have single := double_bit 0 (test before none) i
      rw [Nat.mul_zero, Nat.zero_add] at single
      rw [placesBetween, single]
      cases i with
      | zero => simp
      | succ i => simp
  | cons c rest ih =>
      rw [placesBetween, double_bit]
      cases i with
      | zero => simp
      | succ i =>
          rw [if_neg (Nat.succ_ne_zero i), if_neg (Nat.succ_ne_zero i), Nat.add_sub_cancel, ih, List.getElem?_cons_succ,
            List.length_cons, Nat.succ_le_succ_iff]
          cases i with
          | zero => simp
          | succ i => simp

-- A step on sets of places that makes the given moves from each of them.
def Carries (step : Places → Places) (moves : Nat → Nat → Prop) : Prop :=
  ∀ places j, (step places).testBit j = true ↔ ∃ i, places.testBit i = true ∧ moves i j

section

variable (step : Places → Places) (moves : Nat → Nat → Prop) (carries : Carries step moves)

include carries

theorem iterate_carries (n : Nat) : Carries (iterate step n) (Rounds moves n) := by
  induction n with
  | zero => exact fun places j => ⟨fun there => ⟨j, there, rfl⟩, fun ⟨i, there, same⟩ => same ▸ there⟩
  | succ n ih =>
      intro places j
      rw [iterate, ih]
      constructor
      · rintro ⟨k, reached, rest⟩
        obtain ⟨i, there, move⟩ := (carries places k).mp reached
        exact ⟨i, there, k, move, rest⟩
      · rintro ⟨i, there, k, move, rest⟩
        exact ⟨k, (carries places k).mpr ⟨i, there, move⟩, rest⟩

-- Places from which no move leads to a new one are not left by any number of moves.
theorem rounds_inside (places : Places) (closed : places ||| step places = places) (n i j : Nat)
    (there : places.testBit i = true) (rounds : Rounds moves n i j) : places.testBit j = true := by
  induction n generalizing i with
  | zero => exact rounds ▸ there
  | succ n ih =>
      obtain ⟨k, move, rest⟩ := rounds
      have reached := (carries places k).mpr ⟨i, there, move⟩
      refine ih k ?_ rest
      rw [← closed, Nat.testBit_or, reached, Bool.or_true]

theorem spread_carries (n : Nat) : Carries (spread step n) (fun i j => ∃ m ≤ n, Rounds moves m i j) := by
  induction n with
  | zero =>
      intro places j
      constructor
      · exact fun there => ⟨j, there, 0, Nat.le_refl 0, rfl⟩
      · rintro ⟨i, there, m, few, rounds⟩
        cases Nat.le_zero.mp few
        exact rounds ▸ there
  | succ n ih =>
      intro places j
      rw [spread]
      by_cases closed : places ||| step places = places
      · rw [if_pos closed]
        constructor
        · exact fun there => ⟨j, there, 0, Nat.zero_le _, rfl⟩
        · rintro ⟨i, there, m, -, rounds⟩
          exact rounds_inside step moves carries places closed m i j there rounds
      · rw [if_neg closed, ih]
        constructor
        · rintro ⟨k, wide, m, few, rounds⟩
          rw [Nat.testBit_or, Bool.or_eq_true] at wide
          rcases wide with there | reached
          · exact ⟨k, there, m, by omega, rounds⟩
          · obtain ⟨i, there, move⟩ := (carries places k).mp reached
            exact ⟨i, there, m + 1, by omega, k, move, rounds⟩
        · rintro ⟨i, there, m, few, rounds⟩
          cases m with
          | zero => exact ⟨i, by rw [Nat.testBit_or, there, Bool.true_or], 0, Nat.zero_le _, rounds⟩
          | succ m =>
              obtain ⟨k, move, rest⟩ := rounds
              have reached := (carries places k).mpr ⟨i, there, move⟩
              exact ⟨k, by rw [Nat.testBit_or, reached, Bool.or_true], m, by omega, rest⟩

end

theorem run_carries (text : Text) (e : Expr) : Carries ((e.plan text).run text.length) (e.Spans text) := by
  induction e with
  | empty => exact fun places j => ⟨fun there => ⟨j, there, rfl⟩, fun ⟨i, there, same⟩ => same ▸ there⟩
  | chars set =>
      intro places j
      have bit := double_bit (places &&& placesBefore set.mem text) false j
      rw [if_neg Bool.false_ne_true, Nat.add_zero] at bit
      rw [Expr.plan, Plan.run, bit]
      cases j with
      | zero => simp [Expr.Spans]
      | succ j =>
          rw [if_neg (Nat.succ_ne_zero j), Nat.add_sub_cancel, Nat.testBit_and, Bool.and_eq_true, places_before_bit]
          constructor
          · exact fun ⟨there, allowed⟩ => ⟨j, there, rfl, allowed⟩
          · rintro ⟨i, there, same, allowed⟩
            cases same
            exact ⟨there, allowed⟩
  | anchor a =>
      intro places j
      rw [Expr.plan, Plan.run, Nat.testBit_and, Bool.and_eq_true, places_between_bit]
      constructor
      · exact fun ⟨there, inside, holds⟩ => ⟨j, there, rfl, inside, holds⟩
      · rintro ⟨i, there, rfl, inside, holds⟩
        exact ⟨there, inside, holds⟩
  | repetition least most body ih =>
      intro places j
      have needed := iterate_carries _ _ ih least
      have further := spread_carries _ _ ih
      refine (further _ (iterate _ least places) j).trans ?_
      constructor
      · rintro ⟨k, reached, more, few, rest⟩
        obtain ⟨i, there, first⟩ := (needed places k).mp reached
        refine ⟨i, there, more, ?_, (rounds_add _ least more i j).mpr ⟨k, first, rest⟩⟩
        rintro n rfl
        exact few
      · rintro ⟨i, there, more, few, rounds⟩
        obtain ⟨k, first, rest⟩ := (rounds_add _ least more i j).mp rounds
        refine ⟨k, (needed places k).mpr ⟨i, there, first⟩, ?_⟩
        cases most with
        | some n => exact ⟨more, few n rfl, rest⟩
        | none => exact rounds_bounded text.length _ (spans_forward text body) more k j rest
  | sequence a b first second =>
      intro places j
      rw [Expr.plan, Plan.run, second]
      constructor
      · rintro ⟨k, reached, behind⟩
        obtain ⟨i, there, front⟩ := (first places k).mp reached
        exact ⟨i, there, k, front, behind⟩
      · rintro ⟨i, there, k, front, behind⟩
        exact ⟨k, (first places k).mpr ⟨i, there, front⟩, behind⟩
  | choice a b first second =>
      intro places j
      rw [Expr.plan, Plan.run, Nat.testBit_or, Bool.or_eq_true, first, second]
      constructor
      · rintro (⟨i, there, spans⟩ | ⟨i, there, spans⟩)
        · exact ⟨i, there, .inl spans⟩
        · exact ⟨i, there, .inr spans⟩
      · rintro ⟨i, there, spans | spans⟩
        · exact .inl ⟨i, there, spans⟩
        · exact .inr ⟨i, there, spans⟩

-- The search finds a match exactly if there is one, wherever it starts and ends.
theorem matches_in_iff (e : Expr) (text : Text) :
    e.matchesIn text = true ↔ ∃ i j, i ≤ text.length ∧ e.Spans text i j := by
  rw [Expr.matchesIn, bne_iff_ne]
  have started : ∀ i, (allPlaces text.length).testBit i = true ↔ i ≤ text.length := by
    intro i
    rw [← Nat.lt_succ_iff]
    exact (congrArg (· = true) (Nat.testBit_two_pow_sub_one _ i)).to_iff.trans decide_eq_true_iff
  constructor
  · intro some
    obtain ⟨j, ends⟩ := Nat.exists_testBit_of_ne_zero some
    obtain ⟨i, start, spans⟩ := (run_carries text e _ j).mp ends
    exact ⟨i, j, (started i).mp start, spans⟩
  · rintro ⟨i, j, start, spans⟩ none
    have ends := (run_carries text e _ j).mpr ⟨i, (started i).mpr start, spans⟩
    rw [none, Nat.zero_testBit] at ends
    cases ends

end LinkTidy.Regex
