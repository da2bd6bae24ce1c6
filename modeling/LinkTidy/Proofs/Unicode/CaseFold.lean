import LinkTidy.Unicode.CharSet
import Mathlib.Data.List.Chain
/-!
Case folding: folded forms are folded to themselves, and the variants of a character are the characters that share its
folded form.
-/

set_option autoImplicit false

namespace LinkTidy.Unicode

-- Numbers of characters, neither of surrogates nor past the last character.
def IsCharRun (first last : Nat) : Prop :=
  last < 0xD800 ∨ (0xDFFF < first ∧ last < 0x110000)

namespace CaseRun

def Before (a b : CaseRun) : Prop :=
  a.last < b.first ∧ b.first ≤ b.last

-- Nothing that run `a` folds to is held by run `b`: it lies before or behind it, or between its steps.
def misses (a b : CaseRun) : Bool :=
  (a.target + (a.last - a.first)).blt b.first || b.last.blt a.target ||
    (b.step == 2 && (a.step == 2 || a.first == a.last) && (a.target + b.first) % 2 == 1)

instance (a b : CaseRun) : Decidable (a.Before b) :=
  inferInstanceAs (Decidable (_ ∧ _))

instance : IsTrans CaseRun Before where
  trans a b c first second := by
    have middle := first.2
    have ends := first.1
    have starts := second.1
    exact ⟨by omega, second.2⟩

end CaseRun

instance (first last : Nat) : Decidable (IsCharRun first last) :=
  inferInstanceAs (Decidable (_ ∨ _))

theorem case_runs_chained : caseRuns.IsChain CaseRun.Before := by decide +kernel

theorem case_runs_miss : (caseRuns.all fun a => caseRuns.all a.misses) = true := by decide +kernel

theorem case_runs_of_chars :
    ∀ run ∈ caseRuns, IsCharRun run.first run.last ∧ IsCharRun run.target (run.target + (run.last - run.first)) := by
  decide +kernel

theorem fold_some_iff (run : CaseRun) (n f : Nat) :
    run.fold? n = some f ↔
      (run.first ≤ n ∧ n ≤ run.last ∧ (n - run.first) % run.step = 0) ∧ f = run.target + (n - run.first) := by
  rw [CaseRun.fold?]
  split <;> simp_all [eq_comm]

theorem preimage_some_iff (run : CaseRun) (n f : Nat) : run.preimage? f = some n ↔ run.fold? n = some f := by
  rw [fold_some_iff, CaseRun.preimage?]
  split
  case isTrue inside =>
    constructor
    · intro same
      cases same
      rw [Nat.add_sub_cancel_left]
      exact ⟨⟨Nat.le_add_right _ _, inside.2⟩, by omega⟩
    · rintro ⟨⟨least, -, -⟩, rfl⟩
      exact congrArg some (by omega)
  case isFalse outside =>
    constructor
    · exact nofun
    · rintro ⟨⟨least, most, stepped⟩, rfl⟩
      rw [Nat.add_sub_cancel_left] at outside
      exact absurd ⟨Nat.le_add_right _ _, by omega, stepped⟩ outside

theorem fold_ordered (runs : List CaseRun) (ordered : runs.Pairwise CaseRun.Before) (run : CaseRun) (member : run ∈ runs)
    (n f : Nat) (folds : run.fold? n = some f) : runs.findSome? (·.fold? n) = some f := by
  induction runs with
  | nil => cases member
  | cons first rest ih =>
      rw [List.pairwise_cons] at ordered
      rw [List.findSome?_cons]
      rcases List.mem_cons.mp member with rfl | later
      · rw [folds]
      · have none : first.fold? n = none := by
          rw [Option.eq_none_iff_forall_ne_some]
          intro other same
          have before := (ordered.1 run later).1
          have inFirst := ((fold_some_iff first n other).mp same).1
          have inRun := ((fold_some_iff run n f).mp folds).1
          omega
        rw [none]
        exact ih ordered.2 later

theorem fold_code_of_run (run : CaseRun) (member : run ∈ caseRuns) (n f : Nat) (folds : run.fold? n = some f) :
    foldCode n = f := by
  rw [foldCode, fold_ordered caseRuns (List.isChain_iff_pairwise.mp case_runs_chained) run member n f folds,
    Option.getD_some]

theorem fold_code_cases (n : Nat) : foldCode n = n ∨ ∃ run ∈ caseRuns, run.fold? n = some (foldCode n) := by
  cases found : caseRuns.findSome? (·.fold? n) with
  | none => exact .inl (by rw [foldCode, found, Option.getD_none])
  | some f =>
      obtain ⟨run, member, folds⟩ := List.exists_of_findSome?_eq_some found
      exact .inr ⟨run, member, by rw [foldCode, found, Option.getD_some, folds]⟩

theorem misses_folded (a b : CaseRun) (misses : a.misses b = true) (n f : Nat) (folds : a.fold? n = some f) :
    b.fold? f = none := by
  obtain ⟨⟨least, most, stepped⟩, rfl⟩ := (fold_some_iff a n f).mp folds
  rw [Option.eq_none_iff_forall_ne_some]
  intro other again
  obtain ⟨⟨least', most', stepped'⟩, -⟩ := (fold_some_iff b _ other).mp again
  simp only [CaseRun.misses, Bool.or_eq_true, Bool.and_eq_true, Nat.blt_eq, beq_iff_eq] at misses
  rcases misses with (before | behind) | ⟨⟨two, single | single⟩, odd⟩
  · omega
  · omega
  · rw [two] at stepped'
    rw [single] at stepped
    omega
  · rw [two] at stepped'
    omega

theorem fold_code_idempotent (n : Nat) : foldCode (foldCode n) = foldCode n := by
  rcases fold_code_cases n with same | ⟨run, member, folds⟩
  · rw [same, same]
  · have missed : caseRuns.findSome? (·.fold? (foldCode n)) = none := by
      rw [List.findSome?_eq_none_iff]
      intro other inside
      have misses := List.all_eq_true.mp (List.all_eq_true.mp case_runs_miss run member) other inside
      exact misses_folded run other misses n _ folds
    rw [foldCode, missed, Option.getD_none]

theorem char_run_valid (first last n : Nat) (run : IsCharRun first last) (least : first ≤ n) (most : n ≤ last) :
    n.isValidChar := by
  rw [IsCharRun] at run
  rw [Nat.isValidChar]
  omega

theorem fold_code_valid (c : Char) : (foldCode c.toNat).isValidChar := by
  rcases fold_code_cases c.toNat with same | ⟨run, member, folds⟩
  · rw [same]
    exact c.valid
  · obtain ⟨inside, target⟩ := (fold_some_iff run _ _).mp folds
    exact char_run_valid _ _ _ (case_runs_of_chars run member).2 (by omega) (by omega)

theorem char_of_valid (n : Nat) (valid : n.isValidChar) : (Char.ofNat n).toNat = n := by
  rw [Char.ofNat, dif_pos valid]
  rfl

-- A character is a variant of another one exactly if both are folded alike.
theorem mem_case_variants_iff (c d : Char) : c ∈ caseVariants d ↔ sameFold c d = true := by
  rw [sameFold, beq_iff_eq, caseVariants, List.mem_map]
  constructor
  · rintro ⟨n, listed, rfl⟩
    rcases List.mem_cons.mp listed with rfl | held
    · rw [char_of_valid _ (fold_code_valid d), fold_code_idempotent]
    · obtain ⟨run, member, back⟩ := List.mem_filterMap.mp held
      have folds := (preimage_some_iff run n _).mp back
      obtain ⟨inside, -⟩ := (fold_some_iff run n _).mp folds
      rw [char_of_valid n (char_run_valid _ _ n (case_runs_of_chars run member).1 inside.1 inside.2.1)]
      exact fold_code_of_run run member n _ folds
  · intro same
    refine ⟨c.toNat, ?_, Char.ofNat_toNat c⟩
    rw [← same]
    rcases fold_code_cases c.toNat with own | ⟨run, member, folds⟩
    · exact own.symm ▸ List.mem_cons_self
    · exact List.mem_cons_of_mem _ (List.mem_filterMap.mpr ⟨run, member, (preimage_some_iff run _ _).mpr folds⟩)

theorem mem_single_iff (c d : Char) : (CharSet.single c).mem d = true ↔ d = c := by
  rw [CharSet.single, CharSet.mem, Bool.and_eq_true, decide_eq_true_iff, decide_eq_true_iff]
  constructor
  · exact fun bounds => Char.toNat_inj.mp (Nat.le_antisymm bounds.2 bounds.1)
  · rintro rfl
    exact ⟨Nat.le_refl _, Nat.le_refl _⟩

theorem mem_folded_single_iff (c d : Char) : (CharSet.folded (.single c)).mem d = true ↔ sameFold c d = true := by
  rw [CharSet.mem, List.any_eq_true, ← mem_case_variants_iff]
  constructor
  · rintro ⟨variant, listed, inside⟩
    exact (mem_single_iff c variant).mp inside ▸ listed
  · exact fun listed => ⟨c, listed, (mem_single_iff c c).mpr rfl⟩

end LinkTidy.Unicode
