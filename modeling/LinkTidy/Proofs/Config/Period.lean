import LinkTidy.Config
import Mathlib.Algebra.GroupWithZero.Nat
/-!
The time between two updates. It is counted in a word of 64 bits, and the seconds of very many hours do not fit into
one.
-/

set_option autoImplicit false

namespace LinkTidy.Config

theorem validate_ok_iff (config other : Config) :
    config.validate = .ok other ↔ config = other ∧ config.filters ≠ [] ∧ config.updatePeriodHours ≠ 0 := by
  rw [validate]
  by_cases noSource : config.filters = []
  · simp [noSource]
  · by_cases noPeriod : config.updatePeriodHours = 0 <;> simp [noSource, noPeriod]

-- Wherever a configuration comes from, it is checked last, and is left as it is.
theorem resolved_checked (file : Option (Text × Except Text Text)) (extra : List Text) (config : Config)
    (accepted : resolveWith file extra = .ok config) : config.validate = .ok config := by
  have same : ∀ candidate : Config, candidate.validate = .ok config → config.validate = .ok config := by
    intro candidate passed
    obtain ⟨rfl, -⟩ := (validate_ok_iff candidate config).mp passed
    exact passed
  cases file with
  | none => exact same _ accepted
  | some file =>
      obtain ⟨path, reading⟩ := file
      cases reading with
      | error reason => cases accepted
      | ok text =>
          rw [resolveWith] at accepted
          cases found : ofJson text with
          | error fault =>
              rw [found] at accepted
              cases accepted
          | ok read =>
              rw [found] at accepted
              exact same _ accepted

-- The most hours whose seconds fit into a word.
def mostHours : Nat :=
  (2 ^ 64 - 1) / 3600

-- A product of words is the product of the numbers if it fits. Otherwise a program that checks ends, and one that does
-- not is left with the product modulo the size of a word.
theorem multiply_fitting (arithmetic : Arithmetic) (a b : UInt64) (fits : a.toNat * b.toNat < UInt64.size) :
    ∃ product, arithmetic.multiply? a b = some product ∧ product.toNat = a.toNat * b.toNat := by
  refine ⟨a * b, ?_, (UInt64.toNat_mul a b).trans (Nat.mod_eq_of_lt fits)⟩
  cases arithmetic with
  | checked => rw [Arithmetic.multiply?, if_pos fits]
  | wrapping => rfl

theorem multiply_checked (a b : UInt64) : Arithmetic.checked.multiply? a b = none ↔ UInt64.size ≤ a.toNat * b.toNat := by
  rw [Arithmetic.multiply?, ← Nat.not_lt]
  simp

theorem multiply_wrapping (a b : UInt64) :
    ∃ product, Arithmetic.wrapping.multiply? a b = some product ∧ product.toNat = a.toNat * b.toNat % UInt64.size :=
  ⟨a * b, rfl, UInt64.toNat_mul a b⟩

-- How many seconds are counted for some hours. Up to a bound they are the seconds of these hours, however the program
-- was built. Above it a program that checks its products ends, and one that does not has too few: none at all if the
-- hours are a multiple of 2 to the power 60.
structure CountsHours (hours : UInt64) (period? : Arithmetic → Option UInt64) : Prop where
  exact : hours.toNat ≤ mostHours → ∀ arithmetic, ∃ period, period? arithmetic = some period ∧
    period.toNat = hours.toNat * 3600 ∧ (1 ≤ hours.toNat → 3600 ≤ period.toNat)
  ends : period? .checked = none ↔ mostHours < hours.toNat
  wraps : ∃ period, period? .wrapping = some period ∧ period.toNat = hours.toNat * 3600 % 2 ^ 64 ∧
    (period.toNat = hours.toNat * 3600 ↔ hours.toNat ≤ mostHours) ∧ (period = 0 ↔ 2 ^ 60 ∣ hours.toNat)

theorem fits_iff (hours : UInt64) : hours.toNat * 3600 < UInt64.size ↔ hours.toNat ≤ mostHours := by
  have most : mostHours = 5124095576030431 := by decide
  rw [UInt64.size]
  omega

theorem update_period_counts (config : Config) :
    CountsHours config.updatePeriodHours fun arithmetic => updatePeriod? arithmetic config := by
  have fits := fits_iff config.updatePeriodHours
  constructor
  case exact =>
    intro few arithmetic
    obtain ⟨period, counted, same⟩ := multiply_fitting arithmetic config.updatePeriodHours 3600 (fits.mpr few)
    refine ⟨period, counted, same, fun some => ?_⟩
    rw [same]
    exact Nat.le_mul_of_pos_left 3600 some
  case ends =>
    rw [← Nat.not_le, ← fits, Nat.not_lt]
    exact multiply_checked config.updatePeriodHours 3600
  case wraps =>
    obtain ⟨period, counted, left⟩ := multiply_wrapping config.updatePeriodHours 3600
    have seconds : (3600 : UInt64).toNat = 3600 := rfl
    rw [seconds] at left
    refine ⟨period, counted, left, ?_, ?_⟩
    · rw [← fits, left, UInt64.size]
      omega
    · rw [← UInt64.toNat_inj, left, UInt64.toNat_zero, UInt64.size]
      omega

-- An accepted configuration asks for one hour or more, and up to a bound its period is exactly that. The check does not
-- look at the bound: whatever the hours are, if they are not nothing, they pass.
theorem accepted_period (file : Option (Text × Except Text Text)) (extra : List Text) (config : Config)
    (accepted : resolveWith file extra = .ok config) :
    1 ≤ config.updatePeriodHours.toNat ∧
      CountsHours config.updatePeriodHours (fun arithmetic => updatePeriod? arithmetic config) ∧
      ∀ hours, hours ≠ 0 → validate { config with updatePeriodHours := hours } =
        .ok { config with updatePeriodHours := hours } := by
  obtain ⟨-, someSource, someHour⟩ := (validate_ok_iff config config).mp (resolved_checked file extra config accepted)
  refine ⟨Nat.pos_of_ne_zero fun zero => someHour ?_, update_period_counts config, fun hours someOther => ?_⟩
  · exact UInt64.toNat_inj.mp zero
  · exact (validate_ok_iff _ _).mpr ⟨rfl, someSource, someOther⟩

theorem accepted_period_of_most_hours :
    let text := "\x7b\"update_period_hours\": 5124095576030431\x7d".toList
    ∃ config, resolveWith (some (['c'], .ok text)) [] = .ok config ∧
      ∃ period, updatePeriod? .checked config = some period ∧ period.toNat = 5124095576030431 * 3600 := by
  intro text
  let config : Config := { default with updatePeriodHours := 5124095576030431 }
  have accepted : resolveWith (some (['c'], .ok text)) [] = .ok config := by rfl
  obtain ⟨-, counts, -⟩ := accepted_period _ _ config accepted
  obtain ⟨period, counted, same, -⟩ := counts.exact (by decide) .checked
  exact ⟨config, accepted, period, counted, same⟩

-- The hours pass the check. Their seconds are too many for a word, and end just where one ends.
theorem accepted_period_beyond_word :
    let text := "\x7b\"update_period_hours\": 1152921504606846976\x7d".toList
    ∃ config, resolveWith (some (['c'], .ok text)) [] = .ok config ∧
      config.updatePeriodHours.toNat = 1152921504606846976 ∧ updatePeriod? .checked config = none ∧
        updatePeriod? .wrapping config = some 0 := by
  exact ⟨{ default with updatePeriodHours := 1152921504606846976 }, by rfl, by decide +kernel⟩

end LinkTidy.Config
