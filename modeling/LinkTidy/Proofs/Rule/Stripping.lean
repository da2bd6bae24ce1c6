import LinkTidy.Rule
/-!
What a list of rules does to an address: it removes the pairs that some rule strips, and it counts no hit exactly when
no rule strips a pair.
-/

set_option autoImplicit false

namespace LinkTidy.Rule

-- Whether the rule removes a pair from an address with this original text.
def strips (rule : Rule) (original pair : Text) : Bool :=
  rule.admits original && rule.param.accepts pair

-- Whether one of the rules does.
def stripped (rules : List Rule) (original pair : Text) : Bool :=
  rules.any fun rule => rule.strips original pair

-- The pairs that no rule strips.
def kept (rules : List Rule) (model : UrlModel) : List Text :=
  model.pairs.filter fun pair => !stripped rules model.url.original pair

theorem stripped_cons (rule : Rule) (rest : List Rule) (original pair : Text) :
    stripped (rule :: rest) original pair = (rule.strips original pair || stripped rest original pair) := rfl

theorem stripped_congr (some others : List Rule) (same : ∀ rule, rule ∈ some ↔ rule ∈ others) (original pair : Text) :
    stripped some original pair = stripped others original pair := by
  rw [Bool.eq_iff_iff, stripped, stripped, List.any_eq_true, List.any_eq_true]
  simp only [same]

theorem kept_congr (some others : List Rule) (same : ∀ rule, rule ∈ some ↔ rule ∈ others) (model : UrlModel) :
    kept some model = kept others model := by
  rw [kept, kept]
  simp only [stripped_congr some others same]

theorem filter_unstripped (test : Text → Bool) (pairs : List Text) (none : ∀ pair ∈ pairs, test pair = false) :
    (pairs.filter fun pair => !test pair) = pairs := by
  apply List.filter_eq_self.mpr
  intro pair member
  rw [none pair member]
  rfl

theorem apply_model (rule : Rule) (model : UrlModel) :
    rule.apply model =
      ({ model with pairs := model.pairs.filter fun pair => !rule.strips model.url.original pair },
        model.pairs.any (rule.strips model.url.original)) := by
  by_cases admitted : rule.admits model.url.original = true
  · have same : rule.strips model.url.original = rule.param.accepts := by
      funext pair
      rw [strips, admitted, Bool.true_and]
    rw [apply, if_pos admitted, UrlModel.removePairs, same]
  · have never : ∀ pair ∈ model.pairs, rule.strips model.url.original pair = false := by
      intro pair _
      rw [strips, Bool.eq_false_iff.mpr admitted, Bool.false_and]
    have none : model.pairs.any (rule.strips model.url.original) = false := by
      rw [List.any_eq_false]
      intro pair member
      rw [never pair member]
      exact Bool.false_ne_true
    rw [apply, if_neg admitted, filter_unstripped _ _ never, none]

-- One step of `applyAll`.
def applyNext (state : UrlModel × Nat) (rule : Rule) : UrlModel × Nat :=
  ((rule.apply state.1).1, if (rule.apply state.1).2 then state.2 + 1 else state.2)

theorem apply_steps_model (rules : List Rule) (model : UrlModel) (hits : Nat) :
    (rules.foldl applyNext (model, hits)).1 = { model with pairs := kept rules model } := by
  induction rules generalizing model hits with
  | nil =>
      have all : kept [] model = model.pairs := filter_unstripped _ _ fun _ _ => rfl
      rw [all]
      rfl
  | cons rule rest ih =>
      rw [List.foldl_cons, applyNext, ih, apply_model]
      simp only [kept, List.filter_filter, stripped_cons, Bool.not_or, Bool.and_comm]

theorem apply_steps_hits (rules : List Rule) (model : UrlModel) (hits : Nat) :
    hits ≤ (rules.foldl applyNext (model, hits)).2 := by
  induction rules generalizing model hits with
  | nil => exact Nat.le_refl hits
  | cons rule rest ih =>
      rw [List.foldl_cons, applyNext]
      cases (rule.apply model).2 with
      | false => exact ih _ hits
      | true => exact Nat.le_trans (Nat.le_succ hits) (ih _ (hits + 1))

theorem apply_steps_no_hit (rules : List Rule) (model : UrlModel) (hits : Nat) :
    (rules.foldl applyNext (model, hits)).2 = hits ↔
      ∀ pair ∈ model.pairs, stripped rules model.url.original pair = false := by
  induction rules generalizing model hits with
  | nil => exact ⟨fun _ _ _ => rfl, fun _ => rfl⟩
  | cons rule rest ih =>
      rw [List.foldl_cons, applyNext, apply_model]
      by_cases any : model.pairs.any (rule.strips model.url.original) = true
      · -- The count has already grown, and it never falls again.
        have grown := apply_steps_hits rest
          { model with pairs := model.pairs.filter fun pair => !rule.strips model.url.original pair } (hits + 1)
        rw [if_pos any]
        obtain ⟨pair, member, strip⟩ := List.any_eq_true.mp any
        constructor
        · intro same
          exact absurd (Nat.le_of_eq same) (Nat.not_le_of_lt grown)
        · intro none
          have unstripped := none pair member
          rw [stripped_cons, strip, Bool.true_or] at unstripped
          exact absurd unstripped Bool.noConfusion
      · have none : ∀ pair ∈ model.pairs, rule.strips model.url.original pair = false := by
          intro pair member
          exact Bool.eq_false_iff.mpr fun strip => any (List.any_eq_true.mpr ⟨pair, member, strip⟩)
        rw [if_neg any, filter_unstripped _ _ none, ih]
        constructor
        · intro unstripped pair member
          rw [stripped_cons, none pair member, unstripped pair member, Bool.or_false]
        · intro unstripped pair member
          have later := unstripped pair member
          rwa [stripped_cons, none pair member, Bool.false_or] at later

theorem apply_all_model (rules : List Rule) (model : UrlModel) :
    (applyAll rules model).1 = { model with pairs := kept rules model } :=
  apply_steps_model rules model 0

theorem apply_all_no_hit (rules : List Rule) (model : UrlModel) :
    (applyAll rules model).2 = 0 ↔ ∀ pair ∈ model.pairs, stripped rules model.url.original pair = false :=
  apply_steps_no_hit rules model 0

theorem kept_eq_iff (rules : List Rule) (model : UrlModel) :
    kept rules model = model.pairs ↔ ∀ pair ∈ model.pairs, stripped rules model.url.original pair = false := by
  rw [kept, List.filter_eq_self]
  simp only [Bool.not_eq_true']

theorem hits_iff_removed (rules : List Rule) (model : UrlModel) :
    0 < (applyAll rules model).2 ↔ (applyAll rules model).1.pairs ≠ model.pairs := by
  rw [Nat.pos_iff_ne_zero, Ne, apply_all_no_hit, ← kept_eq_iff, apply_all_model]

end LinkTidy.Rule
