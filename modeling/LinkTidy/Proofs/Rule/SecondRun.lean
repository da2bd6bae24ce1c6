import LinkTidy.Proofs.Rule.Stripping
import LinkTidy.Proofs.Url.Rewriting
/-!
A list of rules applied to one address is one filter on its pairs. On the address that is written afterwards a second run
finds something only if a rule applies to it that did not apply before.
-/

set_option autoImplicit false

namespace LinkTidy.Rule

open UrlModel (parse LeftOf)

-- What the rules say in turn, each applied to what those before it have left.
def answers : List Rule → UrlModel → List Bool
  | [], _ => []
  | rule :: rest, model => (rule.apply model).2 :: answers rest (rule.apply model).1

theorem answers_length (rules : List Rule) (model : UrlModel) : (answers rules model).length = rules.length := by
  induction rules generalizing model with
  | nil => rfl
  | cons rule rest ih => rw [answers, List.length_cons, ih, List.length_cons]

theorem apply_steps_count (rules : List Rule) (model : UrlModel) (hits : Nat) :
    (rules.foldl applyNext (model, hits)).2 = hits + (answers rules model).count true := by
  induction rules generalizing model hits with
  | nil => rfl
  | cons rule rest ih =>
      rw [List.foldl_cons, applyNext, ih, answers, List.count_cons]
      cases (rule.apply model).2 with
      | false => rfl
      | true => simp [Nat.add_assoc, Nat.add_comm]

theorem apply_all_count (rules : List Rule) (model : UrlModel) :
    (applyAll rules model).2 = (answers rules model).count true :=
  (apply_steps_count rules model 0).trans (Nat.zero_add _)

theorem admits_iff (rule : Rule) (original : Text) :
    rule.admits original = true ↔ ∀ domain, rule.domain = some domain → domain.accepts original = true := by
  cases rule with
  | general param => simp [admits, Rule.domain]
  | specific domain param => simp [admits, Rule.domain]

theorem stripped_iff (rules : List Rule) (original pair : Text) :
    stripped rules original pair = true ↔
      ∃ rule ∈ rules, rule.admits original = true ∧ rule.param.accepts pair = true := by
  simp only [stripped, strips, List.any_eq_true, Bool.and_eq_true]

theorem hits_iff_accepted (rules : List Rule) (model : UrlModel) :
    0 < (applyAll rules model).2 ↔
      ∃ pair ∈ model.pairs, ∃ rule ∈ rules, rule.admits model.url.original = true ∧ rule.param.accepts pair = true := by
  rw [Nat.pos_iff_ne_zero, Ne, apply_all_no_hit]
  simp only [not_forall, exists_prop, Bool.not_eq_false, stripped_iff]

-- Of the pairs that the rules have left none is accepted by a rule that applied.
theorem left_not_accepted (rules : List Rule) (model : UrlModel) (pair : Text)
    (left : pair ∈ (applyAll rules model).1.pairs) (rule : Rule) (member : rule ∈ rules)
    (accepted : rule.param.accepts pair = true) : rule.admits model.url.original = false := by
  rw [apply_all_model, kept, List.mem_filter, Bool.not_eq_true'] at left
  rw [← Bool.not_eq_true]
  intro admitted
  have removed := (stripped_iff rules model.url.original pair).mpr ⟨rule, member, admitted, accepted⟩
  rw [left.2] at removed
  cases removed

theorem no_hit_leaves (rules : List Rule) (model : UrlModel) (none : (applyAll rules model).2 = 0) :
    (applyAll rules model).1 = model ∧ answers rules model = List.replicate rules.length false := by
  constructor
  · rw [apply_all_no_hit, ← kept_eq_iff] at none
    rw [apply_all_model, none]
  · rw [apply_all_count, List.count_eq_zero] at none
    rw [List.eq_replicate_iff]
    refine ⟨answers_length rules model, ?_⟩
    intro answer member
    cases answer with
    | false => rfl
    | true => exact absurd member none

section

variable (rules : List Rule) (text : Text)

theorem left_of_rules : LeftOf text (applyAll rules (parse text)).1 := by
  rw [apply_all_model]
  exact ⟨rfl, List.filter_sublist⟩

-- A rule that applied before has left none of the pairs that it accepts.
theorem second_run_hits_iff (rewritten : Text) (written : rewritten = (applyAll rules (parse text)).1.finalize) :
    0 < (applyAll rules (parse rewritten)).2 ↔
      ∃ pair ∈ (applyAll rules (parse text)).1.pairs, ∃ rule ∈ rules,
        rule.admits text = false ∧ rule.admits rewritten = true ∧ rule.param.accepts pair = true := by
  have pairs : (parse rewritten).pairs = (applyAll rules (parse text)).1.pairs := by
    rw [written, UrlModel.parse_finalize text _ (left_of_rules rules text)]
  have original : (parse rewritten).url.original = rewritten := Url.of_text_original 0 rewritten
  rw [hits_iff_accepted, pairs, original]
  constructor
  · rintro ⟨pair, left, rule, member, admitted, accepted⟩
    have before := left_not_accepted rules (parse text) pair left rule member accepted
    rw [parse, UrlModel.ofUrl, Url.of_text_original] at before
    exact ⟨pair, left, rule, member, before, admitted, accepted⟩
  · rintro ⟨pair, left, rule, member, -, admitted, accepted⟩
    exact ⟨pair, left, rule, member, admitted, accepted⟩

theorem second_run_none (rewritten : Text) (written : rewritten = (applyAll rules (parse text)).1.finalize)
    (same : ∀ domain param, Rule.specific domain param ∈ rules → domain.accepts rewritten = domain.accepts text) :
    (applyAll rules (parse rewritten)).2 = 0 := by
  apply Nat.eq_zero_of_not_pos
  rw [second_run_hits_iff rules text rewritten written]
  rintro ⟨pair, -, rule, member, before, admitted, -⟩
  cases rule with
  | general param => cases before
  | specific domain param =>
      rw [admits, same domain param member] at admitted
      rw [admits, admitted] at before
      cases before

end

-- Rules that are applied in order keep the pairs that none of them strips, each pair looked at on its own and the domains
-- on the whole text. On the address written afterwards the same rules find nothing if all domains are judged as before.
theorem rules_strip_once (rules : List Rule) (text : Text) :
    (applyAll rules (parse text)).1.url = (parse text).url ∧
      (applyAll rules (parse text)).1.pairs = ((parse text).pairs.filter fun pair => !stripped rules text pair) ∧
      (∀ pair, stripped rules text pair = true ↔ ∃ rule ∈ rules,
        (∀ domain, rule.domain = some domain → domain.accepts text = true) ∧ rule.param.accepts pair = true) ∧
      (applyAll rules (parse text)).2 = (answers rules (parse text)).count true ∧
      (0 < (applyAll rules (parse text)).2 ↔ (applyAll rules (parse text)).1.pairs ≠ (parse text).pairs) ∧
      ∀ rewritten, rewritten = (applyAll rules (parse text)).1.finalize →
        (0 < (applyAll rules (parse rewritten)).2 ↔
          ∃ pair ∈ (applyAll rules (parse text)).1.pairs, ∃ rule ∈ rules,
            rule.admits text = false ∧ rule.admits rewritten = true ∧ rule.param.accepts pair = true) ∧
        ((∀ domain param, Rule.specific domain param ∈ rules → domain.accepts rewritten = domain.accepts text) →
          (applyAll rules (parse rewritten)).1 = parse rewritten ∧
            answers rules (parse rewritten) = List.replicate rules.length false) := by
  have model := apply_all_model rules (parse text)
  refine ⟨by rw [model], ?_, ?_, apply_all_count rules _, hits_iff_removed rules _, ?_⟩
  · rw [model, kept, parse, UrlModel.ofUrl, Url.of_text_original]
  · intro pair
    simp only [stripped_iff, admits_iff]
  · intro rewritten written
    refine ⟨second_run_hits_iff rules text rewritten written, ?_⟩
    intro same
    exact no_hit_leaves rules _ (second_run_none rules text rewritten written same)

-- One domain stands in the address before and behind the first run, the other in neither.
theorem rules_strip_once_by_host :
    let rules : List Rule := [
      .specific (.literal "x.y".toList) (.token ['a']), .general (.token ['u']), .specific (.literal ['z']) (.token ['b'])]
    let text := "http://x.y/?a=1&b&u=2&a".toList
    "http://x.y/?b".toList = (applyAll rules (parse text)).1.finalize ∧
      (∀ domain param, Rule.specific domain param ∈ rules →
        domain.accepts "http://x.y/?b".toList = domain.accepts text) ∧
      (applyAll rules (parse text)).1.pairs = [['b']] ∧
      answers rules (parse "http://x.y/?b".toList) = [false, false, false] := by
  intro rules text
  have same : ∀ domain param, Rule.specific domain param ∈ rules →
      domain.accepts "http://x.y/?b".toList = domain.accepts text := by
    intro domain param member
    simp only [rules, List.mem_cons, List.not_mem_nil, or_false, false_or, reduceCtorEq] at member
    rcases member with here | here
    · cases here
      decide +kernel
    · cases here
      decide +kernel
  have written : "http://x.y/?b".toList = (applyAll rules (parse text)).1.finalize := by decide +kernel
  have once := rules_strip_once rules text
  exact ⟨written, same, once.2.1.trans (by decide +kernel), ((once.2.2.2.2.2 _ written).2 same).2⟩

-- Here removing the first pair makes the domain of the other rule appear, so that a second run finds something.
example :
    let rules : List Rule := [.specific (.literal "?v".toList) (.token ['v']), .general (.token ['u'])]
    (applyAll rules (parse "x?u=1&v=2".toList)).1.finalize = "x?v=2".toList ∧
      (applyAll rules (parse "x?v=2".toList)).1.finalize = "x".toList := by decide +kernel

end LinkTidy.Rule
