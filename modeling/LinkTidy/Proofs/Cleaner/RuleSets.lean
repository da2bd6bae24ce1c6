import LinkTidy.Proofs.Cleaner.Splice
import LinkTidy.Proofs.Store.Contents
import LinkTidy.Proofs.Text.Fields
/-!
Cleaning looks at the rules of a store as a set: their order, their number and their sources make no difference to any
text. So the order in which sources are updated makes none, nor does it whether a list comes whole or in pieces.
-/

set_option autoImplicit false

namespace LinkTidy

inductive Matcher.Kind where
  | literal
  | token
  | pattern
deriving DecidableEq

def Matcher.kind : Matcher → Kind
  | .literal _ => .literal
  | .token _ => .token
  | .pattern _ => .pattern

-- All that tells two rules apart: whether there is a domain, the kinds of the matchers, and the texts they were made from.
def Rule.shape (rule : Rule) : Option (Matcher.Kind × Text) × Matcher.Kind × Text :=
  (rule.domain.map fun domain => (domain.kind, domain.source), rule.param.kind, rule.param.source)

theorem matcher_of_shape (a b : Matcher) (kind : a.kind = b.kind) (source : a.source = b.source) : a = b := by
  cases a <;> cases b <;> cases kind
  case literal.literal => exact congrArg Matcher.literal source
  case token.token => exact congrArg Matcher.token source
  case pattern.pattern => exact congrArg Matcher.pattern (Regex.Pattern.ext_source source)

theorem rule_of_shape (a b : Rule) (same : a.shape = b.shape) : a = b := by
  obtain ⟨domains, params⟩ := Prod.mk.inj same
  obtain ⟨kind, source⟩ := Prod.mk.inj params
  have param : a.param = b.param := matcher_of_shape _ _ kind source
  cases a <;> cases b <;> simp only [Rule.domain, Option.map_some, Option.map_none, reduceCtorEq] at domains
  case general.general => exact congrArg Rule.general param
  case specific.specific =>
    obtain ⟨domainKind, domainSource⟩ := Prod.mk.inj (Option.some.inj domains)
    exact congr (congrArg Rule.specific (matcher_of_shape _ _ domainKind domainSource)) param

theorem mem_of_shapes (some others : List Rule)
    (same : ∀ shape, shape ∈ some.map Rule.shape ↔ shape ∈ others.map Rule.shape) (rule : Rule) :
    rule ∈ some ↔ rule ∈ others := by
  have injective : Function.Injective Rule.shape := fun a b => rule_of_shape a b
  rw [← List.mem_map_of_injective injective, same, List.mem_map_of_injective injective]

namespace Cleaner

section

variable (some others : List Rule) (same : ∀ rule, rule ∈ some ↔ rule ∈ others)

include same

theorem loses_congr (url : Url) : Loses some url ↔ Loses others url := by
  rw [Loses, Loses, Rule.apply_all_model, Rule.apply_all_model, Rule.kept_congr some others same]

theorem cleaned_text_congr (url : Url) : cleanedText some url = cleanedText others url := by
  rw [cleanedText, cleanedText, Rule.apply_all_model, Rule.apply_all_model, Rule.kept_congr some others same]

-- The number of rules that hit may differ, but it is zero for both or for neither.
theorem rewrite_congr (url : Url) : rewrite? some url = rewrite? others url := by
  have alike := loses_congr some others same url
  by_cases loses : Loses some url
  · rw [rewrite_of_loses some url loses, rewrite_of_loses others url (alike.mp loses),
      cleaned_text_congr some others same]
  · rw [rewrite_of_keeps some url loses, rewrite_of_keeps others url fun also => loses (alike.mpr also)]

theorem collect_congr (stopAtUntouched : Bool) (urls : List Url) (rewrites : Rewrites) :
    collect stopAtUntouched some urls rewrites = collect stopAtUntouched others urls rewrites := by
  induction urls generalizing rewrites with
  | nil => rfl
  | cons url rest ih =>
      rw [collect, collect, rewrite_congr some others same url, ih]
      cases rewrite? others url with
      | none => rfl
      | some rewritten => simp only [ih]

end

-- Both stores clean every text alike, whatever finds the addresses, with an early stop and without.
def CleanAlike (a b : Store) : Prop :=
  ∀ (stopAtUntouched : Bool) (detector : Text → List Url) (text : Text),
    cleanWith stopAtUntouched a (detector text) text = cleanWith stopAtUntouched b (detector text) text

theorem clean_alike_of_rules (a b : Store) (same : ∀ rule, rule ∈ a.snapshot.flatten ↔ rule ∈ b.snapshot.flatten) :
    CleanAlike a b := by
  intro stopAtUntouched detector text
  rw [cleanWith, cleanWith, collect_congr _ _ same]

-- No call makes the ids of a store less distinct than they were, and an empty store has none. The last part says where a
-- list may be cut: behind line feeds, so that no line is.
theorem cleaning_depends_on_rule_set :
    (∀ a b : Store, (∀ shape, shape ∈ a.snapshot.flatten.map Rule.shape ↔ shape ∈ b.snapshot.flatten.map Rule.shape) →
      CleanAlike a b) ∧
    (∀ (compiler : LineCompiler) (store : Store) (some other : List RawSource), store.ids.Nodup →
      Store.SameTurns some other →
        CleanAlike (store.afterSources compiler some) (store.afterSources compiler other)) ∧
    (∀ some other : List RawSource, some.Perm other → (some.map (·.id)).Nodup → Store.SameTurns some other) ∧
    (∀ (compiler : LineCompiler) (store : Store) (list : Text × Text) (pieces : List (Text × Text)), store.ids.Nodup →
      Store.Splits compiler store list pieces →
        CleanAlike (store.afterSource compiler (Store.pieceSource list))
          (store.afterSources compiler (pieces.map Store.pieceSource))) ∧
    ∀ texts : List Text, (∀ text ∈ texts.dropLast, text.getLast? = some '\n') →
      lines texts.flatten = texts.flatMap lines := by
  refine ⟨?_, ?_, Store.same_turns_of_perm, ?_, lines_flatten⟩
  · intro a b same
    exact clean_alike_of_rules a b (mem_of_shapes _ _ same)
  · intro compiler store some other known same
    apply clean_alike_of_rules
    intro rule
    rw [Store.mem_snapshot _ (Store.distinct_after compiler store some known),
      Store.mem_snapshot _ (Store.distinct_after compiler store other known)]
    simp only [Store.rules_for_held, Store.held_in_any_order compiler store some other same]
  · intro compiler store list pieces known splits
    exact clean_alike_of_rules _ _ (Store.mem_of_splits compiler store list pieces known splits)

-- One store has a rule twice and in the place of another, then two sources come in both orders, and at last a list keeps
-- its first line under its own id and has its second under a new one.
theorem cleaning_same_rules_elsewhere :
    let u : Rule := .general (.token ['u'])
    let v : Rule := .specific (.literal ['x']) (.literal ['v'])
    let a : Store := { entries := [⟨['a'], [], [u, v], 0⟩], nextStamp := 1 }
    let b : Store := { entries := [⟨['b'], [], [v], 0⟩, ⟨['c'], [], [u, v], 1⟩], nextStamp := 2 }
    let text := "x?u=v y?v".toList
    let compiler : LineCompiler := fun line => some [.general (.token line)]
    let first : RawSource := ⟨['b'], Utf8.encode ['u']⟩
    let second : RawSource := ⟨['c'], [0xFF]⟩
    let list : Text × Text := (['a'], ['u', '\n', 'v'])
    let pieces : List (Text × Text) := [(['d'], ['v']), (['a'], ['u', '\n'])]
    CleanAlike a b ∧ cleanWith true a [Url.ofText 0 "x?u=v".toList] text = ⟨"x y?v".toList, true⟩ ∧
      cleanWith true b [Url.ofText 0 "x?u=v".toList] text = ⟨"x y?v".toList, true⟩ ∧
      CleanAlike (a.afterSources compiler [first, second]) (a.afterSources compiler [second, first]) ∧
      CleanAlike (a.afterSource compiler (Store.pieceSource list))
        (a.afterSources compiler (pieces.map Store.pieceSource)) := by
  intro u v a b text compiler first second list pieces
  obtain ⟨bySet, byTurns, byPerm, byPieces, cut⟩ := cleaning_depends_on_rule_set
  have distinct : a.ids.Nodup := by decide
  have alike : CleanAlike a b := by
    apply bySet a b
    intro shape
    have left : a.snapshot.flatten.map Rule.shape = [u.shape, v.shape] := rfl
    have right : b.snapshot.flatten.map Rule.shape = [v.shape, u.shape, v.shape] := rfl
    rw [left, right]
    grind
  have cleaned : cleanWith true a [Url.ofText 0 "x?u=v".toList] text = ⟨"x y?v".toList, true⟩ := by decide +kernel
  have swapped : Store.SameTurns [first, second] [second, first] :=
    byPerm _ _ (List.Perm.swap second first []) (by decide)
  have splits : Store.Splits compiler a list pieces := {
    distinct := by decide
    places := by
      intro id member
      have only : id = ['a'] := List.mem_singleton.mp member
      subst only
      decide
    honest := by
      intro piece member held
      have new : ∀ other ∈ list :: pieces, ¬ a.Holds (Store.pieceSource other) := by decide +kernel
      exact absurd held (new piece member)
    covered := by
      intro line
      have whole : lines list.2 = lines ['u', '\n'] ++ lines ['v'] :=
        (cut [['u', '\n'], ['v']] (by decide)).trans (by rw [List.flatMap_cons, List.flatMap_singleton])
      rw [whole, List.mem_append, or_comm]
      simp [pieces] }
  exact ⟨alike, cleaned, (alike true (fun _ => [Url.ofText 0 "x?u=v".toList]) text).symm.trans cleaned,
    byTurns compiler a _ _ distinct swapped, byPieces compiler a list pieces distinct splits⟩

end Cleaner
end LinkTidy
