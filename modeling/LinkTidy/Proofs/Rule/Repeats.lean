import LinkTidy.Proofs.Rule.Display
import LinkTidy.Proofs.Rule.FirstSeen
import LinkTidy.Proofs.Rule.Stripping
import LinkTidy.Url.Detect
/-!
Removing repeated rules leaves the meaning of a list as it is, unless two different rules of it are shown alike.
-/

set_option autoImplicit false

namespace LinkTidy.Rule

open FilterList (compile)

theorem dedupe_mem (rules : List Rule) (coherent : ∀ a ∈ rules, ∀ b ∈ rules, a.display = b.display → a = b)
    (rule : Rule) : rule ∈ dedupe rules ↔ rule ∈ rules := by
  have kept : ∀ other ∈ dedupe rules, other ∈ rules := (deduped rules).ordered.subset
  constructor
  · exact kept rule
  · intro member
    obtain ⟨first, inside, same⟩ := (deduped rules).covered rule member
    have equal := coherent first (kept first inside) rule member same
    exact equal ▸ inside

-- Two rules of a list are shown alike exactly if they are one rule or collide, and rules collide only if they have what
-- stands between domain and parameter inside of a clause. Where none collide, the list without its repeats does to
-- every address what the whole list does.
theorem dedupe_preserves_cleaning (text : Text) :
    (∀ a ∈ compile text, ∀ b ∈ compile text, a.display = b.display ↔ a = b ∨ a.Collides b ∨ b.Collides a) ∧
      (∀ a b : Rule, a.Collides b → (∃ domain ∈ b.domain, joint <:+: domain.source) ∧ joint <:+: a.param.source) ∧
      ((∀ a ∈ compile text, ∀ b ∈ compile text, ¬ a.Collides b) → ∀ url,
        (applyAll (dedupe (compile text)) (UrlModel.parse url)).1.pairs =
            (applyAll (compile text) (UrlModel.parse url)).1.pairs ∧
          (applyAll (dedupe (compile text)) (UrlModel.parse url)).1.finalize =
            (applyAll (compile text) (UrlModel.parse url)).1.finalize) := by
  have shown : ∀ a ∈ compile text, ∀ b ∈ compile text,
      a.display = b.display ↔ a = b ∨ a.Collides b ∨ b.Collides a := by
    intro a aMember b bMember
    exact display_eq_iff a b (FilterList.compile_written text a aMember) (FilterList.compile_written text b bMember)
  refine ⟨shown, collides_delimited, ?_⟩
  intro apart url
  have coherent : ∀ a ∈ compile text, ∀ b ∈ compile text, a.display = b.display → a = b := by
    intro a aMember b bMember same
    rcases (shown a aMember b bMember).mp same with equal | collides | collides
    · exact equal
    · exact absurd collides (apart a aMember b bMember)
    · exact absurd collides (apart b bMember a aMember)
  have same : kept (dedupe (compile text)) (UrlModel.parse url) = kept (compile text) (UrlModel.parse url) :=
    kept_congr _ _ (dedupe_mem (compile text) coherent) _
  rw [apply_all_model, apply_all_model, same]
  exact ⟨rfl, rfl⟩

-- The second of these three rules goes, as the first is shown like it; and the third stays.
theorem dedupe_preserves_repeated_key :
    let text := "$removeparam=u\n$removeparam=u\n||a.b^$removeparam=c".toList
    (∀ a ∈ compile text, ∀ b ∈ compile text, ¬ a.Collides b) ∧
      (applyAll (dedupe (compile text)) (UrlModel.parse "http://a.b/?u=1&v=2&c=3".toList)).1.pairs = ["v=2".toList] := by
  have rules : compile "$removeparam=u\n$removeparam=u\n||a.b^$removeparam=c".toList =
      [general (.token ['u']), general (.token ['u']), specific (.literal ['a', '.', 'b']) (.token ['c'])] := by
    decide +kernel
  have apart : ∀ a ∈ compile "$removeparam=u\n$removeparam=u\n||a.b^$removeparam=c".toList,
      ∀ b ∈ compile "$removeparam=u\n$removeparam=u\n||a.b^$removeparam=c".toList, ¬ a.Collides b := by
    rw [rules]
    intro a aMember b bMember collides
    cases a with
    | general => cases collides
    | specific domain param =>
        cases b with
        | general => cases collides
        | specific domain' param' =>
            simp only [List.mem_cons, List.not_mem_nil, or_false, reduceCtorEq, false_or] at aMember bMember
            rw [aMember, bMember] at collides
            exact collides_irrefl _ collides
  refine ⟨apart, ((dedupe_preserves_cleaning _).2.2 apart _).1.trans ?_⟩
  decide +kernel

-- The two lines limit different patterns to different domains, but the patterns hold the signs that would end them.
theorem dedupe_of_colliding_patterns :
    let text := "$removeparam=/c|utm/,domain=/a/] - /b/\n$removeparam=/b/] - /c|utm/,domain=/a/".toList
    let url := "https://a.com/?utm=1".toList
    Url.detect url = [Url.ofText 0 url] ∧
      ¬ (applyAll (dedupe (compile text)) (UrlModel.parse url)).1.pairs =
        (applyAll (compile text) (UrlModel.parse url)).1.pairs := by
  decide +kernel

-- A text and a key can hold these signs as well.
example :
    let text := "$removeparam=c,domain=a\"] - \"b\n$removeparam=b\"] - \"c,domain=a".toList
    let url := "http://a/?b\"] - \"c=1".toList
    compile text = [specific (.literal "a\"] - \"b".toList) (.token ['c']),
        specific (.literal ['a']) (.token "b\"] - \"c".toList)] ∧
      dedupe (compile text) = [specific (.literal "a\"] - \"b".toList) (.token ['c'])] ∧
      (applyAll (dedupe (compile text)) (UrlModel.parse url)).1.pairs = ["b\"] - \"c=1".toList] ∧
      (applyAll (compile text) (UrlModel.parse url)).1.pairs = [] := by
  decide +kernel

end LinkTidy.Rule
