import LinkTidy.Proofs.Cleaner.SecondPass
/-!
Texts that one pass cleans for good. General rules with token matchers tell pairs apart by their keys, so a rewritten
address exposes nothing as long as it is found where it was and the key of its last pair is not cut.
-/

set_option autoImplicit false

namespace LinkTidy.Cleaner

open Rule (kept stripped)
open Url (inRun? detect tailBehind startsAddress trimEnd trimmable)

-- General rules that look at the key of a pair and at nothing else.
def TokenRules (rules : List Rule) : Prop :=
  ∀ rule ∈ rules, ∃ token, rule = .general (.token token)

theorem stripped_of_key (rules : List Rule) (tokens : TokenRules rules) (here there pair other : Text)
    (same : queryKey pair = queryKey other) : stripped rules here pair = stripped rules there other := by
  induction rules with
  | nil => rfl
  | cons rule rest ih =>
      obtain ⟨token, rfl⟩ := tokens rule List.mem_cons_self
      have step : Rule.strips (.general (.token token)) here pair = Rule.strips (.general (.token token)) there other := by
        simp only [Rule.strips, Rule.admits, Rule.param, Matcher.accepts, same]
      rw [Rule.stripped_cons, Rule.stripped_cons, step, ih fun later member => tokens later (List.mem_cons_of_mem _ member)]

theorem keeps_of_keys (rules : List Rule) (tokens : TokenRules rules) (url : Url) (resource : Text) (pairs : List Text)
    (fragment : Option Text) (plain : '?' ∉ resource ∧ '#' ∉ resource) (each : ∀ pair ∈ pairs, UrlModel.IsPair pair)
    (led : ∀ written, fragment = some written → ∃ rest, written = '#' :: rest)
    (known : ∀ pair ∈ pairs, ∃ other ∈ kept rules (UrlModel.ofUrl url), queryKey pair = queryKey other) (offset : Nat) :
    ¬ Loses rules (Url.ofText offset (resource ++ UrlModel.joinPairs pairs ++ fragment.getD [])) := by
  rw [Loses, Rule.apply_all_model, Ne, Decidable.not_not, Rule.kept_eq_iff,
    UrlModel.parse_join_pairs offset resource pairs fragment plain each led]
  intro pair member
  obtain ⟨other, keeps, same⟩ := known pair member
  have unstripped := (List.mem_filter.mp keeps).2
  rw [Bool.not_eq_true'] at unstripped
  rw [← unstripped]
  exact stripped_of_key rules tokens _ _ pair other same

-- Signs by which a second pass is seen to leave a rewritten address alone: no query is left up to the end of the run;
-- or the last pair that is left has a value; or an address still begins there, and it has a fragment or is trimmed where
-- it ends.
def Settled (rules : List Rule) (url : Url) (tail : Text) : Prop :=
  '?' ∉ cleanedText rules url ++ tail ∨
    (kept rules (UrlModel.ofUrl url)).getLast?.any (·.contains '=') = true ∨
    (startsAddress (cleanedText rules url ++ tail) = true ∧
      (url.fragment ≠ none ∨ trimEnd (cleanedText rules url ++ tail) = cleanedText rules url))

theorem exposed_starts (rules : List Rule) (url : Url) (tail : Text)
    (starts : startsAddress (cleanedText rules url ++ tail) = true) (exposes : Exposes rules url tail) :
    ∃ offset, Loses rules (Url.ofText offset (trimEnd (cleanedText rules url ++ tail))) := by
  obtain ⟨next, again, loses⟩ := exposes
  rw [inRun?, Url.cut_at_address_here _ starts, Option.bind_some] at again
  obtain ⟨rfl, -⟩ := Url.of_found_some _ _ _ again
  exact ⟨_, loses⟩

theorem not_exposes_of_no_query (rules : List Rule) (url : Url) (tail : Text)
    (absent : '?' ∉ cleanedText rules url ++ tail) : ¬ Exposes rules url tail := by
  rintro ⟨next, again, loses⟩
  obtain ⟨query, queried⟩ := loses_query rules next loses
  obtain ⟨before, behind, whole, -, -, split⟩ := Url.in_run_some 0 _ next again
  have none : (Url.ofText next.offset next.original).query = none := by
    apply Url.of_text_no_query
    intro member
    rw [whole] at absent
    exact absent (List.mem_append_left _ (List.mem_append_right _ member))
  rw [split, queried] at none
  cases none

theorem query_key_append (key value : Text) (absent : '=' ∉ key) : queryKey (key ++ '=' :: value) = key := by
  have passed := Url.passed_of_absent '=' key absent
  exact (take_while_stop (· != '=') key value '=' passed rfl).1

section

variable {rules : List Rule} {run : Text} {url : Url} {before query : Text} (tokens : TokenRules rules)
  (loses : Loses rules url) (found : FoundQuery run url before query)

include found

theorem FoundQuery.kept_pairs (rules : List Rule) : ∀ pair ∈ kept rules (UrlModel.ofUrl url), UrlModel.IsPair pair :=
  fun pair member => found.pairs pair (List.mem_filter.mp member).1

include loses

theorem FoundQuery.starts_again (left : kept rules (UrlModel.ofUrl url) ≠ []) :
    startsAddress (cleanedText rules url ++ tailBehind run url) = true := by
  rw [cleaned_text_of_loses rules url loses, UrlModel.join_pairs_led _ left]
  simpa using Url.starts_address_before_query url.resource _
    (['&'].intercalate (kept rules (UrlModel.ofUrl url)) ++ url.fragment.getD [] ++ tailBehind run url)
    (.inl ⟨_, rfl⟩) found.marked found.starts

include tokens

theorem not_exposes_of_fragment (starts : startsAddress (cleanedText rules url ++ tailBehind run url) = true)
    (ends : url.fragment ≠ none) : ¬ Exposes rules url (tailBehind run url) := by
  intro exposes
  obtain ⟨offset, again⟩ := exposed_starts rules url _ starts exposes
  obtain ⟨written, fragment⟩ := Option.ne_none_iff_exists'.mp ends
  obtain ⟨rest, rfl⟩ := found.spelled.fragment_led written fragment
  rw [cleaned_text_of_loses rules url loses, fragment, Option.getD_some, List.append_assoc, List.cons_append] at again
  obtain ⟨more, trimmed, -⟩ := Url.trim_end_stop
    (url.resource ++ UrlModel.joinPairs (kept rules (UrlModel.ofUrl url))) (rest ++ tailBehind run url) '#' (by decide)
  rw [trimmed] at again
  refine keeps_of_keys rules tokens url url.resource _ (some ('#' :: more)) found.spelled.resource_plain
    (found.kept_pairs rules) ?_ (fun pair member => ⟨pair, member, rfl⟩) offset again
  intro other same
  exact ⟨more, (Option.some.inj same).symm⟩

theorem not_exposes_of_same_end (starts : startsAddress (cleanedText rules url ++ tailBehind run url) = true)
    (ends : trimEnd (cleanedText rules url ++ tailBehind run url) = cleanedText rules url) :
    ¬ Exposes rules url (tailBehind run url) := by
  intro exposes
  obtain ⟨offset, again⟩ := exposed_starts rules url _ starts exposes
  rw [ends, cleaned_text_of_loses rules url loses] at again
  exact keeps_of_keys rules tokens url url.resource _ url.fragment found.spelled.resource_plain
    (found.kept_pairs rules) found.spelled.fragment_led (fun pair member => ⟨pair, member, rfl⟩) offset again

theorem not_exposes_of_value (ends : (kept rules (UrlModel.ofUrl url)).getLast?.any (·.contains '=') = true) :
    ¬ Exposes rules url (tailBehind run url) := by
  obtain ⟨last, atEnd, valued⟩ := (Option.any_eq_true _ _).mp ends
  obtain ⟨others, split⟩ := List.getLast?_eq_some_iff.mp atEnd
  obtain ⟨key, value, rfl, absent⟩ := List.eq_append_cons_of_mem (List.contains_iff_mem.mp valued)
  have starts := found.starts_again loses (by rw [split]; simp)
  by_cases ends : url.fragment = none
  · -- Trimming stops at the equals sign of the last pair at the latest, so it leaves the key of that pair.
    intro exposes
    obtain ⟨offset, again⟩ := exposed_starts rules url _ starts exposes
    obtain ⟨more, trimmed, inside⟩ := Url.trim_end_stop (url.resource ++ '?' :: ['&'].intercalate (others ++ [key]))
      (value ++ tailBehind run url) '=' (by decide)
    have before : cleanedText rules url ++ tailBehind run url =
        url.resource ++ '?' :: ['&'].intercalate (others ++ [key]) ++ '=' :: (value ++ tailBehind run url) := by
      rw [cleaned_text_of_loses rules url loses, ends, split, UrlModel.join_pairs_value]
      simp only [Option.getD_none, List.append_nil, List.append_assoc, List.cons_append]
    have after : url.resource ++ '?' :: ['&'].intercalate (others ++ [key]) ++ '=' :: more =
        url.resource ++ UrlModel.joinPairs (others ++ [key ++ '=' :: more]) ++ (none : Option Text).getD [] := by
      rw [UrlModel.join_pairs_value, Option.getD_none, List.append_nil, List.append_assoc]
    rw [before, trimmed, after] at again
    have each := found.kept_pairs rules
    rw [split] at each
    have plain : '&' ∉ tailBehind run url ∧ '#' ∉ tailBehind run url :=
      ⟨fun member => absurd (found.trimmed _ member) (by decide), fun member => absurd (found.trimmed _ member) (by decide)⟩
    refine keeps_of_keys rules tokens url url.resource (others ++ [key ++ '=' :: more]) none
      found.spelled.resource_plain ?_ (by simp) ?_ offset again
    · intro pair member
      rcases List.mem_append.mp member with early | same
      · exact each pair (List.mem_append_left _ early)
      · rw [List.mem_singleton.mp same]
        exact UrlModel.is_pair_value key value _ more (each _ (by simp)) plain inside
    · intro pair member
      rw [split]
      rcases List.mem_append.mp member with early | same
      · exact ⟨pair, List.mem_append_left _ early, rfl⟩
      · rw [List.mem_singleton.mp same]
        exact ⟨key ++ '=' :: value, by simp, by rw [query_key_append _ _ absent, query_key_append _ _ absent]⟩
  · -- With a fragment behind it the last pair is out of reach of trimming.
    exact not_exposes_of_fragment tokens loses found starts ends

theorem not_exposes_of_settled (settled : Settled rules url (tailBehind run url)) :
    ¬ Exposes rules url (tailBehind run url) := by
  rcases settled with absent | valued | ⟨starts, fragment | ends⟩
  · exact not_exposes_of_no_query rules url _ absent
  · exact not_exposes_of_value tokens loses found valued
  · exact not_exposes_of_fragment tokens loses found starts fragment
  · exact not_exposes_of_same_end tokens loses found starts ends

end

theorem loses_settled_exposes (rules : List Rule) (tokens : TokenRules rules) (text : Text)
    (settled : ∀ url ∈ detect text, Loses rules url → Settled rules url (tailBehind text url)) :
    ∀ url ∈ detect text, Loses rules url → ¬ Exposes rules url (tailBehind text url) := by
  -- Within its run the address is known to have been found with a query; so the question goes to the runs.
  intro url member loses exposes
  have each := Url.exists_in_pieces
    (fun url tail => Loses rules url ∧ Settled rules url tail ∧ Exposes rules url tail)
    (fun distance url tail => by
      rw [Settled, Settled, Exposes, Exposes, loses_moved, cleaned_text_moved]
      rfl) text
  obtain ⟨run, -, again, found, lost, calm, exposed⟩ :=
    each.mp ⟨url, member, loses, settled url member loses, exposes⟩
  obtain ⟨before, query, parts⟩ := found_query rules run again found lost
  exact not_exposes_of_settled tokens lost parts calm exposed

-- A second pass does nothing exactly if no rewritten address, read anew, loses more; with token rules it suffices that
-- every rewritten address is settled.
theorem cleaning_again_finds_exposed (store : Store) (text : Text) :
    (clean false store (clean false store text).text = ⟨(clean false store text).text, false⟩ ↔
        ∀ url ∈ detect text, Loses store.snapshot.flatten url →
          ¬ Exposes store.snapshot.flatten url (tailBehind text url)) ∧
      (TokenRules store.snapshot.flatten →
        (∀ url ∈ detect text, Loses store.snapshot.flatten url →
          Settled store.snapshot.flatten url (tailBehind text url)) →
        clean false store (clean false store text).text = ⟨(clean false store text).text, false⟩) := by
  refine ⟨clean_again_iff store text, ?_⟩
  intro tokens settled
  exact (clean_again_iff store text).mpr (loses_settled_exposes _ tokens text settled)

theorem cleaning_again_settled_text :
    let store : Store := { entries := [⟨"list".toList, [], [.general (.token "utm".toList)], 0⟩], nextStamp := 1 }
    let text := "(https://a.com/?utm=1&v=2), b.org/?utm=3#top www.c.net/?utm".toList
    clean false store text = ⟨"(https://a.com/?v=2), b.org/#top www.c.net/".toList, true⟩ ∧
      clean false store (clean false store text).text = ⟨(clean false store text).text, false⟩ := by
  refine ⟨by decide +kernel, (cleaning_again_finds_exposed _ _).2 ?_ ?_⟩
  · intro rule member
    exact ⟨"utm".toList, List.mem_singleton.mp member⟩
  · unfold Loses Settled
    decide +kernel

-- Without its query the first address is none any more, and the one in its fragment comes to light.
theorem cleaning_again_nested_address :
    let store : Store := { entries := [⟨"list".toList, [], [.general (.token "utm".toList)], 0⟩], nextStamp := 1 }
    let text := "a.com?utm=1#www.b.com/?utm=2".toList
    TokenRules store.snapshot.flatten ∧
      clean false store text = ⟨"a.com#www.b.com/?utm=2".toList, true⟩ ∧
      clean false store (clean false store text).text = ⟨"a.com#www.b.com/".toList, true⟩ := by
  refine ⟨?_, by decide +kernel, by decide +kernel⟩
  intro rule member
  exact ⟨"utm".toList, List.mem_singleton.mp member⟩

end LinkTidy.Cleaner
