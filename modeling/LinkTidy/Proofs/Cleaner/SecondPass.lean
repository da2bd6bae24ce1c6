import LinkTidy.Proofs.Cleaner.Runs
import LinkTidy.Proofs.Url.Starts
/-!
What a second pass over a cleaned text does. Where nothing was rewritten it finds what the first pass found; a rewritten
address it reads anew, together with the punctuation that had been trimmed behind it.
-/

set_option autoImplicit false

namespace LinkTidy.Cleaner

open Rule (kept)
open Url (inRun? detect pieces tailBehind startsAddress cutAtAddress? trimmable)

-- Whether a second pass finds more to remove in an address that the first pass rewrote.
def Exposes (rules : List Rule) (url : Url) (tail : Text) : Prop :=
  ∃ next, inRun? 0 (cleanedText rules url ++ tail) = some next ∧ Loses rules next

theorem cleaned_blunt (pairs : List Text) (fragment : Option Text) (tail : Text)
    (led : ∀ written, fragment = some written → ∃ rest, written = '#' :: rest) (trimmed : ∀ c ∈ tail, c ∈ trimmable) :
    Url.Blunt (UrlModel.joinPairs pairs ++ fragment.getD [] ++ tail) := by
  cases pairs with
  | cons pair rest =>
      rw [UrlModel.join_pairs_led _ (List.cons_ne_nil _ _)]
      exact .inl ⟨_, by rw [List.cons_append, List.cons_append]⟩
  | nil =>
      cases fragment with
      | some written =>
          obtain ⟨rest, rfl⟩ := led written rfl
          exact .inr (.inl ⟨rest ++ tail, rfl⟩)
      | none => exact .inr (.inr trimmed)

-- An address with a query, as it was found in a run.
structure FoundQuery (run : Text) (url : Url) (before query : Text) : Prop where
  cut : cutAtAddress? false run = some (before, url.original ++ tailBehind run url)
  trimmed : ∀ c ∈ tailBehind run url, c ∈ trimmable
  place : url.offset = byteLength before
  split : Url.ofText url.offset url.original = url
  queried : url.query = some ('?' :: query)

theorem found_query (rules : List Rule) (run : Text) (url : Url) (found : inRun? 0 run = some url)
    (loses : Loses rules url) : ∃ before query, FoundQuery run url before query := by
  obtain ⟨before, tail, cut, trimmed, split, -⟩ := Url.in_run_cut 0 run url found
  rw [Nat.zero_add] at split
  have place : url.offset = byteLength before := by rw [split, Url.of_text_offset]
  rw [← place] at split
  have behind := Url.tail_behind_append url before tail [] place
    (fun c member => Url.trimmable_no_separator c (trimmed c member)) (by simp)
  rw [List.append_nil, List.append_assoc, ← Url.cut_at_address_append false run before _ cut] at behind
  obtain ⟨written, queried⟩ := loses_query rules url loses
  have spelled := Url.of_text_spelled url.offset url.original
  rw [← split] at spelled
  obtain ⟨query, rfl, -⟩ := spelled.query_led written queried
  exact ⟨before, query, {
    cut := by rwa [behind]
    trimmed := by rwa [behind]
    place := place
    split := split.symm
    queried := queried }⟩

section

variable {run : Text} {url : Url} {before query : Text} (found : FoundQuery run url before query)

include found

theorem FoundQuery.spelled : Url.Spelled url.resource url.query url.fragment := by
  have spelled := Url.of_text_spelled url.offset url.original
  rwa [found.split] at spelled

theorem FoundQuery.pairs : ∀ pair ∈ (UrlModel.ofUrl url).pairs, UrlModel.IsPair pair := by
  have each := UrlModel.pairs_are_pairs url.offset url.original
  rwa [found.split] at each

theorem FoundQuery.whole : run = before ++ url.original ++ tailBehind run url := by
  rw [List.append_assoc]
  exact Url.cut_at_address_append false run before _ found.cut

theorem FoundQuery.written :
    url.original ++ tailBehind run url =
      url.resource ++ '?' :: (query ++ url.fragment.getD [] ++ tailBehind run url) := by
  rw [Url.original, found.queried, Option.getD_some]
  simp only [List.append_assoc, List.cons_append]

theorem FoundQuery.starts :
    startsAddress (url.resource ++ '?' :: (query ++ url.fragment.getD [] ++ tailBehind run url)) = true := by
  have begins := Url.cut_at_address_starts false run before _ found.cut
  rwa [found.written] at begins

theorem FoundQuery.marked : '.' ∈ url.resource ∨ '/' ∈ url.resource :=
  Url.resource_marked url.resource _ found.spelled.resource_plain.1 found.starts

end

theorem in_run_of_cleaned (rules : List Rule) (run : Text) (url : Url) (found : inRun? 0 run = some url)
    (loses : Loses rules url) :
    ∃ before, inRun? 0 (replacedRun (cleanedText rules) run) =
      (inRun? 0 (cleanedText rules url ++ tailBehind run url)).map (Url.moved (byteLength before)) := by
  obtain ⟨before, query, parts⟩ := found_query rules run url found loses
  have replaced := replaced_run_some (cleanedText rules) before (tailBehind run url) url
    (by rwa [← parts.whole]) parts.place
  rw [← parts.whole, List.append_assoc] at replaced
  have cut : cutAtAddress? false (before ++ (url.original ++ tailBehind run url)) =
      some (before, url.original ++ tailBehind run url) := by
    rw [← List.append_assoc, ← parts.whole]
    exact parts.cut
  refine ⟨before, ?_⟩
  rw [replaced]
  apply Url.in_run_again before (url.original ++ tailBehind run url) _ cut
  -- An address that began before the old one now would have its stem there, and would have begun there before.
  intro piece _ starts
  rw [cleaned_text_of_loses rules url loses, List.append_assoc url.resource, List.append_assoc url.resource,
    ← List.append_assoc piece] at starts
  rw [parts.written, ← List.append_assoc]
  apply Url.starts_address_before_query _ _ _ (cleaned_blunt _ _ _ parts.spelled.fragment_led parts.trimmed) _ starts
  rcases parts.marked with dot | slash
  · exact .inl (List.mem_append_right piece dot)
  · exact .inr (List.mem_append_right piece slash)

theorem loses_again_iff (rules : List Rule) (run : Text) :
    (∃ url, inRun? 0 (replacedRun (cleanedText rules) run) = some url ∧ Loses rules url) ↔
      ∃ url, inRun? 0 run = some url ∧ Loses rules url ∧ Exposes rules url (tailBehind run url) := by
  cases found : inRun? 0 run with
  | none => simp [replaced_run_none _ run found, found]
  | some url =>
      by_cases loses : Loses rules url
      · obtain ⟨before, again⟩ := in_run_of_cleaned rules run url found loses
        rw [again]
        simp [Exposes, loses, loses_moved]
      · obtain ⟨before, tail, whole, place, -, -⟩ := Url.in_run_some 0 run url found
        rw [Nat.zero_add] at place
        have same : replacedRun (cleanedText rules) run = run := by
          subst whole
          rw [replaced_run_some _ before tail url found place, cleaned_text_of_keeps rules url loses]
        simp [same, found, loses]

theorem clean_unchanged (store : Store) (text : Text) (keeps : ∀ url ∈ detect text, ¬ Loses store.snapshot.flatten url) :
    clean false store text = ⟨text, false⟩ := by
  obtain ⟨cleaned, changed⟩ := clean_with_located store text (detect text) (Url.detect_located text)
  have unchanged : (clean false store text).changed = false := by
    rw [Bool.eq_false_iff]
    intro set
    obtain ⟨url, member, loses⟩ := changed.mp set
    exact keeps url member loses
  have same : (clean false store text).text = text := by
    have originals := rebuilt_congr (cleanedText store.snapshot.flatten) Url.original text 0 (detect text)
      fun url member => cleaned_text_of_keeps _ url (keeps url member)
    exact cleaned.trans (originals.trans (rebuilt_original text _ (Url.detect_located text)))
  cases result : clean false store text with
  | mk text' changed' =>
      rw [result] at unchanged same
      rw [← same, ← unchanged]

theorem loses_in_cleaned_iff (store : Store) (text : Text) :
    (∃ url ∈ detect (clean false store text).text, Loses store.snapshot.flatten url) ↔
      ∃ url ∈ detect text, Loses store.snapshot.flatten url ∧
        Exposes store.snapshot.flatten url (tailBehind text url) := by
  have second := Url.exists_in_pieces (fun url _ => Loses store.snapshot.flatten url)
    (fun distance url _ => loses_moved _ distance url) (clean false store text).text
  have first := Url.exists_in_pieces
    (fun url tail => Loses store.snapshot.flatten url ∧ Exposes store.snapshot.flatten url tail)
    (fun distance url tail => by rw [Exposes, Exposes, loses_moved, cleaned_text_moved]) text
  rw [second, first, pieces_of_clean]
  simp only [List.mem_map, exists_exists_and_eq_and, loses_again_iff]

theorem clean_again_iff (store : Store) (text : Text) :
    clean false store (clean false store text).text = ⟨(clean false store text).text, false⟩ ↔
      ∀ url ∈ detect text, Loses store.snapshot.flatten url →
        ¬ Exposes store.snapshot.flatten url (tailBehind text url) := by
  have changed := (clean_with_located store _ _ (Url.detect_located (clean false store text).text)).2
  constructor
  · intro same url member loses exposes
    have found := changed.mpr ((loses_in_cleaned_iff store text).mpr ⟨url, member, loses, exposes⟩)
    change (clean false store (clean false store text).text).changed = true at found
    rw [same] at found
    cases found
  · intro none
    apply clean_unchanged
    intro url member loses
    obtain ⟨earlier, inside, lost, exposes⟩ := (loses_in_cleaned_iff store text).mp ⟨url, member, loses⟩
    exact none earlier inside lost exposes

end LinkTidy.Cleaner
