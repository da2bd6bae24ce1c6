import LinkTidy.Proofs.Cleaner.Splice
import LinkTidy.Proofs.Url.Query
import LinkTidy.Proofs.Url.Runs
/-!
Cleaning a text cleans each of its runs: the runs of the cleaned text are the cleaned runs.
-/

set_option autoImplicit false

namespace LinkTidy.Cleaner

open Rule (kept)
open Url (Laid AreRuns inRun? inRuns joinRuns pieces runs isSeparator)

-- A run with its address replaced, if it has one.
def replacedRun (replace : Url → Text) (run : Text) : Text :=
  rebuilt replace run 0 (inRun? 0 run).toList

theorem replaced_run_none (replace : Url → Text) (run : Text) (none : inRun? 0 run = none) :
    replacedRun replace run = run := by
  have whole := slice_middle [] run []
  rw [List.append_nil] at whole
  rw [replacedRun, none]
  exact whole

theorem replaced_run_some (replace : Url → Text) (before tail : Text) (url : Url)
    (found : inRun? 0 (before ++ url.original ++ tail) = some url) (place : url.offset = byteLength before) :
    replacedRun replace (before ++ url.original ++ tail) = before ++ replace url ++ tail := by
  have next := rebuilt_next replace [] before tail url [] place
  have rest := slice_middle (before ++ url.original) tail []
  rw [List.append_nil] at rest
  rw [List.nil_append, List.nil_append, rebuilt, rest] at next
  rw [replacedRun, found]
  exact next

section

variable (replace : Url → Text) (anywhere : ∀ distance url, replace (url.moved distance) = replace url)

include anywhere

theorem rebuilt_in_run (lead run behind : Text) (rest : List Url) (later : Laid (byteLength (lead ++ run)) behind rest) :
    rebuilt replace (lead ++ (run ++ behind)) (byteLength lead) ((inRun? (byteLength lead) run).toList ++ rest) =
      replacedRun replace run ++ rebuilt replace (lead ++ (run ++ behind)) (byteLength (lead ++ run)) rest := by
  rw [Url.in_run_moved]
  cases found : inRun? 0 run with
  | none =>
      rw [replaced_run_none replace run found]
      exact rebuilt_gap replace lead run behind rest later
  | some url =>
      obtain ⟨before, tail, rfl, place, -, -⟩ := Url.in_run_some 0 run url found
      rw [Nat.zero_add] at place
      rw [replaced_run_some replace before tail url found place]
      have next := rebuilt_next replace lead before (tail ++ behind) (url.moved (byteLength lead)) rest
        (by rw [byte_length_append, ← place]; rfl)
      have gap := rebuilt_gap replace (lead ++ before ++ url.original) tail behind rest
        (by simpa only [List.append_assoc] using later)
      rw [Url.moved_original, anywhere] at next
      simp only [List.append_assoc] at next gap ⊢
      rw [gap] at next
      exact next

theorem rebuilt_in_runs (lead run : Text) (others : List (Char × Text)) :
    rebuilt replace (lead ++ joinRuns run others) (byteLength lead) (inRuns (byteLength lead) run others) =
      joinRuns (replacedRun replace run) (others.map fun other => (other.1, replacedRun replace other.2)) := by
  induction others generalizing lead run with
  | nil =>
      have here := rebuilt_in_run replace anywhere lead run [] [] (.done _ _)
      have rest := slice_middle (lead ++ run) [] []
      simp only [List.append_nil] at here rest
      rw [rebuilt, rest, List.append_nil] at here
      simpa [joinRuns, inRuns] using here
  | cons other others ih =>
      obtain ⟨separator, next⟩ := other
      have laid := Url.laid_in_runs (byteLength (lead ++ run ++ [separator])) next others
      have here := rebuilt_in_run replace anywhere lead run (separator :: joinRuns next others) _
        (Url.laid_behind_gap [separator] (by rwa [← byte_length_append]))
      have gap := rebuilt_gap replace (lead ++ run) [separator] (joinRuns next others) _ laid
      -- The next run begins where the lead, this run and the separator end.
      have later := ih (lead ++ run ++ [separator]) next
      have size : byteLength (lead ++ run ++ [separator]) = byteLength lead + byteLength run + separator.utf8Size := by
        rw [byte_length_append, byte_length_append]
        rfl
      simp only [List.append_assoc, List.singleton_append] at here gap later size
      rw [later] at gap
      rw [gap] at here
      rw [Url.join_runs_cons, inRuns, ← size, here, List.map_cons, Url.join_runs_cons]

end

theorem loses_query (rules : List Rule) (url : Url) (loses : Loses rules url) : ∃ query, url.query = some query := by
  cases query : url.query with
  | some written => exact ⟨written, rfl⟩
  | none =>
      exfalso
      apply loses
      rw [Rule.apply_all_model]
      simp [kept, UrlModel.pairs_of_no_query url query]

theorem cleaned_text_of_loses (rules : List Rule) (url : Url) (loses : Loses rules url) :
    cleanedText rules url =
      url.resource ++ UrlModel.joinPairs (kept rules (UrlModel.ofUrl url)) ++ url.fragment.getD [] := by
  obtain ⟨query, queried⟩ := loses_query rules url loses
  rw [cleanedText, if_neg loses, Rule.apply_all_model]
  exact UrlModel.finalize_of_query { UrlModel.ofUrl url with pairs := kept rules (UrlModel.ofUrl url) } query queried

theorem mem_pairs (url : Url) (pair : Text) (member : pair ∈ (UrlModel.ofUrl url).pairs) (c : Char) (inside : c ∈ pair) :
    ∃ written, url.query = some written ∧ c ∈ written := by
  cases query : url.query with
  | none =>
      rw [UrlModel.pairs_of_no_query url query] at member
      cases member
  | some written =>
      refine ⟨written, rfl, ?_⟩
      rw [UrlModel.ofUrl, query] at member
      exact UrlModel.mem_split_query written pair member c inside

theorem cleaned_text_plain (rules : List Rule) (url : Url) (plain : ∀ c ∈ url.original, isSeparator c = false) :
    ∀ c ∈ cleanedText rules url, isSeparator c = false := by
  by_cases loses : Loses rules url
  · rw [cleaned_text_of_loses rules url loses]
    intro c member
    -- All that can be new in a rewritten address are the signs that join the pairs.
    have signs : isSeparator '?' = false ∧ isSeparator '&' = false := by decide
    simp only [List.mem_append] at member
    rcases member with (inside | inside) | inside
    · exact plain c (List.mem_append_left _ (List.mem_append_left _ inside))
    · rcases UrlModel.mem_join_pairs _ c inside with rfl | rfl | ⟨pair, kept, deeper⟩
      · exact signs.1
      · exact signs.2
      · obtain ⟨written, query, deeper⟩ := mem_pairs url pair (List.mem_filter.mp kept).1 c deeper
        apply plain c
        rw [Url.original, query]
        exact List.mem_append_left _ (List.mem_append_right _ deeper)
    · exact plain c (List.mem_append_right _ inside)
  · rw [cleaned_text_of_keeps rules url loses]
    exact plain

theorem replaced_run_plain (rules : List Rule) (run : Text) (plain : ∀ c ∈ run, isSeparator c = false) :
    ∀ c ∈ replacedRun (cleanedText rules) run, isSeparator c = false := by
  cases found : inRun? 0 run with
  | none => rwa [replaced_run_none _ run found]
  | some url =>
      obtain ⟨before, tail, rfl, place, -, -⟩ := Url.in_run_some 0 run url found
      rw [Nat.zero_add] at place
      rw [replaced_run_some _ before tail url found place]
      simp only [List.mem_append] at plain ⊢
      have middle := cleaned_text_plain rules url fun c member => plain c (.inl (.inr member))
      rintro c ((inside | inside) | inside)
      · exact plain c (.inl (.inl inside))
      · exact middle c inside
      · exact plain c (.inr inside)

-- Cleaning leaves the separators where they are, and of every run what it makes of that run alone.
theorem clean_joins_runs (store : Store) (text : Text) :
    (clean false store text).text =
      joinRuns (replacedRun (cleanedText store.snapshot.flatten) (runs text).1)
        ((runs text).2.map fun other => (other.1, replacedRun (cleanedText store.snapshot.flatten) other.2)) := by
  have cleaned := (clean_with_located store text (Url.detect text) (Url.detect_located text)).1
  have joined := rebuilt_in_runs (cleanedText store.snapshot.flatten)
    (cleaned_text_moved store.snapshot.flatten) [] (runs text).1 (runs text).2
  rw [List.nil_append, Url.runs_join] at joined
  exact cleaned.trans joined

theorem pieces_of_clean (store : Store) (text : Text) :
    pieces (clean false store text).text =
      (pieces text).map (replacedRun (cleanedText store.snapshot.flatten)) := by
  have cut := Url.are_runs text
  have stillCut : AreRuns (replacedRun (cleanedText store.snapshot.flatten) (runs text).1)
      ((runs text).2.map fun other => (other.1, replacedRun (cleanedText store.snapshot.flatten) other.2)) := {
    first := replaced_run_plain _ _ cut.first
    separators := by
      intro other member
      obtain ⟨earlier, inside, rfl⟩ := List.mem_map.mp member
      exact cut.separators earlier inside
    later := by
      intro other member
      obtain ⟨earlier, inside, rfl⟩ := List.mem_map.mp member
      exact replaced_run_plain _ _ (cut.later earlier inside) }
  rw [pieces, pieces, clean_joins_runs, Url.runs_of_join _ _ stillCut, List.map_cons, List.map_map, List.map_map]
  rfl

end LinkTidy.Cleaner
