import LinkTidy.Proofs.Url.Located
import LinkTidy.Proofs.Url.Parts
import LinkTidy.Url.Detect
/-!
Where the detector finds addresses: in the runs of a text, at most one in each, before trailing punctuation.
-/

set_option autoImplicit false

namespace LinkTidy.Url

-- Runs and the separators in front of them, put together again.
def joinRuns (run : Text) (others : List (Char × Text)) : Text :=
  run ++ others.flatMap fun other => other.1 :: other.2

theorem join_runs_cons (run : Text) (separator : Char) (next : Text) (others : List (Char × Text)) :
    joinRuns run ((separator, next) :: others) = run ++ separator :: joinRuns next others := by
  simp [joinRuns]

-- Characters that trimming can drop.
def trimmable : Text :=
  ['.', ',', ';', ':', '!', '?', '\'', '"', ')', ']', '\x7d']

theorem ends_sentence_trimmable (last : Char) (text : Text) (ends : endsSentence last text = true) :
    last ∈ trimmable := by
  unfold endsSentence at ends
  split at ends
  all_goals first | decide | cases ends

theorem trim_reversed_append (text : Text) :
    ∃ dropped, text = dropped ++ trimReversed text ∧ ∀ c ∈ dropped, c ∈ trimmable := by
  induction text with
  | nil => exact ⟨[], rfl, by simp⟩
  | cons last earlier ih =>
      by_cases ends : endsSentence last (last :: earlier) = true
      · obtain ⟨dropped, whole, trimmed⟩ := ih
        refine ⟨last :: dropped, ?_, ?_⟩
        · rw [trimReversed, if_pos ends, List.cons_append, ← whole]
        · simpa using ⟨ends_sentence_trimmable _ _ ends, trimmed⟩
      · exact ⟨[], by rw [trimReversed, if_neg ends, List.nil_append], by simp⟩

theorem trim_end_append (text : Text) : ∃ tail, text = trimEnd text ++ tail ∧ ∀ c ∈ tail, c ∈ trimmable := by
  obtain ⟨dropped, whole, trimmed⟩ := trim_reversed_append text.reverse
  refine ⟨dropped.reverse, ?_, by simpa using trimmed⟩
  rw [trimEnd, ← List.reverse_append, ← whole, List.reverse_reverse]

theorem trim_end_stop (front behind : Text) (stop : Char) (firm : stop ∉ trimmable) :
    ∃ more, trimEnd (front ++ stop :: behind) = front ++ stop :: more ∧ more <+: behind := by
  obtain ⟨tail, whole, trimmed⟩ := trim_end_append (front ++ stop :: behind)
  rcases List.append_eq_append_iff.mp whole with ⟨rest, frontWhole, tailWhole⟩ | ⟨rest, frontWhole, tailWhole⟩
  · cases rest with
    | nil => exact absurd (trimmed stop (by rw [← List.nil_append tail, ← tailWhole]; exact List.mem_cons_self)) firm
    | cons c more =>
        obtain ⟨rfl, behindWhole⟩ := List.cons.inj tailWhole
        exact ⟨more, frontWhole, tail, behindWhole.symm⟩
  · exact absurd (trimmed stop (by rw [tailWhole]; exact List.mem_append_right _ List.mem_cons_self)) firm

theorem cut_at_address_append (inWord : Bool) (run before found : Text)
    (cut : cutAtAddress? inWord run = some (before, found)) : run = before ++ found := by
  induction run generalizing inWord before with
  | nil => cases cut
  | cons c rest ih =>
      rw [cutAtAddress?] at cut
      split at cut
      · simp only [Option.some.injEq, Prod.mk.injEq] at cut
        rw [← cut.1, ← cut.2, List.nil_append]
      · simp only [Option.map_eq_some_iff, Prod.mk.injEq, Prod.exists] at cut
        obtain ⟨earlier, later, deeper, rfl, rfl⟩ := cut
        rw [List.cons_append, ← ih _ earlier deeper]

theorem of_found_some (offset : Nat) (found : Text) (url : Url) (some : ofFound? offset found = some url) :
    url = ofText offset (trimEnd found) ∧ trimEnd found ≠ [] := by
  rw [ofFound?] at some
  split at some
  · cases some
  · rename_i written
    refine ⟨(Option.some.inj some).symm, fun empty => written ?_⟩
    rw [empty]
    rfl

theorem in_run_cut (offset : Nat) (run : Text) (url : Url) (some : inRun? offset run = some url) :
    ∃ before tail, cutAtAddress? false run = Option.some (before, url.original ++ tail) ∧
      (∀ c ∈ tail, c ∈ trimmable) ∧ url = ofText (offset + byteLength before) url.original ∧ url.original ≠ [] := by
  rw [inRun?, Option.bind_eq_some_iff] at some
  obtain ⟨⟨before, found⟩, cut, some⟩ := some
  obtain ⟨rfl, written⟩ := of_found_some _ _ _ some
  obtain ⟨tail, whole, trimmed⟩ := trim_end_append found
  rw [of_text_original]
  exact ⟨before, tail, by rwa [← whole], trimmed, rfl, written⟩

theorem in_run_some (offset : Nat) (run : Text) (url : Url) (some : inRun? offset run = some url) :
    ∃ before tail, run = before ++ url.original ++ tail ∧ url.offset = offset + byteLength before ∧
      url.original ≠ [] ∧ ofText url.offset url.original = url := by
  obtain ⟨before, tail, cut, -, split, written⟩ := in_run_cut offset run url some
  have place : url.offset = offset + byteLength before := by rw [split, of_text_offset]
  refine ⟨before, tail, ?_, place, written, by rw [place, ← split]⟩
  rw [List.append_assoc]
  exact cut_at_address_append false run before _ cut

theorem mem_in_runs (offset : Nat) (run : Text) (others : List (Char × Text)) (url : Url) :
    url ∈ inRuns offset run others → ∃ place piece, piece ∈ run :: others.map (·.2) ∧ inRun? place piece = some url := by
  induction others generalizing offset run with
  | nil =>
      intro member
      exact ⟨offset, run, List.mem_cons_self, by simpa [inRuns] using member⟩
  | cons other others ih =>
      intro member
      rw [inRuns, List.mem_append] at member
      rcases member with here | later
      · exact ⟨offset, run, List.mem_cons_self, by simpa using here⟩
      · obtain ⟨place, piece, inside, found⟩ := ih _ _ later
        exact ⟨place, piece, List.mem_cons_of_mem _ inside, found⟩

theorem laid_behind_gap {start : Nat} {text : Text} {urls : List Url} (gap : Text)
    (laid : Laid (start + byteLength gap) text urls) : Laid start (gap ++ text) urls := by
  cases laid with
  | done => exact .done _ _
  | next _ more behind url rest place later =>
      rw [← List.append_assoc, ← List.append_assoc]
      exact .next start (gap ++ more) behind url rest (by rw [place, byte_length_append, Nat.add_assoc]) later

theorem laid_in_run (start : Nat) (run behind : Text) (rest : List Url)
    (later : Laid (start + byteLength run) behind rest) :
    Laid start (run ++ behind) ((inRun? start run).toList ++ rest) := by
  cases found : inRun? start run with
  | none => exact laid_behind_gap run later
  | some url =>
      obtain ⟨before, tail, rfl, place, -, -⟩ := in_run_some start run url found
      rw [List.append_assoc]
      refine .next start before (tail ++ behind) url rest place (laid_behind_gap tail ?_)
      rwa [byte_length_append, byte_length_append, ← Nat.add_assoc, ← Nat.add_assoc, ← place] at later

theorem laid_in_runs (start : Nat) (run : Text) (others : List (Char × Text)) :
    Laid start (joinRuns run others) (inRuns start run others) := by
  induction others generalizing start run with
  | nil => simpa [joinRuns, inRuns] using laid_in_run start run [] [] (.done _ _)
  | cons other others ih =>
      obtain ⟨separator, next⟩ := other
      rw [join_runs_cons, inRuns]
      have later := ih (start + byteLength run + byteLength [separator]) next
      exact laid_in_run start run (separator :: joinRuns next others) _ (laid_behind_gap [separator] later)

theorem runs_join (text : Text) : joinRuns (runs text).1 (runs text).2 = text := by
  induction text with
  | nil => rfl
  | cons c rest ih =>
      by_cases separates : isSeparator c = true
      · have step : runs (c :: rest) = ([], (c, (runs rest).1) :: (runs rest).2) := if_pos separates
        rw [step, join_runs_cons, ih, List.nil_append]
      · have step : runs (c :: rest) = (c :: (runs rest).1, (runs rest).2) := if_neg separates
        rw [step, joinRuns, List.cons_append, ← joinRuns, ih]

theorem detect_located (text : Text) : Located text (detect text) := by
  have laid := laid_in_runs 0 (runs text).1 (runs text).2
  rw [runs_join] at laid
  have known : ∀ url ∈ detect text, url.original ≠ [] ∧ ofText url.offset url.original = url := by
    intro url member
    obtain ⟨place, piece, -, found⟩ := mem_in_runs 0 _ _ url member
    obtain ⟨_, _, _, _, written, split⟩ := in_run_some place piece url found
    exact ⟨written, split⟩
  exact {
    split := fun url member => (known url member).2
    stands := laid_stands laid [] rfl
    ordered := laid_ordered laid fun url member => (known url member).1 }

end LinkTidy.Url
