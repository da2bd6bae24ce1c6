import LinkTidy.Proofs.Text.Ranges
import LinkTidy.Proofs.Url.Candidates
import LinkTidy.Proofs.Url.Trimming
import Mathlib.Data.List.Pairwise
/-!
What the detector reports, by the matches that the search of the whole text gives: each match ends with its run, and each
address is what trimming leaves of its match.
-/

set_option autoImplicit false

namespace LinkTidy.Url

-- A part of a text that has no separators, and cannot be made longer on either side.
structure IsRun (lead run behind : Text) : Prop where
  plain : ∀ c ∈ run, isSeparator c = false
  front : ∀ c, lead.getLast? = some c → isSeparator c = true
  ending : ∀ c, behind.head? = some c → isSeparator c = true

theorem run_around (front : Text) :
    ∃ lead before, front = lead ++ before ∧ (∀ c ∈ before, isSeparator c = false) ∧
      ∀ c, lead.getLast? = some c → isSeparator c = true := by
  induction front using List.reverseRecOn with
  | nil => exact ⟨[], [], rfl, by simp, by simp⟩
  | append_singleton front last ih =>
      by_cases separates : isSeparator last = true
      · exact ⟨front ++ [last], [], by simp, by simp, by simpa using separates⟩
      · obtain ⟨lead, before, rfl, plain, ending⟩ := ih
        refine ⟨lead, before ++ [last], List.append_assoc _ _ _, ?_, ending⟩
        intro c member
        rcases List.mem_append.mp member with inside | same
        · exact plain c inside
        · rw [List.mem_singleton.mp same]
          exact Bool.eq_false_iff.mpr separates

theorem run_start_unique (lead before lead' before' : Text) (same : lead ++ before = lead' ++ before')
    (plain : ∀ c ∈ before, isSeparator c = false) (front : ∀ c, lead.getLast? = some c → isSeparator c = true)
    (plain' : ∀ c ∈ before', isSeparator c = false) (front' : ∀ c, lead'.getLast? = some c → isSeparator c = true) :
    lead = lead' ∧ before = before' := by
  have taken := take_run before.reverse lead.reverse (by simpa using plain) (by simpa using front)
  have taken' := take_run before'.reverse lead'.reverse (by simpa using plain') (by simpa using front')
  rw [← List.reverse_append, same, List.reverse_append, taken', List.reverse_inj] at taken
  rw [taken] at same
  exact ⟨List.append_cancel_right same, taken.symm⟩

theorem candidate_longer (word : Text) (c : Char) (candidate : Candidate word) (plain : isSeparator c = false) :
    Candidate (word ++ [c]) := by
  obtain ⟨stem, behind, starts, behindPlain, rfl⟩ := candidate
  refine ⟨stem, behind ++ [c], starts_longer stem behind [c] starts, ?_, List.append_assoc _ _ _⟩
  intro d member
  rcases List.mem_append.mp member with inside | same
  · exact behindPlain d inside
  · rw [List.mem_singleton.mp same]
    exact plain

-- A match stands where it is said to stand, and ends where its run ends: else the next character would make it longer.
theorem scan_stands {inWord : Bool} {offset : Nat} {text : Text} {found : List (Nat × Text)}
    (scan : Scan inWord offset text found) :
    ∀ m ∈ found, Candidate m.2 ∧ ∃ before behind, text = before ++ m.2 ++ behind ∧ m.1 = offset + byteLength before ∧
      ∀ c, behind.head? = some c → isSeparator c = true := by
  induction scan with
  | done => simp
  | skip _ offset c rest found _ _ ih =>
      intro m member
      obtain ⟨candidate, before, behind, rfl, place, ending⟩ := ih m member
      refine ⟨candidate, c :: before, behind, rfl, ?_, ending⟩
      rw [place, byteLength, Nat.add_assoc]
  | take _ offset word behind found _ candidate longest _ ih =>
      intro m member
      rcases List.mem_cons.mp member with rfl | later
      · refine ⟨candidate, [], behind, rfl, rfl, ?_⟩
        intro c first
        by_contra inside
        obtain ⟨more, rfl⟩ := List.head?_eq_some_iff.mp first
        have longer := candidate_longer word c candidate (Bool.eq_false_iff.mpr inside)
        have bound := longest (word ++ [c]) ⟨more, by simp⟩ longer
        rw [List.length_append, List.length_singleton] at bound
        omega
      · obtain ⟨other, before, rest, rfl, place, ending⟩ := ih m later
        refine ⟨other, word ++ before, rest, by simp [List.append_assoc], ?_, ending⟩
        rw [place, byte_length_append, Nat.add_assoc]

theorem scan_ordered {inWord : Bool} {offset : Nat} {text : Text} {found : List (Nat × Text)}
    (scan : Scan inWord offset text found) :
    (∀ m ∈ found, offset ≤ m.1) ∧ found.Pairwise fun m n => m.1 + byteLength m.2 ≤ n.1 := by
  induction scan with
  | done => exact ⟨by simp, .nil⟩
  | skip _ offset c rest found _ _ ih =>
      refine ⟨fun m member => ?_, ih.2⟩
      have bound := ih.1 m member
      omega
  | take _ offset word behind found _ _ _ _ ih =>
      refine ⟨?_, .cons ih.1 ih.2⟩
      intro m member
      rcases List.mem_cons.mp member with rfl | later
      · exact Nat.le_refl _
      · have bound := ih.1 m later
        omega

theorem scan_apart {inWord : Bool} {offset : Nat} {text : Text} {found : List (Nat × Text)}
    (scan : Scan inWord offset text found) (m n : Nat × Text) (here : m ∈ found) (there : n ∈ found) :
    m = n ∨ m.1 + byteLength m.2 ≤ n.1 ∨ n.1 + byteLength n.2 ≤ m.1 := by
  have ordered := (scan_ordered scan).2.imp fun {a b} before =>
    (Or.inl before : a.1 + byteLength a.2 ≤ b.1 ∨ b.1 + byteLength b.2 ≤ a.1)
  have symmetric : Std.Symm fun a b : Nat × Text => a.1 + byteLength a.2 ≤ b.1 ∨ b.1 + byteLength b.2 ≤ a.1 :=
    ⟨fun _ _ => Or.symm⟩
  by_cases same : m = n
  · exact .inl same
  · exact .inr (ordered.forall here there same)

section

variable {text : Text} {found : List (Nat × Text)} (scan : Scan false 0 text found)

include scan

-- Two parts of a text that begin at one place and reach up to the next separator are the same.
theorem match_is_run (m : Nat × Text) (member : m ∈ found) (before word behind : Text)
    (whole : text = before ++ word ++ behind) (place : m.1 = byteLength before)
    (plain : ∀ c ∈ word, isSeparator c = false) (ending : ∀ c, behind.head? = some c → isSeparator c = true) :
    m.2 = word := by
  obtain ⟨candidate, front, rest, split, stands, stops⟩ := scan_stands scan m member
  rw [Nat.zero_add] at stands
  rw [split, List.append_assoc, List.append_assoc] at whole
  obtain ⟨-, same⟩ := same_place whole (by rw [← stands, place])
  rw [← take_run m.2 rest (candidate_plain m.2 candidate) stops, same, take_run word behind plain ending]

-- So it makes no difference which of the forms a match is tried with, or how: behind its stem it takes what there is.
theorem match_of_any_form (m : Nat × Text) (member : m ∈ found) (before stem rest behind : Text)
    (whole : text = before ++ (stem ++ rest) ++ behind) (place : m.1 = byteLength before) (starts : Starts stem rest)
    (plain : ∀ c ∈ rest, isSeparator c = false) (ending : ∀ c, behind.head? = some c → isSeparator c = true) :
    m.2 = stem ++ rest := by
  apply match_is_run scan m member before (stem ++ rest) behind whole place _ ending
  intro c inside
  rcases List.mem_append.mp inside with first | second
  · exact starts_no_separator stem rest starts c first
  · exact plain c second

theorem detect_matches : detect text = found.filterMap fun m => ofFound? m.1 m.2 := by
  obtain ⟨other, otherScan, detected⟩ := detect_scanned text
  rw [detected, scan_unique otherScan scan]

theorem detect_match (url : Url) (detected : url ∈ detect text) :
    ∃ word, (url.offset, word) ∈ found ∧ url = ofText url.offset url.original ∧ url.original = trimEnd word ∧
      url.original ≠ [] := by
  rw [detect_matches scan, List.mem_filterMap] at detected
  obtain ⟨⟨offset, word⟩, member, some⟩ := detected
  obtain ⟨rfl, written⟩ := of_found_some offset word url some
  rw [of_text_offset, of_text_original]
  exact ⟨word, member, rfl, rfl, written⟩

end

-- An address, the match that it comes from, and the run of the match.
structure Matched (text : Text) (found : List (Nat × Text)) (url : Url) (lead before tail behind : Text) : Prop where
  run : IsRun lead (before ++ url.original ++ tail) behind
  whole : text = lead ++ (before ++ url.original ++ tail) ++ behind
  place : url.offset = byteLength (lead ++ before)
  found : (url.offset, url.original ++ tail) ∈ found
  trimmed : ∀ c ∈ tail, c ∈ trimmable
  longest : LongestFirm url.original (url.original ++ tail)
  again : trimEnd url.original = url.original

theorem detect_matched (text : Text) (found : List (Nat × Text)) (scan : Scan false 0 text found) (url : Url)
    (detected : url ∈ detect text) : ∃ lead before tail behind, Matched text found url lead before tail behind := by
  obtain ⟨word, member, -, written, -⟩ := detect_match scan url detected
  obtain ⟨candidate, front, behind, whole, place, ending⟩ := scan_stands scan _ member
  obtain ⟨lead, before, rfl, plain, leadEnding⟩ := run_around front
  obtain ⟨tail, joined, trimmed⟩ := trim_end_append word
  rw [← written] at joined
  dsimp only at candidate whole place
  rw [Nat.zero_add] at place
  refine ⟨lead, before, tail, behind, ?_⟩
  constructor
  case run =>
    refine ⟨?_, leadEnding, ending⟩
    intro c inside
    rw [List.append_assoc, ← joined] at inside
    rcases List.mem_append.mp inside with first | second
    · exact plain c first
    · exact candidate_plain word candidate c second
  case whole => rw [whole, joined]; simp only [List.append_assoc]
  case place => exact place
  case found => rwa [← joined]
  case trimmed => exact trimmed
  case longest =>
    rw [← joined, written]
    exact trim_end_longest word
  case again => rw [written, trim_end_again]

-- An address lies in a run of a text.
structure LiesIn (text lead run behind : Text) (url : Url) : Prop where
  isRun : IsRun lead run behind
  whole : text = lead ++ run ++ behind
  inside : ∃ before tail, run = before ++ url.original ++ tail ∧ url.offset = byteLength (lead ++ before)

section

variable {text : Text} {found : List (Nat × Text)} (scan : Scan false 0 text found) {lead behind : Text} (url : Url)

include scan

theorem match_ends_with_run (before tail word : Text) (run : IsRun lead (before ++ url.original ++ tail) behind)
    (whole : text = lead ++ (before ++ url.original ++ tail) ++ behind)
    (place : url.offset = byteLength (lead ++ before)) (member : (url.offset, word) ∈ found) :
    word = url.original ++ tail := by
  apply match_is_run scan (url.offset, word) member (lead ++ before) (url.original ++ tail) behind _ place _ run.ending
  · simpa only [List.append_assoc] using whole
  · intro c inside
    apply run.plain c
    rw [List.append_assoc]
    exact List.mem_append_right before inside

theorem match_reaches (detected : url ∈ detect text) (run word : Text) (lies : LiesIn text lead run behind url)
    (member : (url.offset, word) ∈ found) :
    url.offset + byteLength word = byteLength (lead ++ run) ∧ url.offset < byteLength (lead ++ run) := by
  obtain ⟨isRun, whole, before, tail, rfl, place⟩ := lies
  obtain ⟨_, -, -, -, written⟩ := detect_match scan url detected
  have size : byteLength url.original ≠ 0 := fun zero => written (byte_length_zero _ zero)
  rw [match_ends_with_run scan url before tail word isRun whole place member, place]
  simp only [byte_length_append]
  omega

end

theorem detect_in_one_run (text : Text) (url : Url) (detected : url ∈ detect text)
    (lead run behind lead' run' behind' : Text) (lies : LiesIn text lead run behind url)
    (lies' : LiesIn text lead' run' behind' url) : lead = lead' ∧ run = run' := by
  obtain ⟨found, scan, -⟩ := detect_scanned text
  obtain ⟨word, member, -⟩ := detect_match scan url detected
  obtain ⟨isRun, whole, before, tail, rfl, place⟩ := lies
  obtain ⟨isRun', whole', before', tail', rfl, place'⟩ := lies'
  have ends := match_ends_with_run scan url before tail word isRun whole place member
  rw [match_ends_with_run scan url before' tail' word isRun' whole' place' member] at ends
  have split := whole.symm.trans whole'
  simp only [← List.append_assoc lead, ← List.append_assoc lead', List.append_assoc _ url.original,
    List.append_assoc _ (url.original ++ _)] at split
  obtain ⟨fronts, -⟩ := same_place split (by rw [← place, place'])
  obtain ⟨rfl, rfl⟩ := run_start_unique lead before lead' before' fronts
    (fun c member => isRun.plain c (List.mem_append_left _ (List.mem_append_left _ member))) isRun.front
    (fun c member => isRun'.plain c (List.mem_append_left _ (List.mem_append_left _ member))) isRun'.front
  exact ⟨rfl, by rw [List.append_assoc, List.append_assoc, ends]⟩

-- The match of an address takes the rest of the run, so nothing else can begin there.
theorem detect_once_in_run (text lead run behind : Text) (a : Url) (here : a ∈ detect text) (b : Url)
    (there : b ∈ detect text) (lies : LiesIn text lead run behind a) (also : LiesIn text lead run behind b) : a = b := by
  obtain ⟨found, scan, -⟩ := detect_scanned text
  obtain ⟨one, oneFound, oneIs, oneTrimmed, -⟩ := detect_match scan a here
  obtain ⟨two, twoFound, twoIs, twoTrimmed, -⟩ := detect_match scan b there
  have first := match_reaches scan a here run one lies oneFound
  have second := match_reaches scan b there run two also twoFound
  rcases scan_apart scan _ _ oneFound twoFound with same | before | behind
  · obtain ⟨offsets, words⟩ := Prod.mk.inj same
    rw [oneIs, twoIs, oneTrimmed, twoTrimmed, offsets, words]
  · dsimp only at before
    omega
  · dsimp only at behind
    omega

-- What the detector promises of any text, by the matches that its addresses come from.
structure Detected (text : Text) (found : List (Nat × Text)) (urls : List Url) : Prop where
  matches_only : ∀ other, Scan false 0 text other → other = found
  any_form : ∀ m ∈ found, ∀ before stem rest behind, text = before ++ (stem ++ rest) ++ behind →
    m.1 = byteLength before → Starts stem rest → (∀ c ∈ rest, isSeparator c = false) →
    (∀ c, behind.head? = some c → isSeparator c = true) → m.2 = stem ++ rest
  read : ∀ url ∈ urls, url.original ≠ [] ∧
    range? url.offset (url.offset + byteLength url.original) text = some url.original
  ordered : urls.Pairwise fun a b => a.offset < b.offset ∧ a.offset + byteLength a.original ≤ b.offset
  matched : ∀ url ∈ urls, ∃ lead before tail behind, Matched text found url lead before tail behind
  in_one_run : ∀ url ∈ urls, ∀ lead run behind lead' run' behind', LiesIn text lead run behind url →
    LiesIn text lead' run' behind' url → lead = lead' ∧ run = run'
  alone_in_run : ∀ lead run behind, ∀ a ∈ urls, ∀ b ∈ urls, LiesIn text lead run behind a →
    LiesIn text lead run behind b → a = b

theorem detection_sound (text : Text) :
    ∃ found, Scan false 0 text found ∧ Detected text found (detect text) := by
  obtain ⟨found, scan, -⟩ := detect_scanned text
  have located := detect_located text
  refine ⟨found, scan, ?_⟩
  constructor
  case matches_only => exact fun other otherScan => scan_unique otherScan scan
  case any_form => exact match_of_any_form scan
  case ordered => exact located.ordered
  case matched => exact detect_matched text found scan
  case in_one_run => exact detect_in_one_run text
  case alone_in_run => exact detect_once_in_run text
  case read =>
    intro url detected
    obtain ⟨_, -, -, -, written⟩ := detect_match scan url detected
    obtain ⟨before, behind, whole, place⟩ := located.stands url detected
    refine ⟨written, (range_some_iff _ _ _ _).mpr ⟨before, behind, whole, place, ?_⟩⟩
    rw [byte_length_append, place]

end LinkTidy.Url
