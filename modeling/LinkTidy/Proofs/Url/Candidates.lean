import LinkTidy.Proofs.Url.Runs
import LinkTidy.Proofs.Url.Starts
/-!
What finding addresses means without runs: a search of the whole text for words of the three forms, each at the edge of a
word, leftmost first and as long as can be. No such word holds a separator, so the search never leaves a run.
-/

set_option autoImplicit false

namespace LinkTidy.Url

open Unicode (isWord isBlank)

-- A word of one of the three forms: a stem, and what stands behind it.
def Candidate (word : Text) : Prop :=
  ∃ stem behind, Starts stem behind ∧ (∀ c ∈ behind, isSeparator c = false) ∧ word = stem ++ behind

-- Whether a place between two characters is an edge: one of them is in a word and the other one is not.
def AtEdge (inWord : Bool) (text : Text) : Prop :=
  inWord ≠ text.head?.any isWord

-- The candidates that are found in a text, with their offsets. `inWord` tells of the character in front of the text.
inductive Scan : Bool → Nat → Text → List (Nat × Text) → Prop where
  | done (inWord : Bool) (offset : Nat) : Scan inWord offset [] []
  | skip (inWord : Bool) (offset : Nat) (c : Char) (rest : Text) (found : List (Nat × Text))
      (none : AtEdge inWord (c :: rest) → ∀ word, word <+: c :: rest → ¬ Candidate word)
      (later : Scan (isWord c) (offset + c.utf8Size) rest found) : Scan inWord offset (c :: rest) found
  | take (inWord : Bool) (offset : Nat) (word behind : Text) (found : List (Nat × Text))
      (edge : AtEdge inWord (word ++ behind)) (candidate : Candidate word)
      (longest : ∀ other, other <+: word ++ behind → Candidate other → other.length ≤ word.length)
      (later : Scan (word.getLast?.any isWord) (offset + byteLength word) behind found) :
      Scan inWord offset (word ++ behind) ((offset, word) :: found)

-- All separators.
def separators : Text :=
  ['\t', '\n', '\x0b', '\x0c', '\r', ' ', '\u0085', '\u00a0', '\u1680', '\u2000', '\u2001', '\u2002', '\u2003', '\u2004',
    '\u2005', '\u2006', '\u2007', '\u2008', '\u2009', '\u200a', '\u2028', '\u2029', '\u202f', '\u205f', '\u3000', '<', '>']

theorem separator_listed (c : Char) (separates : isSeparator c = true) : c ∈ separators := by
  rw [← List.mem_map_of_injective (f := Char.toNat) fun a b same => Char.toNat_inj.mp same]
  simp only [isSeparator, Bool.or_eq_true, decide_eq_true_eq] at separates
  rcases separates with (blank | rfl) | rfl
  · simp only [isBlank, Unicode.blankRanges, Unicode.covers] at blank
    change c.toNat ∈ [9, 10, 11, 12, 13, 32, 133, 160, 5760, 8192, 8193, 8194, 8195, 8196, 8197, 8198, 8199, 8200, 8201,
      8202, 8232, 8233, 8239, 8287, 12288, 60, 62]
    generalize c.toNat = n at blank
    simp at blank ⊢
    omega
  · decide
  · decide

theorem starts_no_separator (stem behind : Text) (starts : Starts stem behind) : ∀ c ∈ stem, isSeparator c = false := by
  intro c member
  by_contra separates
  have foreign : separators.all (fun d => decide (Foreign d)) = true := by decide
  have listed := separator_listed c (Bool.not_eq_false _ ▸ separates)
  exact starts_foreign stem behind starts c (of_decide_eq_true (List.all_eq_true.mp foreign c listed)) member

theorem candidate_plain (word : Text) (candidate : Candidate word) : ∀ c ∈ word, isSeparator c = false := by
  obtain ⟨stem, behind, starts, plain, rfl⟩ := candidate
  intro c member
  rcases List.mem_append.mp member with inside | inside
  · exact starts_no_separator stem behind starts c inside
  · exact plain c inside

theorem separator_no_word (c : Char) (separates : isSeparator c = true) : isWord c = false := by
  have each : (separators.all fun d => !isWord d) = true := by decide +kernel
  simpa using List.all_eq_true.mp each c (separator_listed c separates)

theorem letter_in_word (c : Char) (letter : isLetterOrDigit c = true) : isWord c = true := by
  have ascii : ∀ n < 128, isLetterOrDigit (Char.ofNat n) = true → isWord (Char.ofNat n) = true := by decide +kernel
  by_cases small : c.toNat < 128
  · have known := ascii c.toNat small
    rw [Char.ofNat_toNat] at known
    exact known letter
  · -- Only the two cases of `s` and `k` outside ASCII are left.
    have cases : c = '\u017F' ∨ c = '\u212A' := by
      by_contra other
      rw [not_or] at other
      have each : c.isAlphanum = (c.isAlpha || c.isDigit) := rfl
      simp only [isLetterOrDigit, isLetter, other.1, other.2, decide_false, Bool.or_false] at letter
      exact small (alphanum_ascii c (each.trans letter))
    rcases cases with rfl | rfl <;> decide +kernel

theorem host_name_labels (name : Text) (named : isHostName name = true) :
    ∃ first next others, fields '.' name = first :: next :: others ∧ isLabel first = true := by
  rw [isHostName] at named
  split at named
  · cases named
  · simp only [Bool.and_eq_true, decide_eq_true_eq] at named
    obtain ⟨⟨⟨many, labels⟩, -⟩, -⟩ := named
    obtain ⟨first, rest, split⟩ := List.exists_cons_of_ne_nil (fields_ne_nil '.' name)
    rw [split] at many labels
    cases rest with
    | nil => exact absurd many (by simp)
    | cons next others =>
        rw [List.dropLast_cons_of_ne_nil (List.cons_ne_nil next others), List.all_cons, Bool.and_eq_true] at labels
        exact ⟨first, next, others, split, labels.1⟩

theorem host_name_first (c : Char) (rest : Text) (named : isHostName (c :: rest) = true) : isLetterOrDigit c = true := by
  obtain ⟨first, next, others, split, label⟩ := host_name_labels _ named
  rw [isLabel, Bool.and_eq_true] at label
  by_cases dot : c = '.'
  · -- A dot in front would make an empty first label.
    rw [dot, fields_cons_sep, List.cons.injEq] at split
    rw [← split.1] at label
    exact absurd label.1 (by simp)
  · obtain ⟨more, _, -, step⟩ := fields_cons_other '.' c rest dot
    rw [step, List.cons.injEq] at split
    rw [← split.1] at label
    simpa using label.1

theorem starts_in_word (stem behind : Text) (starts : Starts stem behind) :
    ∃ c more, stem = c :: more ∧ isWord c = true := by
  cases starts with
  | scheme c name _ letter _ _ =>
      refine ⟨c, _, List.cons_append .., letter_in_word c ?_⟩
      rw [isLetterOrDigit, letter, Bool.true_or]
  | www a b c _ each _ =>
      refine ⟨a, _, rfl, ?_⟩
      rcases each a List.mem_cons_self with rfl | rfl <;> decide +kernel
  | host name port opening _ named _ _ _ =>
      cases name with
      | nil => cases named
      | cons c rest => exact ⟨c, _, List.cons_append .., letter_in_word c (host_name_first c rest named)⟩

theorem candidate_in_word (word : Text) (candidate : Candidate word) : ∃ c more, word = c :: more ∧ isWord c = true := by
  obtain ⟨stem, behind, starts, -, rfl⟩ := candidate
  obtain ⟨c, more, rfl, inWord⟩ := starts_in_word stem behind starts
  exact ⟨c, more ++ behind, rfl, inWord⟩

theorem starts_longer (stem behind more : Text) (starts : Starts stem behind) : Starts stem (behind ++ more) := by
  cases starts with
  | scheme c name _ letter each some => exact .scheme c name _ letter each (by simp [some])
  | www a b c _ each some => exact .www a b c _ each (by simp [some])
  | host name port opening _ named each ported opens => exact .host name port opening _ named each ported opens

-- In a run an address starts exactly where a candidate does.
theorem starts_address_candidate (run : Text) (plain : ∀ c ∈ run, isSeparator c = false) :
    startsAddress run = true ↔ ∃ word, word <+: run ∧ Candidate word := by
  rw [starts_address_iff]
  constructor
  · rintro ⟨stem, behind, starts, rfl⟩
    exact ⟨stem ++ behind, List.prefix_rfl, stem, behind, starts,
      fun c member => plain c (List.mem_append_right _ member), rfl⟩
  · rintro ⟨word, ⟨more, rfl⟩, stem, behind, starts, -, rfl⟩
    exact ⟨stem, behind ++ more, starts_longer stem behind more starts, List.append_assoc _ _ _⟩

theorem scan_unique_of_eq {inWord : Bool} {offset : Nat} {text other : Text} {found found' : List (Nat × Text)}
    (one : Scan inWord offset text found) (two : Scan inWord offset other found') (same : text = other) :
    found = found' := by
  have written : ∀ word behind, Candidate word → word ++ behind ≠ [] := by
    intro word behind candidate
    obtain ⟨c, more, rfl, -⟩ := candidate_in_word word candidate
    exact List.cons_ne_nil _ _
  induction one generalizing other found' with
  | done =>
      cases two with
      | done => rfl
      | skip => cases same
      | take _ _ word behind _ _ candidate => exact absurd same.symm (written word behind candidate)
  | skip _ _ c rest _ none _ ih =>
      cases two with
      | done => cases same
      | skip _ _ _ _ _ _ later =>
          obtain ⟨rfl, rfl⟩ := List.cons.inj same
          exact ih later rfl
      | take _ _ word behind _ edge candidate =>
          rw [← same] at edge
          exact absurd candidate (none edge word ⟨behind, same.symm⟩)
  | take _ _ word behind _ edge candidate longest _ ih =>
      cases two with
      | done => exact absurd same (written word behind candidate)
      | skip _ _ c rest _ none =>
          rw [same] at edge
          exact absurd candidate (none edge word ⟨behind, same⟩)
      | take _ _ word' behind' _ _ candidate' longest' later =>
          -- Each of the two words is as long as can be, so they are the same beginning of the text.
          have upper := longest word' ⟨behind', same.symm⟩ candidate'
          have lower := longest' word ⟨behind, same⟩ candidate
          obtain ⟨rfl, rfl⟩ := List.append_inj same (Nat.le_antisymm lower upper)
          rw [ih later rfl]

theorem scan_unique {inWord : Bool} {offset : Nat} {text : Text} {found found' : List (Nat × Text)}
    (one : Scan inWord offset text found) (two : Scan inWord offset text found') : found = found' :=
  scan_unique_of_eq one two rfl

-- The candidate of a run, with its offset.
def candidateIn? (inWord : Bool) (offset : Nat) (run : Text) : Option (Nat × Text) :=
  (cutAtAddress? inWord run).map fun cut => (offset + byteLength cut.1, cut.2)

theorem candidate_in_here (inWord : Bool) (offset : Nat) (c : Char) (rest : Text)
    (starts : (!inWord && startsAddress (c :: rest)) = true) :
    candidateIn? inWord offset (c :: rest) = some (offset, c :: rest) := by
  rw [candidateIn?, cutAtAddress?, if_pos starts]
  rfl

theorem candidate_in_later (inWord : Bool) (offset : Nat) (c : Char) (rest : Text)
    (quiet : ¬ (!inWord && startsAddress (c :: rest)) = true) :
    candidateIn? inWord offset (c :: rest) = candidateIn? (isWord c) (offset + c.utf8Size) rest := by
  rw [candidateIn?, cutAtAddress?, if_neg quiet, Option.map_map, candidateIn?]
  congr 1
  funext cut
  simp [byteLength, Nat.add_assoc]

theorem scan_run (run behind : Text) (found : List (Nat × Text)) (inWord : Bool) (offset : Nat)
    (plain : ∀ c ∈ run, isSeparator c = false) (ending : ∀ c, behind.head? = some c → isSeparator c = true)
    (later : ∀ inWord, Scan inWord (offset + byteLength run) behind found) :
    Scan inWord offset (run ++ behind) ((candidateIn? inWord offset run).toList ++ found) := by
  have inside (word run : Text) (begins : word <+: run ++ behind) (candidate : Candidate word) : word <+: run := by
    apply prefix_before_stop word run behind _ begins
    intro sign first member
    have separates := ending sign first
    rw [candidate_plain word candidate sign member] at separates
    cases separates
  induction run generalizing inWord offset with
  | nil => exact later inWord
  | cons c rest ih =>
      by_cases starts : (!inWord && startsAddress (c :: rest)) = true
      · rw [candidate_in_here inWord offset c rest starts]
        rw [Bool.and_eq_true, Bool.not_eq_true'] at starts
        obtain ⟨stem, more, begun, whole⟩ := (starts_address_iff _).mp starts.2
        have candidate : Candidate (c :: rest) :=
          ⟨stem, more, begun, fun d member => plain d (whole ▸ List.mem_append_right _ member), whole⟩
        refine .take inWord offset (c :: rest) behind found ?_ candidate ?_ (later _)
        · obtain ⟨_, _, same, inside⟩ := candidate_in_word _ candidate
          rw [AtEdge, starts.1, same]
          simp [inside]
        · intro other begins also
          exact (inside other _ begins also).length_le
      · rw [candidate_in_later inWord offset c rest starts, List.cons_append]
        refine .skip inWord offset c (rest ++ behind) _ ?_ ?_
        · intro edge word begins candidate
          -- A candidate begins inside a word, so at an edge there is none in front of it.
          have begun := inside word (c :: rest) begins candidate
          obtain ⟨d, more, rfl, first⟩ := candidate_in_word word candidate
          obtain rfl : d = c := (List.cons_prefix_cons.mp begun).1
          have fresh : inWord = false := by simpa [AtEdge, first] using edge
          exact starts (by rw [fresh, (starts_address_candidate _ plain).mpr ⟨_, begun, candidate⟩]; rfl)
        · apply ih
          · exact fun d member => plain d (List.mem_cons_of_mem _ member)
          · intro inWord
            have rest := later inWord
            rwa [byteLength, ← Nat.add_assoc] at rest

-- The candidates of a run and of those behind it.
def candidatesIn (offset : Nat) (run : Text) : List (Char × Text) → List (Nat × Text)
  | [] => (candidateIn? false offset run).toList
  | (separator, next) :: others =>
      (candidateIn? false offset run).toList ++
        candidatesIn (offset + byteLength run + separator.utf8Size) next others

theorem scan_runs (offset : Nat) (run : Text) (others : List (Char × Text)) (cut : AreRuns run others) :
    Scan false offset (joinRuns run others) (candidatesIn offset run others) := by
  induction others generalizing offset run with
  | nil =>
      have whole := scan_run run [] [] false offset cut.first (by simp) fun inWord => .done inWord _
      simpa [joinRuns, candidatesIn] using whole
  | cons other others ih =>
      obtain ⟨separator, next⟩ := other
      rw [join_runs_cons, candidatesIn]
      apply scan_run run _ _ false offset cut.first (by simpa using cut.tail.1)
      intro inWord
      refine .skip inWord _ separator _ _ ?_ ?_
      · intro _ word begins candidate
        obtain ⟨c, more, rfl, -⟩ := candidate_in_word word candidate
        obtain rfl : c = separator := (List.cons_prefix_cons.mp begins).1
        exact absurd cut.tail.1 (by rw [candidate_plain _ candidate c List.mem_cons_self]; exact Bool.false_ne_true)
      · rw [separator_no_word separator cut.tail.1]
        exact ih _ next cut.tail.2

theorem in_run_candidate (offset : Nat) (run : Text) :
    (inRun? offset run).toList = (candidateIn? false offset run).toList.filterMap fun m => ofFound? m.1 m.2 := by
  rw [inRun?, candidateIn?]
  cases cutAtAddress? false run with
  | none => rfl
  | some cut => cases some : ofFound? (offset + byteLength cut.1) cut.2 <;> simp [some]

theorem in_runs_candidates (offset : Nat) (run : Text) (others : List (Char × Text)) :
    inRuns offset run others = (candidatesIn offset run others).filterMap fun m => ofFound? m.1 m.2 := by
  induction others generalizing offset run with
  | nil => exact in_run_candidate offset run
  | cons other others ih =>
      obtain ⟨separator, next⟩ := other
      rw [inRuns, candidatesIn, List.filterMap_append, in_run_candidate, ih]

theorem detect_scanned (text : Text) :
    ∃ found, Scan false 0 text found ∧ detect text = found.filterMap fun m => ofFound? m.1 m.2 := by
  have scanned := scan_runs 0 (runs text).1 (runs text).2 (are_runs text)
  rw [runs_join] at scanned
  exact ⟨_, scanned, in_runs_candidates 0 _ _⟩

end LinkTidy.Url
