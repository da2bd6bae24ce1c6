import LinkTidy.Proofs.Url.Detection
/-!
The runs of a text, each searched on its own: what is found in a text is what is found in its runs, moved to where they
begin.
-/

set_option autoImplicit false

namespace LinkTidy.Url

-- A run that a text begins with, and others behind their separators.
structure AreRuns (run : Text) (others : List (Char × Text)) : Prop where
  first : ∀ c ∈ run, isSeparator c = false
  separators : ∀ other ∈ others, isSeparator other.1 = true
  later : ∀ other ∈ others, ∀ c ∈ other.2, isSeparator c = false

theorem runs_cons_separator (separator : Char) (rest : Text) (separates : isSeparator separator = true) :
    runs (separator :: rest) = ([], (separator, (runs rest).1) :: (runs rest).2) := if_pos separates

theorem runs_append (run rest : Text) (plain : ∀ c ∈ run, isSeparator c = false) :
    runs (run ++ rest) = (run ++ (runs rest).1, (runs rest).2) := by
  induction run with
  | nil => rfl
  | cons c more ih =>
      have here : ¬ isSeparator c = true := Bool.eq_false_iff.mp (plain c List.mem_cons_self)
      have later := ih fun d member => plain d (List.mem_cons_of_mem _ member)
      have step : runs (c :: (more ++ rest)) = (c :: (runs (more ++ rest)).1, (runs (more ++ rest)).2) := if_neg here
      rw [List.cons_append, step, later, List.cons_append]

theorem are_runs (text : Text) : AreRuns (runs text).1 (runs text).2 := by
  induction text with
  | nil => exact ⟨by simp [runs], by simp [runs], by simp [runs]⟩
  | cons c rest ih =>
      by_cases separates : isSeparator c = true
      · rw [runs_cons_separator c rest separates]
        exact ⟨by simp, by simpa using ⟨separates, fun a b => ih.separators (a, b)⟩,
          by simpa using ⟨ih.first, fun a b => ih.later (a, b)⟩⟩
      · have here : isSeparator c = false := Bool.eq_false_iff.mpr separates
        have step := runs_append [c] rest (by simpa using here)
        rw [List.singleton_append] at step
        rw [step]
        exact ⟨by simpa using ⟨here, ih.first⟩, ih.separators, ih.later⟩

theorem AreRuns.tail {run next : Text} {separator : Char} {others : List (Char × Text)}
    (cut : AreRuns run ((separator, next) :: others)) : isSeparator separator = true ∧ AreRuns next others :=
  ⟨cut.separators _ List.mem_cons_self, {
    first := cut.later _ List.mem_cons_self
    separators := fun other member => cut.separators other (List.mem_cons_of_mem _ member)
    later := fun other member => cut.later other (List.mem_cons_of_mem _ member) }⟩

theorem runs_of_join (run : Text) (others : List (Char × Text)) (cut : AreRuns run others) :
    runs (joinRuns run others) = (run, others) := by
  induction others generalizing run with
  | nil =>
      have plain := runs_append run [] cut.first
      simpa [joinRuns, runs] using plain
  | cons other others ih =>
      obtain ⟨separator, next⟩ := other
      rw [join_runs_cons, runs_append run _ cut.first, runs_cons_separator separator _ cut.tail.1,
        ih next cut.tail.2, List.append_nil]

-- All runs of a text.
def pieces (text : Text) : List Text :=
  (runs text).1 :: (runs text).2.map (·.2)

theorem of_found_moved (distance offset : Nat) (found : Text) :
    ofFound? (distance + offset) found = (ofFound? offset found).map (moved distance) := by
  rw [ofFound?, ofFound?]
  split
  · rfl
  · rfl

theorem in_run_moved (offset : Nat) (run : Text) : inRun? offset run = (inRun? 0 run).map (moved offset) := by
  rw [inRun?, inRun?]
  cases cutAtAddress? false run with
  | none => rfl
  | some cut =>
      rw [Option.bind_some, Option.bind_some, ← of_found_moved, Nat.zero_add]

-- What stands between an address and the end of its run.
def tailBehind (text : Text) (url : Url) : Text :=
  (slice (url.offset + byteLength url.original) (byteLength text) text).takeWhile (!isSeparator ·)

theorem trimmable_no_separator (c : Char) (trimmed : c ∈ trimmable) : isSeparator c = false := by
  have each : (trimmable.all fun d => !isSeparator d) = true := by decide
  simpa using List.all_eq_true.mp each c trimmed

theorem take_run (run behind : Text) (plain : ∀ c ∈ run, isSeparator c = false)
    (ending : ∀ c, behind.head? = some c → isSeparator c = true) :
    (run ++ behind).takeWhile (!isSeparator ·) = run := by
  have passed : ∀ c ∈ run, (!isSeparator c) = true := by
    intro c member
    rw [plain c member]
    rfl
  rw [List.takeWhile_append_of_pos passed]
  cases behind with
  | nil => exact List.append_nil run
  | cons c more => simp [ending c rfl]

theorem tail_behind_append (url : Url) (before tail behind : Text) (place : url.offset = byteLength before)
    (plain : ∀ c ∈ tail, isSeparator c = false) (ending : ∀ c, behind.head? = some c → isSeparator c = true) :
    tailBehind (before ++ url.original ++ tail ++ behind) url = tail := by
  have rest := slice_middle (before ++ url.original) (tail ++ behind) []
  rw [List.append_nil, ← List.append_assoc, byte_length_append before, ← place] at rest
  rw [tailBehind, rest, take_run tail behind plain ending]

theorem tail_behind_in_run (lead run behind : Text) (url : Url) (found : inRun? 0 run = some url)
    (plain : ∀ c ∈ run, isSeparator c = false) (ending : ∀ c, behind.head? = some c → isSeparator c = true) :
    tailBehind (lead ++ (run ++ behind)) (url.moved (byteLength lead)) = tailBehind run url := by
  obtain ⟨before, tail, rfl, place, -, -⟩ := in_run_some 0 run url found
  rw [Nat.zero_add] at place
  have tailPlain : ∀ c ∈ tail, isSeparator c = false := fun c member => plain c (List.mem_append_right _ member)
  have here := tail_behind_append url before tail [] place tailPlain (by simp)
  have there := tail_behind_append (url.moved (byteLength lead)) (lead ++ before) tail behind
    (by rw [byte_length_append, ← place]; rfl) tailPlain ending
  rw [moved_original] at there
  rw [List.append_nil] at here
  rw [here]
  simpa only [List.append_assoc] using there

section

variable (question : Url → Text → Prop)
  (anywhere : ∀ distance url tail, question (url.moved distance) tail ↔ question url tail)

include anywhere

theorem exists_in_run (lead run behind : Text) (plain : ∀ c ∈ run, isSeparator c = false)
    (ending : ∀ c, behind.head? = some c → isSeparator c = true) :
    (∃ url ∈ (inRun? (byteLength lead) run).toList, question url (tailBehind (lead ++ (run ++ behind)) url)) ↔
      ∃ url, inRun? 0 run = some url ∧ question url (tailBehind run url) := by
  rw [in_run_moved]
  cases found : inRun? 0 run with
  | none => simp
  | some url =>
      have same := tail_behind_in_run lead run behind url found plain ending
      simp [same, anywhere]

theorem exists_in_runs (lead run : Text) (others : List (Char × Text)) (cut : AreRuns run others) :
    (∃ url ∈ inRuns (byteLength lead) run others, question url (tailBehind (lead ++ joinRuns run others) url)) ↔
      ∃ piece ∈ run :: others.map (·.2), ∃ url, inRun? 0 piece = some url ∧ question url (tailBehind piece url) := by
  induction others generalizing lead run with
  | nil => simpa [joinRuns, inRuns] using exists_in_run question anywhere lead run [] cut.first (by simp)
  | cons other others ih =>
      obtain ⟨separator, next⟩ := other
      have here := exists_in_run question anywhere lead run (separator :: joinRuns next others) cut.first
        (by simpa using cut.tail.1)
      -- The next run begins where the lead, this run and the separator end.
      have later := ih (lead ++ run ++ [separator]) next cut.tail.2
      have size : byteLength (lead ++ run ++ [separator]) = byteLength lead + byteLength run + separator.utf8Size := by
        rw [byte_length_append, byte_length_append]
        rfl
      have whole : lead ++ run ++ [separator] ++ joinRuns next others =
          lead ++ (run ++ separator :: joinRuns next others) := by simp
      rw [size, whole] at later
      simp only [join_runs_cons, inRuns, List.map_cons, List.mem_append, or_and_right, exists_or]
      rw [here, later]
      generalize next :: others.map (·.2) = more
      simp only [List.mem_cons, or_and_right, exists_or, exists_eq_left]

-- A question about an address and what stands behind it, asked of the addresses of a text, can be asked of each run
-- on its own.
theorem exists_in_pieces (text : Text) :
    (∃ url ∈ detect text, question url (tailBehind text url)) ↔
      ∃ piece ∈ pieces text, ∃ url, inRun? 0 piece = some url ∧ question url (tailBehind piece url) := by
  have each := exists_in_runs question anywhere [] (runs text).1 (runs text).2 (are_runs text)
  rw [List.nil_append, runs_join] at each
  exact each

end

theorem cut_at_address_starts (inWord : Bool) (run before found : Text)
    (cut : cutAtAddress? inWord run = some (before, found)) : startsAddress found = true := by
  induction run generalizing inWord before with
  | nil => cases cut
  | cons c rest ih =>
      rw [cutAtAddress?] at cut
      split at cut
      · rename_i starts
        simp only [Option.some.injEq, Prod.mk.injEq] at cut
        rw [← cut.2]
        exact (Bool.and_eq_true _ _ ▸ starts).2
      · simp only [Option.map_eq_some_iff, Prod.mk.injEq, Prod.exists] at cut
        obtain ⟨earlier, later, deeper, -, rfl⟩ := cut
        exact ih _ earlier deeper

theorem cut_at_address_here (found : Text) (starts : startsAddress found = true) :
    cutAtAddress? false found = some ([], found) := by
  cases found with
  | nil => cases starts
  | cons c rest => rw [cutAtAddress?, if_pos (by rw [starts]; rfl)]

-- An address that begins nowhere before where it was found, whatever is now found there, does not begin earlier.
theorem cut_at_address_again (inWord : Bool) (before found other : Text)
    (cut : cutAtAddress? inWord (before ++ found) = some (before, found))
    (calm : ∀ piece, piece <:+ before → startsAddress (piece ++ other) = true → startsAddress (piece ++ found) = true) :
    cutAtAddress? inWord (before ++ other) =
      (cutAtAddress? false other).map fun (more, rest) => (before ++ more, rest) := by
  induction before generalizing inWord with
  | nil =>
      -- An address that began here was found with the same mark, so the mark allows another one to begin.
      have fresh : inWord = false := by
        cases found with
        | nil => cases cut
        | cons c rest =>
            cases inWord with
            | false => rfl
            | true => simp [cutAtAddress?] at cut
      rw [fresh, List.nil_append]
      simp
  | cons c earlier ih =>
      -- The cut lies behind this character, so no address begins at it; and `calm` keeps it so.
      have quiet : ¬ ((!inWord && startsAddress (c :: (earlier ++ found))) = true) := by
        intro begins
        rw [List.cons_append, cutAtAddress?, if_pos begins] at cut
        simp at cut
      rw [List.cons_append, cutAtAddress?, if_neg quiet] at cut
      simp only [Option.map_eq_some_iff, Prod.mk.injEq, List.cons.injEq, Prod.exists] at cut
      obtain ⟨_, _, deeper, ⟨-, sameFront⟩, sameFound⟩ := cut
      rw [sameFront, sameFound] at deeper
      have quietStill : ¬ ((!inWord && startsAddress (c :: (earlier ++ other))) = true) := by
        intro begins
        rw [Bool.and_eq_true] at begins
        exact quiet (Bool.and_eq_true _ _ ▸ ⟨begins.1, calm (c :: earlier) List.suffix_rfl begins.2⟩)
      have later := ih _ deeper fun piece suffix => calm piece (suffix.trans (List.suffix_cons c earlier))
      rw [List.cons_append, cutAtAddress?, if_neg quietStill, later, Option.map_map]
      rfl

theorem in_run_again (before found other : Text)
    (cut : cutAtAddress? false (before ++ found) = some (before, found))
    (calm : ∀ piece, piece <:+ before → startsAddress (piece ++ other) = true → startsAddress (piece ++ found) = true) :
    inRun? 0 (before ++ other) = (inRun? 0 other).map (moved (byteLength before)) := by
  rw [inRun?, inRun?, cut_at_address_again false before found other cut calm]
  cases cutAtAddress? false other with
  | none => rfl
  | some parts =>
      obtain ⟨more, rest⟩ := parts
      change ofFound? (0 + byteLength (before ++ more)) rest =
        (ofFound? (0 + byteLength more) rest).map (moved (byteLength before))
      rw [← of_found_moved, byte_length_append, Nat.zero_add, Nat.zero_add]

end LinkTidy.Url
