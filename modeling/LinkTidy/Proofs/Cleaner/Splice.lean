import LinkTidy.Cleaner
import LinkTidy.Proofs.Rule.Stripping
import LinkTidy.Proofs.Url.Detection
/-!
Putting rewritten addresses back from right to left is copying the text from left to right with every address replaced.
-/

set_option autoImplicit false

namespace LinkTidy.Cleaner

open Rule (applyAll kept)

-- The text from byte `start` on with every address replaced: gap, address, gap, …, address, gap.
def rebuilt (replace : Url → Text) (text : Text) (start : Nat) : List Url → Text
  | [] => slice start (byteLength text) text
  | url :: rest =>
      slice start url.offset text ++ replace url ++ rebuilt replace text (url.offset + byteLength url.original) rest

theorem rebuilt_next (replace : Url → Text) (lead gap behind : Text) (url : Url) (rest : List Url)
    (place : url.offset = byteLength (lead ++ gap)) :
    rebuilt replace (lead ++ (gap ++ url.original ++ behind)) (byteLength lead) (url :: rest) =
      gap ++ replace url ++
        rebuilt replace (lead ++ (gap ++ url.original ++ behind)) (byteLength (lead ++ gap ++ url.original)) rest := by
  have skipped := slice_middle lead gap (url.original ++ behind)
  rw [List.append_assoc lead, ← List.append_assoc gap] at skipped
  rw [rebuilt, place, skipped, byte_length_append (lead ++ gap)]

theorem rebuilt_gap (replace : Url → Text) (lead gap text : Text) (urls : List Url)
    (laid : Url.Laid (byteLength (lead ++ gap)) text urls) :
    rebuilt replace (lead ++ (gap ++ text)) (byteLength lead) urls =
      gap ++ rebuilt replace (lead ++ (gap ++ text)) (byteLength (lead ++ gap)) urls := by
  cases laid with
  | done =>
      have whole := slice_middle lead (gap ++ text) []
      have rest := slice_middle (lead ++ gap) text []
      simp only [List.append_nil, List.append_assoc] at whole rest
      rw [rebuilt, rebuilt, whole, rest]
  | next _ more behind url others place _ =>
      have whole := slice_middle lead (gap ++ more) (url.original ++ behind)
      have rest := slice_middle (lead ++ gap) more (url.original ++ behind)
      have reached : url.offset = byteLength (lead ++ (gap ++ more)) := by
        rw [place, ← List.append_assoc, byte_length_append (lead ++ gap)]
      simp only [List.append_assoc] at whole rest
      simp only [rebuilt, reached, List.append_assoc, whole, rest]

-- What becomes of one address: it is written again by all rules, unless it keeps all its pairs.
def cleanedText (rules : List Rule) (url : Url) : Text :=
  if (applyAll rules (UrlModel.ofUrl url)).1.pairs = (UrlModel.ofUrl url).pairs then url.original
  else (applyAll rules (UrlModel.ofUrl url)).1.finalize

-- Whether the rules remove a pair from an address.
def Loses (rules : List Rule) (url : Url) : Prop :=
  (applyAll rules (UrlModel.ofUrl url)).1.pairs ≠ (UrlModel.ofUrl url).pairs

theorem loses_iff (rules : List Rule) (url : Url) :
    Loses rules url ↔ (applyAll rules (UrlModel.ofUrl url)).2 ≠ 0 := by
  rw [← Nat.pos_iff_ne_zero, Rule.hits_iff_removed]
  rfl

theorem rewrite_of_loses (rules : List Rule) (url : Url) (loses : Loses rules url) :
    rewrite? rules url = some (cleanedText rules url) := by
  rw [cleanedText, if_neg loses, rewrite?]
  exact if_neg ((loses_iff rules url).mp loses)

theorem rewrite_of_keeps (rules : List Rule) (url : Url) (keeps : ¬ Loses rules url) : rewrite? rules url = none := by
  rw [loses_iff, Decidable.not_not] at keeps
  rw [rewrite?]
  exact if_pos keeps

theorem cleaned_text_of_keeps (rules : List Rule) (url : Url) (keeps : ¬ Loses rules url) :
    cleanedText rules url = url.original := by
  rw [cleanedText, if_pos (Decidable.not_not.mp keeps)]

theorem rewrite_is_cleaned (rules : List Rule) (url : Url) :
    (rewrite? rules url).getD url.original = cleanedText rules url := by
  by_cases loses : Loses rules url
  · rw [rewrite_of_loses rules url loses, Option.getD_some]
  · rw [rewrite_of_keeps rules url loses, cleaned_text_of_keeps rules url loses, Option.getD_none]

theorem rewrite_is_some (rules : List Rule) (url : Url) : (rewrite? rules url).isSome = true ↔ Loses rules url := by
  by_cases loses : Loses rules url
  · simp [rewrite_of_loses rules url loses, loses]
  · simp [rewrite_of_keeps rules url loses, loses]

-- Where an address was found makes no difference to the rules.
theorem loses_moved (rules : List Rule) (distance : Nat) (url : Url) :
    Loses rules (url.moved distance) ↔ Loses rules url := by
  rw [Loses, Loses, Rule.apply_all_model, Rule.apply_all_model]
  rfl

theorem cleaned_text_moved (rules : List Rule) (distance : Nat) (url : Url) :
    cleanedText rules (url.moved distance) = cleanedText rules url := by
  rw [cleanedText, cleanedText, Rule.apply_all_model, Rule.apply_all_model]
  rfl

theorem rewrite_moved (rules : List Rule) (distance : Nat) (url : Url) :
    rewrite? rules (url.moved distance) = rewrite? rules url := by
  by_cases loses : Loses rules url
  · have also := (loses_moved rules distance url).mpr loses
    rw [rewrite_of_loses rules url loses, rewrite_of_loses rules _ also, cleaned_text_moved]
  · have also : ¬ Loses rules (url.moved distance) := fun still => loses ((loses_moved rules distance url).mp still)
    rw [rewrite_of_keeps rules url loses, rewrite_of_keeps rules _ also]

theorem rewrite_of_text (rules : List Rule) (url : Url) (split : Url.ofText url.offset url.original = url) :
    rewrite? rules (Url.ofText 0 url.original) = rewrite? rules url := by
  conv => rhs; rw [← split, Url.of_text_moved, rewrite_moved]

-- The rewritten addresses that have been kept are those that rewriting anew would give.
def Rewrites.Sound (rules : List Rule) (rewrites : Rewrites) : Prop :=
  ∀ original rewritten, rewrites.find? original = some rewritten →
    rewrite? rules (Url.ofText 0 original) = some rewritten

theorem sound_nothing (rules : List Rule) : Rewrites.Sound rules [] :=
  fun _ _ known => by cases known

theorem find_cons (rewrites : Rewrites) (known rewritten original : Text) :
    Rewrites.find? ((known, rewritten) :: rewrites) original =
      if known = original then some rewritten else rewrites.find? original := by
  by_cases same : known = original
  · simp [Rewrites.find?, same]
  · have differs : (known == original) = false := by simpa using same
    simp [Rewrites.find?, same, differs]

theorem sound_cons (rules : List Rule) (rewrites : Rewrites) (sound : rewrites.Sound rules) (url : Url)
    (split : Url.ofText url.offset url.original = url) (rewritten : Text) (found : rewrite? rules url = some rewritten) :
    Rewrites.Sound rules ((url.original, rewritten) :: rewrites) := by
  intro original other known
  rw [find_cons] at known
  by_cases same : url.original = original
  · rw [if_pos same, Option.some.injEq] at known
    rw [← same, ← known, ← found, rewrite_of_text rules url split]
  · rw [if_neg same] at known
    exact sound original other known

-- Without an early stop every original text among the addresses has its rewriting, if there is one.
theorem collect_find (rules : List Rule) (urls : List Url) (rewrites : Rewrites) (sound : rewrites.Sound rules)
    (split : ∀ url ∈ urls, Url.ofText url.offset url.original = url) (original : Text) :
    (collect false rules urls rewrites).find? original =
      if original ∈ urls.map Url.original then rewrite? rules (Url.ofText 0 original)
      else rewrites.find? original := by
  induction urls generalizing rewrites with
  | nil => rfl
  | cons url rest ih =>
      have splitRest : ∀ other ∈ rest, Url.ofText other.offset other.original = other :=
        fun other member => split other (List.mem_cons_of_mem _ member)
      have here := rewrite_of_text rules url (split url List.mem_cons_self)
      -- Whichever rewritings the rest is read with, it is enough that they hold what is due to this address.
      have step : ∀ later : Rewrites, later.Sound rules →
          (later.find? original = if original = url.original then rewrite? rules (Url.ofText 0 original)
            else rewrites.find? original) →
          (collect false rules rest later).find? original =
            if original ∈ (url :: rest).map Url.original then rewrite? rules (Url.ofText 0 original)
            else rewrites.find? original := by
        intro later laterSound known
        rw [ih later laterSound splitRest, known, List.map_cons]
        by_cases same : original = url.original
        · simp [same]
        · simp [same]
      rw [collect]
      cases known : rewrites.find? url.original with
      | some rewritten =>
          apply step rewrites sound
          by_cases same : original = url.original
          · rw [if_pos same, same, known, sound url.original rewritten known]
          · rw [if_neg same]
      | none =>
          cases found : rewrite? rules url with
          | some rewritten =>
              apply step _ (sound_cons rules rewrites sound url (split url List.mem_cons_self) rewritten found)
              rw [find_cons]
              by_cases same : original = url.original
              · rw [if_pos same.symm, if_pos same, same, here, found]
              · rw [if_neg (Ne.symm same), if_neg same]
          | none =>
              -- An address that keeps its pairs is looked up again at its next copy, with the same result.
              apply step rewrites sound
              by_cases same : original = url.original
              · rw [if_pos same, same, known, here, found]
              · rw [if_neg same]

theorem collect_find_url (rules : List Rule) (urls : List Url)
    (split : ∀ url ∈ urls, Url.ofText url.offset url.original = url) (url : Url) (member : url ∈ urls) :
    (collect false rules urls []).find? url.original = rewrite? rules url := by
  rw [collect_find rules urls [] (sound_nothing rules) split,
    if_pos (List.mem_map_of_mem member), rewrite_of_text rules url (split url member)]

theorem splice_one_append (before original rewritten behind : Text) :
    spliceOne? original rewritten (byteLength before) (before ++ original ++ behind) =
      some (before ++ rewritten ++ behind) := by
  rw [List.append_assoc, spliceOne?, cut_at_byte_length]
  change ((original.isPrefixOf? (original ++ behind)).bind fun behind => some (before ++ rewritten ++ behind)) = _
  rw [List.isPrefixOf?_eq_some_iff_append_eq.mpr rfl, Option.bind_some]

theorem splice_skipped (rewrites : Rewrites) (url : Url) (rest : List Url) (text : Text)
    (unknown : rewrites.find? url.original = none) :
    splice rewrites (url :: rest) text = splice rewrites rest text := by
  rw [splice, List.foldr_cons, unknown]
  rfl

theorem splice_replaced (rewrites : Rewrites) (url : Url) (rest : List Url) (text rewritten next : Text)
    (known : rewrites.find? url.original = some rewritten)
    (replaced : spliceOne? url.original rewritten url.offset (splice rewrites rest text).text = some next) :
    splice rewrites (url :: rest) text = ⟨next, true⟩ := by
  rw [splice] at replaced ⊢
  rw [List.foldr_cons, known]
  dsimp only
  rw [replaced]

-- Going right to left, the text in front of the address that comes next has not been touched yet, so its offset still
-- holds.
theorem splice_laid (rewrites : Rewrites) (whole : Text) (start : Nat) (text : Text) (urls : List Url)
    (laid : Url.Laid start text urls) (lead : Text) (size : byteLength lead = start) (joined : lead ++ text = whole) :
    (splice rewrites urls whole).text =
        lead ++ rebuilt (fun url => (rewrites.find? url.original).getD url.original) whole start urls ∧
      ((splice rewrites urls whole).changed = true ↔ ∃ url ∈ urls, (rewrites.find? url.original).isSome = true) := by
  induction laid generalizing lead with
  | done start text =>
      refine ⟨?_, by simp [splice]⟩
      have rest := slice_middle lead text []
      rw [List.append_nil, size, joined] at rest
      rw [rebuilt, rest]
      exact joined.symm
  | next start gap behind url rest place _ ih =>
      have reached : byteLength (lead ++ gap) = url.offset := by rw [byte_length_append, size, place]
      obtain ⟨spliced, changed⟩ := ih (lead ++ gap ++ url.original)
        (by rw [byte_length_append (lead ++ gap), reached]) (by simp [← joined, List.append_assoc])
      have next := rebuilt_next (fun url => (rewrites.find? url.original).getD url.original) lead gap behind url rest
        reached.symm
      rw [size, joined, byte_length_append (lead ++ gap), reached] at next
      rw [next]
      cases known : rewrites.find? url.original with
      | none =>
          rw [splice_skipped rewrites url rest whole known]
          exact ⟨by simpa [List.append_assoc] using spliced, by simpa [known] using changed⟩
      | some rewritten =>
          have replaced := splice_one_append (lead ++ gap) url.original rewritten
            (rebuilt (fun url => (rewrites.find? url.original).getD url.original) whole
              (url.offset + byteLength url.original) rest)
          rw [reached, ← spliced] at replaced
          rw [splice_replaced rewrites url rest whole rewritten _ known replaced]
          exact ⟨by simp [List.append_assoc], by simp [known]⟩

theorem rebuilt_congr (some other : Url → Text) (text : Text) (start : Nat) (urls : List Url)
    (same : ∀ url ∈ urls, some url = other url) : rebuilt some text start urls = rebuilt other text start urls := by
  induction urls generalizing start with
  | nil => rfl
  | cons url rest ih =>
      rw [rebuilt, rebuilt, same url List.mem_cons_self,
        ih _ fun later member => same later (List.mem_cons_of_mem _ member)]

theorem splice_nothing (urls : List Url) (text : Text) : splice [] urls text = ⟨text, false⟩ := by
  induction urls with
  | nil => rfl
  | cons url rest ih => rw [splice_skipped [] url rest text rfl, ih]

theorem splice_located (rewrites : Rewrites) (text : Text) (urls : List Url) (located : Url.Located text urls)
    (replace : Url → Text) (known : ∀ url ∈ urls, (rewrites.find? url.original).getD url.original = replace url) :
    (splice rewrites urls text).text = rebuilt replace text 0 urls ∧
      ((splice rewrites urls text).changed = true ↔ ∃ url ∈ urls, (rewrites.find? url.original).isSome = true) := by
  obtain ⟨spliced, changed⟩ := splice_laid rewrites text 0 text urls located.laid [] rfl rfl
  refine ⟨?_, changed⟩
  rw [spliced, List.nil_append]
  exact rebuilt_congr _ _ text 0 urls known

theorem clean_with_located (store : Store) (text : Text) (urls : List Url) (located : Url.Located text urls) :
    (cleanWith false store urls text).text = rebuilt (cleanedText store.snapshot.flatten) text 0 urls ∧
      ((cleanWith false store urls text).changed = true ↔ ∃ url ∈ urls, Loses store.snapshot.flatten url) := by
  have known : ∀ url ∈ urls,
      (collect false store.snapshot.flatten urls []).find? url.original = rewrite? store.snapshot.flatten url :=
    collect_find_url store.snapshot.flatten urls located.split
  obtain ⟨spliced, changed⟩ := splice_located (collect false store.snapshot.flatten urls []) text urls located
    (cleanedText store.snapshot.flatten) fun url member => by rw [known url member, rewrite_is_cleaned]
  constructor
  · rw [cleanWith, spliced]
  · rw [cleanWith, changed]
    constructor
    · rintro ⟨url, member, rewritten⟩
      rw [known url member, rewrite_is_some] at rewritten
      exact ⟨url, member, rewritten⟩
    · rintro ⟨url, member, loses⟩
      refine ⟨url, member, ?_⟩
      rwa [known url member, rewrite_is_some]

theorem rebuilt_original (text : Text) (urls : List Url) (located : Url.Located text urls) :
    rebuilt Url.original text 0 urls = text := by
  have spliced := (splice_located [] text urls located Url.original fun _ _ => rfl).1
  rw [splice_nothing] at spliced
  exact spliced.symm

-- Whatever a detector that tells the truth finds, and this detector is one, cleaning replaces each address where it
-- stands and copies all between.
theorem cleaning_replaces_in_place (store : Store) (text : Text) :
    (∀ urls, Url.Located text urls →
      (cleanWith false store urls text).text = rebuilt (cleanedText store.snapshot.flatten) text 0 urls ∧
        rebuilt Url.original text 0 urls = text ∧
        ((cleanWith false store urls text).changed = true ↔ ∃ url ∈ urls, Loses store.snapshot.flatten url)) ∧
      Url.Located text (Url.detect text) := by
  refine ⟨?_, Url.detect_located text⟩
  intro urls located
  obtain ⟨replaced, changed⟩ := clean_with_located store text urls located
  exact ⟨replaced, rebuilt_original text urls located, changed⟩

-- Two copies of an address behind a character of two bytes, the second copy also the beginning of a longer one.
theorem cleaning_replaces_copies :
    let store : Store := { entries := [⟨"list".toList, [], [.general (.token "u".toList)], 0⟩], nextStamp := 1 }
    let text := "é x?u=1 x?u=1&v=2".toList
    let urls := [Url.ofText 3 "x?u=1".toList, Url.ofText 9 "x?u=1".toList]
    Url.Located text urls ∧ (cleanWith false store urls text).text = "é x x&v=2".toList := by
  have located : Url.Located "é x?u=1 x?u=1&v=2".toList
      [Url.ofText 3 "x?u=1".toList, Url.ofText 9 "x?u=1".toList] := {
    split := by decide
    stands := by
      intro url member
      simp only [List.mem_cons, List.not_mem_nil, or_false] at member
      rcases member with rfl | rfl
      · exact ⟨"é ".toList, " x?u=1&v=2".toList, by decide, by decide⟩
      · exact ⟨"é x?u=1 ".toList, "&v=2".toList, by decide, by decide⟩
    ordered := by decide }
  refine ⟨located, ((cleaning_replaces_in_place _ _).1 _ located).1.trans ?_⟩
  decide +kernel

end LinkTidy.Cleaner
