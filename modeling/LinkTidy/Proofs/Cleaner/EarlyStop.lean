import LinkTidy.Proofs.Cleaner.Splice
/-!
Cleaning that stops at the first address from which no pair is removed. It replaces the addresses in front of that one,
and behind it their copies, and nothing else.
-/

set_option autoImplicit false

namespace LinkTidy.Cleaner

instance (rules : List Rule) (url : Url) : Decidable (Loses rules url) :=
  inferInstanceAs (Decidable (_ ≠ _))

-- The addresses in front of the first one that keeps all its pairs.
def reached (rules : List Rule) (urls : List Url) : List Url :=
  urls.takeWhile fun url => decide (Loses rules url)

-- What becomes of an address if cleaning stops early: it is written again only if a copy of it has been reached.
def reachedText (rules : List Rule) (urls : List Url) (url : Url) : Text :=
  if url.original ∈ (reached rules urls).map Url.original then cleanedText rules url else url.original

theorem reached_loses (rules : List Rule) (urls : List Url) : ∀ url ∈ reached rules urls, Loses rules url := by
  intro url member
  exact of_decide_eq_true (List.all_eq_true.mp List.all_takeWhile url member)

theorem reached_subset (rules : List Rule) (urls : List Url) : reached rules urls ⊆ urls :=
  (List.takeWhile_sublist _).subset

theorem reached_next (rules : List Rule) (url : Url) (rest : List Url) (loses : Loses rules url) :
    reached rules (url :: rest) = url :: reached rules rest :=
  List.takeWhile_cons_of_pos (decide_eq_true loses)

theorem reached_end (rules : List Rule) (url : Url) (rest : List Url) (keeps : ¬ Loses rules url) :
    reached rules (url :: rest) = [] :=
  List.takeWhile_cons_of_neg (by simpa using keeps)

theorem reached_all (rules : List Rule) (urls : List Url) (all : ∀ url ∈ urls, Loses rules url) :
    reached rules urls = urls := by
  induction urls with
  | nil => rfl
  | cons url rest ih =>
      rw [reached_next rules url rest (all url List.mem_cons_self),
        ih fun later member => all later (List.mem_cons_of_mem _ member)]

-- Only an address that loses a pair can have its rewriting kept.
theorem loses_of_known (rules : List Rule) (rewrites : Rewrites) (sound : rewrites.Sound rules) (url : Url)
    (split : Url.ofText url.offset url.original = url) (known : (rewrites.find? url.original).isSome = true) :
    Loses rules url := by
  obtain ⟨rewritten, found⟩ := Option.isSome_iff_exists.mp known
  rw [← rewrite_is_some, ← rewrite_of_text rules url split, sound url.original rewritten found, Option.isSome_some]

theorem collect_stopping (rules : List Rule) (urls : List Url) (rewrites : Rewrites) (sound : rewrites.Sound rules)
    (split : ∀ url ∈ urls, Url.ofText url.offset url.original = url) :
    collect true rules urls rewrites = collect false rules (reached rules urls) rewrites := by
  induction urls generalizing rewrites with
  | nil => rfl
  | cons url rest ih =>
      have splitRest : ∀ other ∈ rest, Url.ofText other.offset other.original = other :=
        fun other member => split other (List.mem_cons_of_mem _ member)
      have here := split url List.mem_cons_self
      by_cases loses : Loses rules url
      · rw [reached_next rules url rest loses, collect, collect, rewrite_of_loses rules url loses]
        by_cases known : (rewrites.find? url.original).isSome = true
        · rw [if_pos known, if_pos known, ih rewrites sound splitRest]
        · rw [if_neg known, if_neg known]
          exact ih _ (sound_cons rules rewrites sound url here _ (rewrite_of_loses rules url loses)) splitRest
      · have unknown : ¬ (rewrites.find? url.original).isSome = true :=
          fun known => loses (loses_of_known rules rewrites sound url here known)
        rw [reached_end rules url rest loses, collect, collect, if_neg unknown, rewrite_of_keeps rules url loses]
        rfl

section

variable (store : Store) (text : Text) (urls : List Url) (located : Url.Located text urls)

include located

theorem stopping_as_reached :
    cleanWith true store urls text =
      splice (collect false store.snapshot.flatten (reached store.snapshot.flatten urls) []) urls text := by
  rw [cleanWith, collect_stopping _ urls [] (sound_nothing _) located.split]

theorem reached_find (rules : List Rule) (url : Url) (member : url ∈ urls) :
    (collect false rules (reached rules urls) []).find? url.original =
      if url.original ∈ (reached rules urls).map Url.original then rewrite? rules url else none := by
  rw [collect_find rules _ [] (sound_nothing rules) fun other inside => located.split other (reached_subset rules urls inside),
    rewrite_of_text rules url (located.split url member)]
  rfl

-- What is looked up for an address is what becomes of it: a copy that has been reached has lost a pair.
theorem reached_find_text (rules : List Rule) (url : Url) (member : url ∈ urls) :
    ((collect false rules (reached rules urls) []).find? url.original).getD url.original =
      reachedText rules urls url := by
  rw [reached_find text urls located rules url member, reachedText]
  by_cases copied : url.original ∈ (reached rules urls).map Url.original
  · rw [if_pos copied, if_pos copied, rewrite_is_cleaned]
  · rw [if_neg copied, if_neg copied, Option.getD_none]

theorem reached_find_some (rules : List Rule) :
    (∃ url ∈ urls, ((collect false rules (reached rules urls) []).find? url.original).isSome = true) ↔
      reached rules urls ≠ [] := by
  constructor
  · rintro ⟨url, member, known⟩ nothing
    rw [nothing] at known
    cases known
  · intro some
    obtain ⟨url, rest, first⟩ := List.exists_cons_of_ne_nil some
    have inside : url ∈ reached rules urls := first ▸ List.mem_cons_self
    refine ⟨url, reached_subset rules urls inside, ?_⟩
    rw [reached_find text urls located rules url (reached_subset rules urls inside),
      if_pos (List.mem_map_of_mem inside), rewrite_is_some]
    exact reached_loses rules urls url inside

theorem stopping_replaces_reached :
    (cleanWith true store urls text).text = rebuilt (reachedText store.snapshot.flatten urls) text 0 urls ∧
      ((cleanWith true store urls text).changed = true ↔ reached store.snapshot.flatten urls ≠ []) := by
  obtain ⟨spliced, changed⟩ := splice_located
    (collect false store.snapshot.flatten (reached store.snapshot.flatten urls) []) text urls located
    (reachedText store.snapshot.flatten urls) (reached_find_text text urls located store.snapshot.flatten)
  rw [stopping_as_reached store text urls located]
  exact ⟨spliced, changed.trans (reached_find_some text urls located store.snapshot.flatten)⟩

theorem stopping_nowhere (all : ∀ url ∈ urls, Loses store.snapshot.flatten url) :
    cleanWith true store urls text = cleanWith false store urls text := by
  rw [stopping_as_reached store text urls located, reached_all _ urls all]
  rfl

end

theorem stopping_at_first (store : Store) (text : Text) (url : Url) (rest : List Url)
    (located : Url.Located text (url :: rest)) (keeps : ¬ Loses store.snapshot.flatten url) :
    cleanWith true store (url :: rest) text = ⟨text, false⟩ := by
  rw [stopping_as_reached store text _ located, reached_end _ url rest keeps, collect, splice_nothing]

-- With an early stop an address is replaced, wherever it stands, exactly if a copy of it stands in front of the first one
-- that keeps all its pairs; all between is copied.
theorem stopping_replaces_copies (store : Store) (text : Text) (urls : List Url) (located : Url.Located text urls) :
    (cleanWith true store urls text).text = rebuilt (reachedText store.snapshot.flatten urls) text 0 urls ∧
      (cleanWith false store urls text).text = rebuilt (cleanedText store.snapshot.flatten) text 0 urls ∧
      rebuilt Url.original text 0 urls = text ∧
      ((cleanWith true store urls text).changed = true ↔ ∃ url ∈ urls.head?, Loses store.snapshot.flatten url) ∧
      ((∀ url ∈ urls, Loses store.snapshot.flatten url) →
        cleanWith true store urls text = cleanWith false store urls text) ∧
      ((∃ url ∈ urls.head?, ¬ Loses store.snapshot.flatten url) → cleanWith true store urls text = ⟨text, false⟩) ∧
      ∀ url ∈ urls, reachedText store.snapshot.flatten urls url = url.original ∨
        reachedText store.snapshot.flatten urls url = cleanedText store.snapshot.flatten url := by
  obtain ⟨replaced, changed⟩ := stopping_replaces_reached store text urls located
  refine ⟨replaced, (clean_with_located store text urls located).1, rebuilt_original text urls located, ?_,
    stopping_nowhere store text urls located, ?_, ?_⟩
  · rw [changed]
    cases urls with
    | nil => simp [reached]
    | cons url rest =>
        by_cases loses : Loses store.snapshot.flatten url
        · simp [reached_next _ url rest loses, loses]
        · simp [reached_end _ url rest loses, loses]
  · rintro ⟨url, first, keeps⟩
    cases urls with
    | nil => cases first
    | cons other rest =>
        cases first
        exact stopping_at_first store text url rest located keeps
  · intro url _
    by_cases copied : url.original ∈ (reached store.snapshot.flatten urls).map Url.original
    · exact .inr (if_pos copied)
    · exact .inl (if_neg copied)

-- A copy of the first address stands behind the one that stops cleaning, and is replaced; the last address is not.
theorem stopping_between_copies :
    let store : Store := { entries := [⟨"list".toList, [], [.general (.token "u".toList)], 0⟩], nextStamp := 1 }
    let text := "é x?u=1 y?v x?u=1&? z?u".toList
    let urls := [Url.ofText 3 "x?u=1".toList, Url.ofText 9 "y?v".toList, Url.ofText 13 "x?u=1".toList,
      Url.ofText 21 "z?u".toList]
    Url.Located text urls ∧ (cleanWith true store urls text).text = "é x y?v x&? z?u".toList ∧
      (cleanWith false store urls text).text = "é x y?v x&? z".toList := by
  have located : Url.Located "é x?u=1 y?v x?u=1&? z?u".toList
      [Url.ofText 3 "x?u=1".toList, Url.ofText 9 "y?v".toList, Url.ofText 13 "x?u=1".toList,
        Url.ofText 21 "z?u".toList] := {
    split := by decide
    stands := by
      intro url member
      simp only [List.mem_cons, List.not_mem_nil, or_false] at member
      rcases member with rfl | rfl | rfl | rfl
      · exact ⟨"é ".toList, " y?v x?u=1&? z?u".toList, by decide, by decide⟩
      · exact ⟨"é x?u=1 ".toList, " x?u=1&? z?u".toList, by decide, by decide⟩
      · exact ⟨"é x?u=1 y?v ".toList, "&? z?u".toList, by decide, by decide⟩
      · exact ⟨"é x?u=1 y?v x?u=1&? ".toList, [], by decide, by decide⟩
    ordered := by decide }
  have cleaned := stopping_replaces_copies
    { entries := [⟨"list".toList, [], [.general (.token "u".toList)], 0⟩], nextStamp := 1 } _ _ located
  exact ⟨located, cleaned.1.trans (by decide +kernel), cleaned.2.1.trans (by decide +kernel)⟩

end LinkTidy.Cleaner
