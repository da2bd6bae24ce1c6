import LinkTidy.Proofs.Cleaner.Shortening
import LinkTidy.Proofs.Url.Partition
/-!
Cleaning in which every read of a range and every replacement of one is checked. None of them fails, whatever addresses
are said to have been found, and wherever.
-/

set_option autoImplicit false

namespace LinkTidy

-- The key of a pair, read up to the equals sign.
def queryKey? (pair : Text) : Option Text :=
  ((Url.find? ['='] pair).map fun stop => range? 0 stop pair).getD (some pair)

theorem query_key_read (pair : Text) : queryKey? pair = some (queryKey pair) := by
  rw [queryKey?, Url.find_cut_before, queryKey, ← Url.cut_before_take_while]
  have read := Url.front_read '=' pair []
  rw [List.append_nil] at read
  rcases Url.cut_before_cases '=' pair with ⟨-, cut⟩ | ⟨before, behind, -, -, cut⟩ <;> rw [cut] at read ⊢
  · rfl
  · exact read

def Matcher.accepts? : Matcher → Text → Option Bool
  | .token text, input => (queryKey? input).map (· == text)
  | other, input => some (other.accepts input)

theorem Matcher.accepts_read (matcher : Matcher) (input : Text) :
    matcher.accepts? input = some (matcher.accepts input) := by
  cases matcher with
  | literal text => rfl
  | token text =>
      rw [Matcher.accepts?, query_key_read]
      rfl
  | pattern p => rfl

theorem filter_read (test? : Text → Option Bool) (test : Text → Bool) (read : ∀ text, test? text = some (test text))
    (texts : List Text) : texts.filterM test? = some (texts.filter test) := by
  have steps : ∀ front, List.filterAuxM test? texts front = some ((texts.filter test).reverse ++ front) := by
    induction texts with
    | nil => exact fun front => rfl
    | cons text rest ih =>
        intro front
        rw [List.filterAuxM, read, Option.bind_eq_bind, Option.bind_some, ih]
        cases accepted : test text with
        | false => rw [List.filter_cons_of_neg (by simp [accepted]), cond_false]
        | true => simp [List.filter_cons_of_pos accepted]
  rw [List.filterM, steps, Option.bind_eq_bind, Option.bind_some, List.append_nil]
  exact congrArg some (List.reverse_reverse _)

namespace UrlModel

-- The pairs of an address, split from the query that is read in its range.
def ofUrl? (url : Url) : Option UrlModel :=
  ((url.spans.query.map fun span => range? span.1 span.2 url.original).getD (some [])).map fun query =>
    ⟨url, splitQuery query⟩

theorem of_url_read (url : Url) : ofUrl? url = some (ofUrl url) := by
  rw [ofUrl?, Url.query_reads, ofUrl]
  cases url.query <;> rfl

def removePairs? (test? : Text → Option Bool) (model : UrlModel) : Option (UrlModel × Bool) :=
  (model.pairs.filterM fun pair => (test? pair).map (!·)).map fun left =>
    ({ model with pairs := left }, left.length != model.pairs.length)

theorem remove_pairs_read (test? : Text → Option Bool) (test : Text → Bool)
    (read : ∀ text, test? text = some (test text)) (model : UrlModel) :
    model.removePairs? test? = some (model.removePairs test) := by
  have negated : ∀ text, (test? text).map (!·) = some (!test text) := fun text => by rw [read]; rfl
  have fewer : ((model.pairs.filter fun pair => !test pair).length != model.pairs.length) = model.pairs.any test := by
    rw [Bool.eq_iff_iff, bne_iff_ne, Ne, List.length_filter_eq_length_iff, List.any_eq_true]
    simp
  rw [removePairs?, filter_read _ _ negated, Option.map_some, fewer]
  rfl

-- The query is written between the texts that are read in front of its range and behind it.
def finalize? (model : UrlModel) : Option Text :=
  (model.url.spans.query.map fun span =>
    (range? 0 span.1 model.url.original).bind fun front =>
      (range? span.2 (byteLength model.url.original) model.url.original).map fun behind =>
        front ++ joinPairs model.pairs ++ behind).getD (some model.url.original)

theorem finalize_read (model : UrlModel) : model.finalize? = some model.finalize := by
  rw [finalize?, finalize, Url.spans, Url.querySpan]
  cases query : model.url.query with
  | none => rfl
  | some written =>
      have front := Url.range_front model.url.resource (written ++ model.url.fragment.getD [])
      have behind := range_middle (model.url.resource ++ written) (model.url.fragment.getD []) []
      have whole : model.url.original = model.url.resource ++ written ++ model.url.fragment.getD [] := by
        rw [Url.original, query, Option.getD_some]
      rw [← List.append_assoc, ← whole] at front
      rw [List.append_nil, ← whole, byte_length_append model.url.resource] at behind
      simp only [Option.map_some, Option.getD_some, front, behind, Option.bind_some]

end UrlModel

namespace Rule

def applyChecked? (rule : Rule) (model : UrlModel) : Option (UrlModel × Bool) :=
  ((rule.domain.map fun domain => domain.accepts? model.url.original).getD (some true)).bind fun admitted =>
    if admitted then model.removePairs? rule.param.accepts? else some (model, false)

theorem apply_read (rule : Rule) (model : UrlModel) : rule.applyChecked? model = some (rule.apply model) := by
  have admitted : (rule.domain.map fun domain => domain.accepts? model.url.original).getD (some true) =
      some (rule.admits model.url.original) := by
    cases rule with
    | general param => rfl
    | specific domain param => exact domain.accepts_read _
  rw [applyChecked?, admitted, Option.bind_some, apply]
  by_cases admits : rule.admits model.url.original = true
  · rw [if_pos admits, if_pos admits, UrlModel.remove_pairs_read _ _ rule.param.accepts_read]
  · rw [if_neg admits, if_neg admits]

def applyAllChecked? (rules : List Rule) (model : UrlModel) : Option (UrlModel × Nat) :=
  rules.foldlM
    (fun state rule => (rule.applyChecked? state.1).map fun applied =>
      (applied.1, if applied.2 then state.2 + 1 else state.2))
    (model, 0)

theorem apply_all_read (rules : List Rule) (model : UrlModel) :
    applyAllChecked? rules model = some (applyAll rules model) := by
  rw [applyAllChecked?]
  simp only [apply_read, Option.map_some]
  exact List.foldlM_pure

end Rule

namespace Cleaner

def rewriteChecked? (rules : List Rule) (url : Url) : Option (Option Text) :=
  (UrlModel.ofUrl? url).bind fun model => (Rule.applyAllChecked? rules model).bind fun applied =>
    if applied.2 = 0 then some none else applied.1.finalize?.map some

theorem rewrite_read (rules : List Rule) (url : Url) : rewriteChecked? rules url = some (rewrite? rules url) := by
  rw [rewriteChecked?, UrlModel.of_url_read, Option.bind_some, Rule.apply_all_read, Option.bind_some,
    UrlModel.finalize_read, Option.map_some, rewrite?]
  by_cases none : (Rule.applyAll rules (UrlModel.ofUrl url)).2 = 0
  · rw [if_pos none]
    exact congrArg some (if_pos none).symm
  · rw [if_neg none]
    exact congrArg some (if_neg none).symm

def collectChecked? (stopAtUntouched : Bool) (rules : List Rule) : List Url → Rewrites → Option Rewrites
  | [], rewrites => some rewrites
  | url :: rest, rewrites =>
      if (rewrites.find? url.original).isSome then collectChecked? stopAtUntouched rules rest rewrites
      else (rewriteChecked? rules url).bind fun result =>
        (result.map fun rewritten =>
          collectChecked? stopAtUntouched rules rest ((url.original, rewritten) :: rewrites)).getD
            (if stopAtUntouched then some rewrites else collectChecked? stopAtUntouched rules rest rewrites)

theorem collect_read (stopAtUntouched : Bool) (rules : List Rule) (urls : List Url) (rewrites : Rewrites) :
    collectChecked? stopAtUntouched rules urls rewrites = some (collect stopAtUntouched rules urls rewrites) := by
  induction urls generalizing rewrites with
  | nil => rfl
  | cons url rest ih =>
      rw [collectChecked?, collect, rewrite_read, Option.bind_some]
      by_cases known : (rewrites.find? url.original).isSome = true
      · rw [if_pos known, if_pos known, ih]
      · rw [if_neg known, if_neg known]
        cases rewrite? rules url with
        | some rewritten => exact ih _
        | none =>
            cases stopAtUntouched with
            | true => rfl
            | false => exact ih rewrites

-- One address is put back if it stands at its offset.
def spliceTurn? (rewrites : Rewrites) (url : Url) (cleaned : Cleaned) : Option Cleaned :=
  ((rewrites.find? url.original).map fun rewritten =>
    if Stands url cleaned.text then
      (replaceRange? url.offset (url.offset + byteLength url.original) rewritten cleaned.text).map (⟨·, true⟩)
    else some cleaned).getD (some cleaned)

theorem splice_turn_read (rewrites : Rewrites) (url : Url) (rest : List Url) (text : Text) :
    spliceTurn? rewrites url (splice rewrites rest text) = some (splice rewrites (url :: rest) text) := by
  rw [spliceTurn?]
  cases known : rewrites.find? url.original with
  | none =>
      rw [splice_skipped rewrites url rest text known]
      rfl
  | some rewritten =>
      rw [Option.map_some, Option.getD_some]
      by_cases stands : Stands url (splice rewrites rest text).text
      · obtain ⟨before, behind, whole, place⟩ := (stands_iff url _).mp stands
        have spliced := (splice_one_iff url rewritten _ _).mpr ⟨before, behind, whole, place, rfl⟩
        have replaced := replace_range_middle before url.original behind rewritten
        rw [← whole, byte_length_append, place] at replaced
        rw [if_pos stands, replaced, splice_replaced rewrites url rest text rewritten _ known spliced]
        rfl
      · rw [if_neg stands, splice_missing rewrites url rest text stands]

def cleanChecked? (stopAtUntouched : Bool) (store : Store) (urls : List Url) (text : Text) : Option Cleaned :=
  (collectChecked? stopAtUntouched store.snapshot.flatten urls []).bind fun rewrites =>
    urls.foldrM (spliceTurn? rewrites) ⟨text, false⟩

theorem splice_read (rewrites : Rewrites) (urls : List Url) (text : Text) :
    urls.foldrM (spliceTurn? rewrites) ⟨text, false⟩ = some (splice rewrites urls text) := by
  induction urls with
  | nil => rfl
  | cons url rest ih => rw [List.foldrM_cons, ih, Option.bind_eq_bind, Option.bind_some, splice_turn_read]

theorem clean_read (stopAtUntouched : Bool) (store : Store) (urls : List Url) (text : Text) :
    cleanChecked? stopAtUntouched store urls text = some (cleanWith stopAtUntouched store urls text) := by
  rw [cleanChecked?, collect_read, Option.bind_some, splice_read, cleanWith]

-- What a detector may say to have found: any texts, at any offsets.
def said (found : List (Nat × Text)) : List Url :=
  found.map fun place => Url.ofText place.1 place.2

theorem said_split (found : List (Nat × Text)) : ∀ url ∈ said found, Url.ofText url.offset url.original = url := by
  intro url member
  obtain ⟨place, -, rfl⟩ := List.mem_map.mp member
  rw [Url.of_text_original, Url.of_text_offset]

-- Cleaning comes to an end, with a text that is shorter if it says so and else the same. An address that does not stand
-- at its offset when its turn comes is passed over. Without an early stop it might as well not have been found; with one
-- it is still among the addresses that are read up to the stop.
structure Exact (stopAtUntouched : Bool) (store : Store) (urls : List Url) (text : Text) : Prop where
  succeeds : cleanChecked? stopAtUntouched store urls text = some (cleanWith stopAtUntouched store urls text)
  unchanged_iff : (cleanWith stopAtUntouched store urls text).changed = false ↔
    (cleanWith stopAtUntouched store urls text).text = text
  shorter : (cleanWith stopAtUntouched store urls text).changed = true →
    byteLength (cleanWith stopAtUntouched store urls text).text < byteLength text
  passed_over : ∀ front url behind, urls = front ++ url :: behind →
    ¬ Stands url (splice (collect stopAtUntouched store.snapshot.flatten urls []) behind text).text →
    cleanWith stopAtUntouched store urls text =
      splice (collect stopAtUntouched store.snapshot.flatten urls []) (front ++ behind) text
  as_absent : ∀ front url behind, urls = front ++ url :: behind →
    ¬ Stands url (cleanWith false store behind text).text →
    cleanWith false store urls text = cleanWith false store (front ++ behind) text
  nowhere : (∀ url ∈ urls, ¬ Stands url text) → cleanWith stopAtUntouched store urls text = ⟨text, false⟩

theorem cleaning_exact (stopAtUntouched : Bool) (store : Store) (found : List (Nat × Text)) (text : Text) :
    Exact stopAtUntouched store (said found) text := by
  have split := said_split found
  have shortened := clean_with_shortens stopAtUntouched store (said found) text split
  constructor
  case succeeds => exact clean_read stopAtUntouched store (said found) text
  case unchanged_iff => exact shortened_unchanged text _ shortened
  case shorter => exact shortened_changed text _ shortened
  case nowhere => exact splice_nowhere _ (said found) text
  case passed_over =>
    intro front url behind urls missing
    rw [cleanWith, urls] at *
    exact splice_append _ front _ _ text (splice_missing _ url behind text missing)
  case as_absent =>
    intro front url behind urls missing
    rw [urls] at split ⊢
    exact clean_with_missing store front behind url text split missing

-- One address is said to begin inside a character, two overlap, and one is past the end.
theorem cleaning_of_misplaced_addresses :
    let store : Store := { entries := [⟨"list".toList, [], [.general (.token "u".toList)], 0⟩], nextStamp := 1 }
    let text := "é a?u=1&b".toList
    let behind := [(3, "a?u=1&b".toList), (3, "a?u=1".toList), (99, "a?u=1".toList)]
    let urls := said ((1, "a?u=1".toList) :: behind)
    (cleanWith true store urls text).text = "é a&b".toList ∧
      byteLength (cleanWith true store urls text).text < byteLength text ∧
      cleanWith false store urls text = cleanWith false store (said behind) text := by
  intro store text behind urls
  have exact := cleaning_exact true store ((1, "a?u=1".toList) :: behind) text
  refine ⟨by decide +kernel, exact.shorter (by decide +kernel), ?_⟩
  exact exact.as_absent [] (Url.ofText 1 "a?u=1".toList) (said behind) rfl (by decide +kernel)

end Cleaner
end LinkTidy
