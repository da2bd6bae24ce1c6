import LinkTidy.Proofs.Url.Query
/-!
An address that is written with the pairs left after removals and read anew: it is the same address with these pairs, so
nothing but the query has changed.
-/

set_option autoImplicit false

namespace LinkTidy.UrlModel

-- Removals with these tests, one after the other.
def removeEach (tests : List (Text → Bool)) (model : UrlModel) : UrlModel :=
  tests.foldl (fun left test => (left.removePairs test).1) model

-- What removals can leave of an address, also with tests that remember what they were asked before: some of its pairs, in
-- their order.
structure LeftOf (text : Text) (model : UrlModel) : Prop where
  url : model.url = Url.ofText 0 text
  pairs : model.pairs.Sublist (parse text).pairs

theorem left_of_parse (text : Text) : LeftOf text (parse text) := ⟨rfl, .refl _⟩

theorem left_of_removal (text : Text) (model : UrlModel) (left : LeftOf text model) (test : Text → Bool) :
    LeftOf text (model.removePairs test).1 :=
  ⟨left.url, List.filter_sublist.trans left.pairs⟩

theorem left_of_removals (text : Text) (tests : List (Text → Bool)) (model : UrlModel) (left : LeftOf text model) :
    LeftOf text (removeEach tests model) := by
  induction tests generalizing model with
  | nil => exact left
  | cons test rest ih => exact ih _ (left_of_removal text model left test)

theorem pairs_sublist_no_query (text : Text) (pairs : List Text) (left : pairs.Sublist (parse text).pairs)
    (none : (Url.ofText 0 text).query = none) : pairs = [] := by
  have nothing : (parse text).pairs = [] := pairs_of_no_query _ none
  rw [nothing] at left
  exact List.sublist_nil.mp left

section

variable (text : Text) (model : UrlModel) (left : LeftOf text model)

include left

theorem finalize_parts :
    model.finalize =
      (Url.ofText 0 text).resource ++ (joinQuery model.pairs).getD [] ++ (Url.ofText 0 text).fragment.getD [] := by
  rw [join_query_text]
  cases query : (Url.ofText 0 text).query with
  | none =>
      have empty := pairs_sublist_no_query text model.pairs left.pairs query
      rw [finalize, left.url, query, empty]
      simp only [Url.original, query]
      rfl
  | some written =>
      rw [← left.url] at query
      rw [finalize_of_query model written query, left.url]

theorem finalize_no_query (none : (Url.ofText 0 text).query = none) : model.finalize = text := by
  rw [finalize, left.url, none]
  exact Url.of_text_original 0 text

-- Reading splits the written query at the same places, because no pair holds a sign that would end it.
theorem parse_finalize :
    parse model.finalize = { url := { Url.ofText 0 text with query := joinQuery model.pairs }, pairs := model.pairs } := by
  have spelled := Url.of_text_spelled 0 text
  have each : ∀ pair ∈ model.pairs, IsPair pair :=
    fun pair member => pairs_are_pairs 0 text pair (left.pairs.subset member)
  have read := Url.of_text_other_query 0 text (joinQuery model.pairs)
    (join_query_spelled _ model.pairs _ spelled.resource_plain each spelled.fragment_led)
  have pairs := parse_join_pairs 0 _ model.pairs _ spelled.resource_plain each spelled.fragment_led
  rw [← join_query_text, read] at pairs
  rw [finalize_parts text model left, parse, read]
  exact congrArg (UrlModel.mk _) pairs

theorem finalize_parse_finalize : (parse model.finalize).finalize = model.finalize := by
  have again := finalize_parts model.finalize (parse model.finalize) (left_of_parse _)
  have read := parse_finalize text model left
  have url : Url.ofText 0 model.finalize = { Url.ofText 0 text with query := joinQuery model.pairs } :=
    congrArg UrlModel.url read
  rw [url, read] at again
  rw [read]
  exact again.trans (finalize_parts text model left).symm

end

theorem pairs_of_ampersands (n : Nat) : splitQuery ('?' :: List.replicate n '&') = [] := by
  rw [split_query_led]
  induction n with
  | zero => rfl
  | succ n ih => rwa [List.replicate_succ, fields_cons_sep, List.filter_cons_of_neg (by decide)]

-- The address that is written with the pairs of the model is the one of the text but for its query, and it has the query
-- that these pairs write.
structure ReadsBack (text : Text) (model : UrlModel) : Prop where
  pairs : (parse model.finalize).pairs = model.pairs
  scheme : (parse model.finalize).url.scheme = (parse text).url.scheme
  userinfo : (parse model.finalize).url.userinfo = (parse text).url.userinfo
  host : (parse model.finalize).url.host = (parse text).url.host
  port : (parse model.finalize).url.port = (parse text).url.port
  path : (parse model.finalize).url.path = (parse text).url.path
  fragment : (parse model.finalize).url.fragment = (parse text).url.fragment
  found : text = (parse text).url.resource ++ (parse text).url.query.getD [] ++ (parse text).url.fragment.getD []
  written : model.finalize =
    (parse text).url.resource ++ (parse model.finalize).url.query.getD [] ++ (parse text).url.fragment.getD []
  no_pairs : model.pairs = [] → (parse model.finalize).url.query = none
  no_query : (parse text).url.query = none → model.finalize = text
  again : (parse model.finalize).finalize = model.finalize

theorem reads_back (text : Text) (model : UrlModel) (left : LeftOf text model) : ReadsBack text model := by
  have read := parse_finalize text model left
  constructor
  case pairs => rw [read]
  case found => exact (Url.of_text_original 0 text).symm
  case written =>
    rw [read]
    exact finalize_parts text model left
  case no_pairs =>
    intro empty
    rw [read, empty]
    rfl
  case no_query => exact finalize_no_query text model left
  case again => exact finalize_parse_finalize text model left
  all_goals
    rw [read]
    rfl

-- Whatever the text, whether or not it is an address, and whatever has been removed. A query of nothing but ampersands
-- has no pairs, so it goes.
theorem rewritten_address_reads_back (text : Text) :
    (∀ tests, ReadsBack text (removeEach tests (parse text))) ∧
      (∀ model, LeftOf text model → ReadsBack text model) ∧
      ∀ tests n, (parse text).url.query = some ('?' :: List.replicate n '&') →
        (parse (removeEach tests (parse text)).finalize).url.query = none := by
  have removed : ∀ tests, LeftOf text (removeEach tests (parse text)) :=
    fun tests => left_of_removals text tests (parse text) (left_of_parse text)
  refine ⟨fun tests => reads_back text _ (removed tests), reads_back text, ?_⟩
  intro tests n query
  have nothing : (parse text).pairs = [] := by
    rw [parse, ofUrl]
    exact (congrArg (fun query => (query.map splitQuery).getD []) query).trans (pairs_of_ampersands n)
  have empty : (removeEach tests (parse text)).pairs = [] := List.sublist_nil.mp (nothing ▸ (removed tests).pairs)
  exact (reads_back text _ (removed tests)).no_pairs empty

-- Of two equal pairs the first has been removed, which takes a test that remembers. The fragment has signs of a query.
theorem rewritten_address_of_copies :
    let text := "http://é@h:1/p?a=1&&?b&a=1#f?x&y".toList
    let model : UrlModel := { parse text with pairs := ["?b".toList, "a=1".toList] }
    LeftOf text model ∧ (parse "http://é@h:1/p??b&a=1#f?x&y".toList).pairs = ["?b".toList, "a=1".toList] ∧
      (parse "h?&&#f".toList).url.query = some ('?' :: List.replicate 2 '&') ∧
      (parse (removeEach [] (parse "h?&&#f".toList)).finalize).url.query = none := by
  intro text model
  have left : LeftOf text model := ⟨rfl, by decide +kernel⟩
  have query : (parse "h?&&#f".toList).url.query = some ('?' :: List.replicate 2 '&') := by decide
  have written : model.finalize = "http://é@h:1/p??b&a=1#f?x&y".toList := by decide +kernel
  refine ⟨left, ?_, query, (rewritten_address_reads_back "h?&&#f".toList).2.2 [] 2 query⟩
  have read := ((rewritten_address_reads_back text).2.1 model left).pairs
  rwa [written] at read

end LinkTidy.UrlModel
