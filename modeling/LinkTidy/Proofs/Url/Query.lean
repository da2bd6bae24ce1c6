import LinkTidy.Proofs.Text.Fields
import LinkTidy.Proofs.Url.Parts
import LinkTidy.Url.Query
/-!
Pairs that are joined to a query and split again, also as part of an address.
-/

set_option autoImplicit false

namespace LinkTidy.UrlModel

-- What a pair of a query is: a text that is not empty and has no sign that would end it.
def IsPair (pair : Text) : Prop :=
  pair ≠ [] ∧ '&' ∉ pair ∧ '#' ∉ pair

theorem split_query_led (rest : Text) :
    splitQuery ('?' :: rest) = (fields '&' rest).filter fun pair => !pair.isEmpty := rfl

theorem split_query_pairs (rest : Text) (plain : '#' ∉ rest) : ∀ pair ∈ splitQuery ('?' :: rest), IsPair pair := by
  intro pair member
  rw [split_query_led, List.mem_filter] at member
  obtain ⟨inside, written⟩ := member
  refine ⟨?_, fun joint => ?_, fun hash => plain ?_⟩
  · rintro rfl
    cases written
  · exact (mem_fields '&' rest pair inside '&' joint).2 rfl
  · exact (mem_fields '&' rest pair inside '#' hash).1

theorem join_pairs_led (pairs : List Text) (some : pairs ≠ []) :
    joinPairs pairs = '?' :: ['&'].intercalate pairs := by
  cases pairs with
  | nil => exact absurd rfl some
  | cons => rfl

theorem split_join_pairs (pairs : List Text) (some : pairs ≠ []) (each : ∀ pair ∈ pairs, IsPair pair) :
    splitQuery (joinPairs pairs) = pairs := by
  rw [join_pairs_led pairs some, split_query_led,
    fields_intercalate '&' pairs some fun pair member => (each pair member).2.1, List.filter_eq_self]
  intro pair member
  simpa using (each pair member).1

theorem mem_intercalate (pieces : List Text) (c : Char) (member : c ∈ ['&'].intercalate pieces) :
    c = '&' ∨ ∃ piece ∈ pieces, c ∈ piece := by
  induction pieces with
  | nil => cases member
  | cons piece rest ih =>
      cases rest with
      | nil =>
          rw [List.intercalate_singleton] at member
          exact .inr ⟨piece, List.mem_cons_self, member⟩
      | cons next others =>
          rw [List.intercalate_cons_cons, List.mem_append, List.mem_append, List.mem_singleton] at member
          rcases member with (here | same) | later
          · exact .inr ⟨piece, List.mem_cons_self, here⟩
          · exact .inl same
          · rcases ih later with same | ⟨other, inside, deeper⟩
            · exact .inl same
            · exact .inr ⟨other, List.mem_cons_of_mem _ inside, deeper⟩

theorem mem_join_pairs (pairs : List Text) (c : Char) (member : c ∈ joinPairs pairs) :
    c = '?' ∨ c = '&' ∨ ∃ pair ∈ pairs, c ∈ pair := by
  cases pairs with
  | nil => cases member
  | cons pair rest =>
      rw [join_pairs_led _ (List.cons_ne_nil _ _), List.mem_cons] at member
      rcases member with same | inside
      · exact .inl same
      · exact .inr (mem_intercalate _ c inside)

theorem mem_split_query (query pair : Text) (member : pair ∈ splitQuery query) (c : Char) (inside : c ∈ pair) :
    c ∈ query := by
  unfold splitQuery at member
  split at member
  · exact List.mem_cons_of_mem _ (mem_fields '&' _ pair (List.mem_filter.mp member).1 c inside).1
  · exact (mem_fields '&' _ pair (List.mem_filter.mp member).1 c inside).1

theorem intercalate_ending (pieces : List Text) (last more : Text) :
    ['&'].intercalate (pieces ++ [last ++ more]) = ['&'].intercalate (pieces ++ [last]) ++ more := by
  induction pieces with
  | nil => rw [List.nil_append, List.nil_append, List.intercalate_singleton, List.intercalate_singleton]
  | cons piece rest ih =>
      rw [List.cons_append, List.cons_append, List.intercalate_cons_of_ne_nil (by simp),
        List.intercalate_cons_of_ne_nil (by simp), ih, ← List.append_assoc]

theorem join_pairs_value (pairs : List Text) (key value : Text) :
    joinPairs (pairs ++ [key ++ '=' :: value]) = '?' :: ['&'].intercalate (pairs ++ [key]) ++ '=' :: value := by
  rw [join_pairs_led _ (by simp), intercalate_ending, List.cons_append]

-- A pair can be given any beginning of its value with plain text behind.
theorem is_pair_value (key value tail more : Text) (pair : IsPair (key ++ '=' :: value))
    (plain : '&' ∉ tail ∧ '#' ∉ tail) (inside : more <+: value ++ tail) : IsPair (key ++ '=' :: more) := by
  have absent : ∀ sign, sign ∉ key ++ '=' :: value → sign ∉ tail → sign ∉ key ++ '=' :: more := by
    intro sign none behind member
    rcases List.mem_append.mp member with early | late
    · exact none (List.mem_append_left _ early)
    · rcases List.mem_cons.mp late with same | later
      · exact none (List.mem_append_right _ (same ▸ List.mem_cons_self))
      · rcases List.mem_append.mp (inside.subset later) with here | there
        · exact none (List.mem_append_right _ (List.mem_cons_of_mem _ here))
        · exact behind there
  exact ⟨by simp, absent '&' pair.2.1 plain.1, absent '#' pair.2.2 plain.2⟩

-- The query that pairs write, if any.
def joinQuery (pairs : List Text) : Option Text :=
  if pairs = [] then none else some (joinPairs pairs)

theorem join_query_text (pairs : List Text) : (joinQuery pairs).getD [] = joinPairs pairs := by
  cases pairs <;> rfl

theorem join_query_spelled (resource : Text) (pairs : List Text) (fragment : Option Text)
    (plain : '?' ∉ resource ∧ '#' ∉ resource) (each : ∀ pair ∈ pairs, IsPair pair)
    (led : ∀ written, fragment = some written → ∃ rest, written = '#' :: rest) :
    Url.Spelled resource (joinQuery pairs) fragment where
  resource_plain := plain
  fragment_led := led
  query_led := by
    intro written query
    cases pairs with
    | nil => cases query
    | cons pair rest =>
        refine ⟨['&'].intercalate (pair :: rest), (Option.some.inj query).symm, fun hash => ?_⟩
        rcases mem_intercalate _ _ hash with same | ⟨piece, inside, deeper⟩
        · exact absurd same (by decide)
        · exact (each piece inside).2.2 deeper

-- An address written with these pairs is read with these pairs.
theorem parse_join_pairs (offset : Nat) (resource : Text) (pairs : List Text) (fragment : Option Text)
    (plain : '?' ∉ resource ∧ '#' ∉ resource) (each : ∀ pair ∈ pairs, IsPair pair)
    (led : ∀ written, fragment = some written → ∃ rest, written = '#' :: rest) :
    (ofUrl (Url.ofText offset (resource ++ joinPairs pairs ++ fragment.getD []))).pairs = pairs := by
  have parts := Url.of_text_parts offset resource (joinQuery pairs) fragment
    (join_query_spelled resource pairs fragment plain each led)
  rw [join_query_text] at parts
  rw [ofUrl, parts.2.1]
  cases pairs with
  | nil => rfl
  | cons pair rest => exact split_join_pairs _ (List.cons_ne_nil _ _) each

theorem finalize_of_query (model : UrlModel) (query : Text) (some : model.url.query = some query) :
    model.finalize = model.url.resource ++ joinPairs model.pairs ++ model.url.fragment.getD [] := by
  rw [finalize, some]

theorem pairs_of_no_query (url : Url) (none : url.query = none) : (ofUrl url).pairs = [] := by
  rw [ofUrl, none]
  rfl

theorem pairs_are_pairs (offset : Nat) (text : Text) : ∀ pair ∈ (ofUrl (Url.ofText offset text)).pairs, IsPair pair := by
  intro pair member
  cases query : (Url.ofText offset text).query with
  | none =>
      rw [pairs_of_no_query _ query] at member
      cases member
  | some written =>
      obtain ⟨rest, rfl, plain⟩ := (Url.of_text_spelled offset text).query_led written query
      rw [ofUrl, query] at member
      exact split_query_pairs rest plain pair member

end LinkTidy.UrlModel
