import LinkTidy.Proofs.Cleaner.EarlyStop
import LinkTidy.Proofs.Cleaner.Runs
import LinkTidy.Proofs.Text.Ranges
import Mathlib.Algebra.GroupWithZero.Nat
/-!
Every rewriting is shorter than its address, so a text in which addresses are replaced gets shorter with each of them,
wherever they are said to stand, and is never the same again.
-/

set_option autoImplicit false

namespace LinkTidy.UrlModel

-- What a pair takes in a query: its bytes and the sign in front of it.
def pairSize (pair : Text) : Nat :=
  byteLength pair + 1

theorem intercalate_size (pair : Text) (rest : List Text) :
    byteLength (['&'].intercalate (pair :: rest)) + 1 = ((pair :: rest).map pairSize).sum := by
  induction rest generalizing pair with
  | nil =>
      rw [List.intercalate_singleton]
      rfl
  | cons next others ih =>
      have one : byteLength ['&'] = 1 := rfl
      rw [List.intercalate_cons_cons, byte_length_append, byte_length_append, one, List.map_cons, List.sum_cons, ← ih,
        pairSize]
      omega

theorem join_pairs_size (pairs : List Text) : byteLength (joinPairs pairs) = (pairs.map pairSize).sum := by
  cases pairs with
  | nil => rfl
  | cons pair rest =>
      have one : '?'.utf8Size = 1 := rfl
      rw [join_pairs_led _ (List.cons_ne_nil pair rest), byteLength, one, ← intercalate_size]
      omega

-- A query is what its segments write, also the empty ones.
theorem join_fields (rest : Text) : joinPairs (fields '&' rest) = '?' :: rest := by
  rw [join_pairs_led _ (fields_ne_nil '&' rest), intercalate_fields]

-- Each text that is missing takes a sign with it at least.
theorem sublist_size (left all : List Text) (sub : left.Sublist all) :
    (left.map pairSize).sum + all.length ≤ (all.map pairSize).sum + left.length := by
  induction sub with
  | slnil => exact Nat.le_refl _
  | cons pair _ ih =>
      rw [List.map_cons, List.sum_cons, List.length_cons, pairSize]
      omega
  | cons_cons pair _ ih =>
      rw [List.map_cons, List.map_cons, List.sum_cons, List.sum_cons, List.length_cons, List.length_cons]
      omega

theorem fewer_pairs_shorter (rest : Text) (left : List Text) (sub : left.Sublist (splitQuery ('?' :: rest)))
    (fewer : left ≠ splitQuery ('?' :: rest)) : byteLength (joinPairs left) < byteLength ('?' :: rest) := by
  have segments : (splitQuery ('?' :: rest)).Sublist (fields '&' rest) := List.filter_sublist
  have missing : left.length < (splitQuery ('?' :: rest)).length :=
    Nat.lt_of_not_le fun many => fewer (sub.eq_of_length_le many)
  have removed := sublist_size left _ sub
  have dropped := sublist_size _ _ segments
  have kept := segments.length_le
  rw [← join_fields, join_pairs_size, join_pairs_size]
  omega

end LinkTidy.UrlModel

namespace LinkTidy.Cleaner

open Rule (kept)

theorem cleaned_text_shorter (rules : List Rule) (offset : Nat) (text : Text)
    (loses : Loses rules (Url.ofText offset text)) :
    byteLength (cleanedText rules (Url.ofText offset text)) < byteLength text := by
  obtain ⟨written, query⟩ := loses_query rules _ loses
  obtain ⟨rest, rfl, -⟩ := (Url.of_text_spelled offset text).query_led written query
  have pairs : (UrlModel.ofUrl (Url.ofText offset text)).pairs = splitQuery ('?' :: rest) := by
    rw [UrlModel.ofUrl, query]
    rfl
  have sub : (kept rules (UrlModel.ofUrl (Url.ofText offset text))).Sublist (splitQuery ('?' :: rest)) :=
    pairs ▸ List.filter_sublist
  have fewer : kept rules (UrlModel.ofUrl (Url.ofText offset text)) ≠ splitQuery ('?' :: rest) := by
    rw [Loses, Rule.apply_all_model, pairs] at loses
    exact loses
  have shorter := UrlModel.fewer_pairs_shorter rest _ sub fewer
  have size := congrArg byteLength (Url.of_text_original offset text)
  rw [Url.original, query, Option.getD_some, byte_length_append, byte_length_append] at size
  rw [cleaned_text_of_loses rules _ loses, byte_length_append, byte_length_append]
  omega

theorem rewrite_shorter (rules : List Rule) (offset : Nat) (text rewritten : Text)
    (found : rewrite? rules (Url.ofText offset text) = some rewritten) : byteLength rewritten < byteLength text := by
  have loses := (rewrite_is_some rules (Url.ofText offset text)).mp (by rw [found]; rfl)
  rw [rewrite_of_loses rules _ loses, Option.some.injEq] at found
  rw [← found]
  exact cleaned_text_shorter rules offset text loses

theorem collect_sound (stopAtUntouched : Bool) (rules : List Rule) (urls : List Url) (rewrites : Rewrites)
    (sound : rewrites.Sound rules) (split : ∀ url ∈ urls, Url.ofText url.offset url.original = url) :
    (collect stopAtUntouched rules urls rewrites).Sound rules := by
  induction urls generalizing rewrites with
  | nil => exact sound
  | cons url rest ih =>
      have splitRest : ∀ other ∈ rest, Url.ofText other.offset other.original = other :=
        fun other member => split other (List.mem_cons_of_mem _ member)
      rw [collect]
      by_cases known : (rewrites.find? url.original).isSome = true
      · rw [if_pos known]
        exact ih rewrites sound splitRest
      · rw [if_neg known]
        cases found : rewrite? rules url with
        | some rewritten =>
            exact ih _ (sound_cons rules rewrites sound url (split url List.mem_cons_self) rewritten found) splitRest
        | none =>
            cases stopAtUntouched with
            | true => exact sound
            | false => exact ih rewrites sound splitRest

-- Whether an address stands in a text where it is said to stand.
def Stands (url : Url) (text : Text) : Prop :=
  range? url.offset (url.offset + byteLength url.original) text = some url.original

instance (url : Url) (text : Text) : Decidable (Stands url text) :=
  inferInstanceAs (Decidable (_ = _))

theorem stands_iff (url : Url) (text : Text) :
    Stands url text ↔
      ∃ before behind, text = before ++ url.original ++ behind ∧ byteLength before = url.offset := by
  rw [Stands, range_some_iff]
  constructor
  · rintro ⟨before, behind, whole, place, -⟩
    exact ⟨before, behind, whole, place⟩
  · rintro ⟨before, behind, whole, place⟩
    exact ⟨before, behind, whole, place, by rw [byte_length_append, place]⟩

theorem splice_one_iff (url : Url) (rewritten text next : Text) :
    spliceOne? url.original rewritten url.offset text = some next ↔
      ∃ before behind, text = before ++ url.original ++ behind ∧ byteLength before = url.offset ∧
        next = before ++ rewritten ++ behind := by
  constructor
  · intro spliced
    simp only [spliceOne?, Option.bind_eq_bind, Option.bind_eq_some_iff, Prod.exists] at spliced
    obtain ⟨before, there, cut, behind, begins, same⟩ := spliced
    obtain ⟨rfl, place⟩ := cut_at_byte_some url.offset text before there cut
    have whole := List.isPrefixOf?_eq_some_iff_append_eq.mp begins
    exact ⟨before, behind, by rw [← whole, List.append_assoc], place, (Option.some.inj same).symm⟩
  · rintro ⟨before, behind, rfl, place, rfl⟩
    rw [← place]
    exact splice_one_append before url.original rewritten behind

theorem splice_one_none (url : Url) (rewritten text : Text) (missing : ¬ Stands url text) :
    spliceOne? url.original rewritten url.offset text = none := by
  cases spliced : spliceOne? url.original rewritten url.offset text with
  | none => rfl
  | some next =>
      obtain ⟨before, behind, whole, place, -⟩ := (splice_one_iff url rewritten text next).mp spliced
      exact absurd ((stands_iff url text).mpr ⟨before, behind, whole, place⟩) missing

-- An address that does not stand at its offset when its turn comes is passed over.
theorem splice_missing (rewrites : Rewrites) (url : Url) (rest : List Url) (text : Text)
    (missing : ¬ Stands url (splice rewrites rest text).text) :
    splice rewrites (url :: rest) text = splice rewrites rest text := by
  cases known : rewrites.find? url.original with
  | none => exact splice_skipped rewrites url rest text known
  | some rewritten =>
      have none := splice_one_none url rewritten _ missing
      rw [splice] at none ⊢
      rw [List.foldr_cons, known]
      dsimp only
      rw [none]
      rfl

theorem splice_append (rewrites : Rewrites) (front some other : List Url) (text : Text)
    (same : splice rewrites some text = splice rewrites other text) :
    splice rewrites (front ++ some) text = splice rewrites (front ++ other) text := by
  rw [splice, splice] at same ⊢
  rw [List.foldr_append, List.foldr_append, same]

theorem splice_congr (some other : Rewrites) (urls : List Url) (text : Text)
    (same : ∀ url ∈ urls, some.find? url.original = other.find? url.original) :
    splice some urls text = splice other urls text := by
  induction urls with
  | nil => rfl
  | cons url rest ih =>
      have later := ih fun url member => same url (List.mem_cons_of_mem _ member)
      rw [splice, splice] at later ⊢
      rw [List.foldr_cons, List.foldr_cons, later, same url List.mem_cons_self]

theorem splice_nowhere (rewrites : Rewrites) (urls : List Url) (text : Text)
    (nowhere : ∀ url ∈ urls, ¬ Stands url text) : splice rewrites urls text = ⟨text, false⟩ := by
  induction urls with
  | nil => rfl
  | cons url rest ih =>
      have later := ih fun other member => nowhere other (List.mem_cons_of_mem _ member)
      have missing : ¬ Stands url (splice rewrites rest text).text := by
        rw [later]
        exact nowhere url List.mem_cons_self
      rw [splice_missing rewrites url rest text missing, later]

-- Either nothing has been replaced, and the text is the same, or it has become shorter.
def Shortened (text : Text) (cleaned : Cleaned) : Prop :=
  cleaned = ⟨text, false⟩ ∨ cleaned.changed = true ∧ byteLength cleaned.text < byteLength text

theorem splice_shortens (rewrites : Rewrites) (text : Text) (urls : List Url)
    (shorter : ∀ original rewritten, rewrites.find? original = some rewritten →
      byteLength rewritten < byteLength original) :
    Shortened text (splice rewrites urls text) := by
  induction urls with
  | nil => exact .inl rfl
  | cons url rest ih =>
      by_cases stands : Stands url (splice rewrites rest text).text
      · cases known : rewrites.find? url.original with
        | none =>
            rw [splice_skipped rewrites url rest text known]
            exact ih
        | some rewritten =>
            obtain ⟨before, behind, whole, place⟩ := (stands_iff url _).mp stands
            have replaced := (splice_one_iff url rewritten _ _).mpr ⟨before, behind, whole, place, rfl⟩
            rw [splice_replaced rewrites url rest text rewritten _ known replaced]
            refine .inr ⟨rfl, ?_⟩
            -- What has been replaced so far has not made the text longer, and this one makes it shorter.
            have less := shorter url.original rewritten known
            have upper : byteLength (splice rewrites rest text).text ≤ byteLength text := by
              rcases ih with same | ⟨-, less⟩
              · exact Nat.le_of_eq (congrArg (fun cleaned => byteLength cleaned.text) same)
              · exact Nat.le_of_lt less
            rw [whole] at upper
            simp only [byte_length_append] at upper ⊢
            omega
      · rw [splice_missing rewrites url rest text stands]
        exact ih

theorem shortened_unchanged (text : Text) (cleaned : Cleaned) (shortened : Shortened text cleaned) :
    cleaned.changed = false ↔ cleaned.text = text := by
  rcases shortened with rfl | ⟨changed, shorter⟩
  · exact ⟨fun _ => rfl, fun _ => rfl⟩
  · constructor
    · intro unchanged
      rw [changed] at unchanged
      cases unchanged
    · intro same
      rw [same] at shorter
      exact absurd shorter (Nat.lt_irrefl _)

theorem shortened_changed (text : Text) (cleaned : Cleaned) (shortened : Shortened text cleaned)
    (changed : cleaned.changed = true) : byteLength cleaned.text < byteLength text := by
  rcases shortened with rfl | ⟨-, shorter⟩
  · cases changed
  · exact shorter

-- Without an early stop an address is rewritten in the same way whichever other ones have been found.
theorem splice_some_collected (store : Store) (all some : List Url) (text : Text) (sub : some ⊆ all)
    (split : ∀ url ∈ all, Url.ofText url.offset url.original = url) :
    splice (collect false store.snapshot.flatten all []) some text = cleanWith false store some text := by
  apply splice_congr
  intro url member
  rw [collect_find_url _ all split url (sub member),
    collect_find_url _ some (fun other inside => split other (sub inside)) url member]

theorem clean_with_missing (store : Store) (front behind : List Url) (url : Url) (text : Text)
    (split : ∀ other ∈ front ++ url :: behind, Url.ofText other.offset other.original = other)
    (missing : ¬ Stands url (cleanWith false store behind text).text) :
    cleanWith false store (front ++ url :: behind) text = cleanWith false store (front ++ behind) text := by
  have others : front ++ behind ⊆ front ++ url :: behind :=
    ((List.sublist_cons_self url behind).append_left front).subset
  have later := splice_some_collected store (front ++ url :: behind) behind text
    (fun other member => List.mem_append_right front (List.mem_cons_of_mem url member)) split
  rw [← later] at missing
  rw [cleanWith, splice_append _ front _ _ text (splice_missing _ url behind text missing),
    splice_some_collected store _ _ text others split]

theorem clean_with_shortens (stopAtUntouched : Bool) (store : Store) (urls : List Url) (text : Text)
    (split : ∀ url ∈ urls, Url.ofText url.offset url.original = url) :
    Shortened text (cleanWith stopAtUntouched store urls text) := by
  apply splice_shortens
  intro original rewritten known
  have sound := collect_sound stopAtUntouched store.snapshot.flatten urls [] (sound_nothing _) split
  exact rewrite_shorter _ 0 original rewritten (sound original rewritten known)

end LinkTidy.Cleaner
