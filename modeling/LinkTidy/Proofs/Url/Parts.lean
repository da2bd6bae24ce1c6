import LinkTidy.Proofs.Text.Cut
import LinkTidy.Url
/-!
The parts of an address, put together in order, are the address; and an address whose query and fragment are given is
taken apart at these.
-/

set_option autoImplicit false

namespace LinkTidy.Url

theorem passed_of_absent (stop : Char) (text : Text) (absent : stop ∉ text) : ∀ c ∈ text, (c != stop) = true := by
  intro c member
  simpa using fun same : c = stop => absent (same ▸ member)

theorem cut_before_absent (stop : Char) (text : Text) (absent : stop ∉ text) : cutBefore stop text = (text, none) := by
  have nothing : text.dropWhile (· != stop) = [] := by
    rw [← List.append_nil text, List.dropWhile_append_of_pos]
    · rfl
    · exact passed_of_absent stop text absent
  simp [cutBefore, nothing]

theorem cut_before_present (stop : Char) (before behind : Text) (absent : stop ∉ before) :
    cutBefore stop (before ++ stop :: behind) = (before, some (stop :: behind)) := by
  have passed := passed_of_absent stop before absent
  obtain ⟨taken, dropped⟩ := take_while_stop (· != stop) before behind stop passed (by simp)
  rw [cutBefore, dropped]
  exact congrArg (·, some (stop :: behind)) taken

theorem cut_before_cases (stop : Char) (text : Text) :
    (stop ∉ text ∧ cutBefore stop text = (text, none)) ∨
      ∃ before behind, stop ∉ before ∧ text = before ++ stop :: behind ∧
        cutBefore stop text = (before, some (stop :: behind)) := by
  by_cases member : stop ∈ text
  · obtain ⟨before, behind, rfl, absent⟩ := List.eq_append_cons_of_mem member
    exact .inr ⟨before, behind, absent, rfl, cut_before_present stop before behind absent⟩
  · exact .inl ⟨member, cut_before_absent stop text member⟩

theorem cut_before_behind (stop : Char) (front behind : Text) (absent : stop ∉ front) :
    cutBefore stop (front ++ behind) = (front ++ (cutBefore stop behind).1, (cutBefore stop behind).2) := by
  rcases cut_before_cases stop behind with ⟨none, cut⟩ | ⟨before, rest, none, rfl, cut⟩ <;> rw [cut]
  · exact cut_before_absent stop _ (by simp [absent, none])
  · rw [← List.append_assoc]
    exact cut_before_present stop _ rest (by simp [absent, none])

theorem cut_before_append (stop : Char) (text : Text) :
    (cutBefore stop text).1 ++ (cutBefore stop text).2.getD [] = text := by
  rcases cut_before_cases stop text with ⟨_, cut⟩ | ⟨before, behind, _, rfl, cut⟩ <;> rw [cut]
  · exact List.append_nil text
  · rfl

theorem cut_before_plain (stop : Char) (text : Text) : stop ∉ (cutBefore stop text).1 := by
  rcases cut_before_cases stop text with ⟨absent, cut⟩ | ⟨before, behind, absent, -, cut⟩ <;> rw [cut] <;> exact absent

theorem cut_before_led (stop : Char) (text written : Text) (found : (cutBefore stop text).2 = some written) :
    ∃ rest, written = stop :: rest := by
  rcases cut_before_cases stop text with ⟨-, cut⟩ | ⟨before, behind, -, -, cut⟩ <;> rw [cut] at found
  · cases found
  · exact ⟨behind, (Option.some.inj found).symm⟩

theorem cut_after_at_append (text : Text) : (cutAfterAt text).1 ++ (cutAfterAt text).2 = text := by
  have ending : (text.reverse.takeWhile (· != '@')).reverse <:+ text := by
    simpa using List.reverse_suffix.mpr (List.takeWhile_prefix (l := text.reverse) (· != '@'))
  obtain ⟨front, whole⟩ := ending
  have size := congrArg List.length whole
  rw [List.length_append] at size
  have kept : text.take (text.length - (text.reverse.takeWhile (· != '@')).reverse.length) = front := by
    rw [← size, Nat.add_sub_cancel]
    conv => lhs; rw [← whole]
    exact List.take_left
  rw [cutAfterAt, kept]
  exact whole

theorem cut_scheme_append (text : Text) :
    ((cutScheme text).1.map (· ++ "://".toList)).getD [] ++ (cutScheme text).2 = text := by
  rw [cutScheme]
  cases cut : cutAt? "://".toList text with
  | none => rfl
  | some parts =>
      obtain ⟨scheme, rest⟩ := parts
      by_cases wellFormed : isScheme scheme = true
      · simp only [if_pos wellFormed, Option.map_some, Option.getD_some]
        exact (cut_at_append _ text scheme rest cut).symm
      · simp only [if_neg wellFormed]
        rfl

theorem alphanum_ascii (c : Char) (alphanum : c.isAlphanum = true) : c.toNat < 128 := by
  have upper : c.isUpper = decide (c.val ≥ 'A'.val ∧ c.val ≤ 'Z'.val) := rfl
  have lower : c.isLower = (decide (c.val ≥ 'a'.val) && decide (c.val ≤ 'z'.val)) := rfl
  have digit : c.isDigit = (decide (c.val ≥ '0'.val) && decide (c.val ≤ '9'.val)) := rfl
  have each : c.isAlphanum = (c.isUpper || c.isLower || c.isDigit) := rfl
  have size : c.val.toNat = c.toNat := rfl
  simp only [each, upper, lower, digit, Bool.or_eq_true, Bool.and_eq_true, decide_eq_true_eq, UInt32.le_iff_toNat_le,
    GE.ge, size, Char.reduceVal, UInt32.reduceToNat] at alphanum
  omega

theorem is_scheme_iff (text : Text) :
    isScheme text = true ↔ ∃ c name, text = c :: name ∧ c.isAlpha = true ∧
      ∀ d ∈ name, d.isAlphanum = true ∨ d = '+' ∨ d = '-' ∨ d = '.' := by
  cases text with
  | nil => simp [isScheme]
  | cons c name => simp [isScheme, or_assoc]

theorem is_scheme_ascii (text : Text) (scheme : isScheme text = true) : ∀ c ∈ text, c.toNat < 128 := by
  obtain ⟨c, name, rfl, letter, each⟩ := (is_scheme_iff text).mp scheme
  intro d member
  rcases List.mem_cons.mp member with rfl | later
  · exact alphanum_ascii d (by rw [Char.isAlphanum, letter, Bool.true_or])
  · rcases each d later with alphanum | rfl | rfl | rfl
    · exact alphanum_ascii d alphanum
    all_goals decide

-- The steps of taking an address apart, each by what it is applied to.
theorem of_text_steps (offset : Nat) (text : Text) :
    ofText offset text =
      let front := (cutBefore '?' (cutBefore '#' text).1).1
      let authority := (cutBefore '/' (cutScheme front).2).1
      {
        offset := offset
        scheme := (cutScheme front).1
        userinfo := (cutAfterAt authority).1
        host := (cutBefore ':' (cutAfterAt authority).2).1
        port := (cutBefore ':' (cutAfterAt authority).2).2.getD []
        path := (cutBefore '/' (cutScheme front).2).2.getD []
        query := (cutBefore '?' (cutBefore '#' text).1).2
        fragment := (cutBefore '#' text).2 } := rfl

theorem of_text_resource (offset : Nat) (text : Text) :
    (ofText offset text).resource = (cutBefore '?' (cutBefore '#' text).1).1 := by
  rw [of_text_steps]
  dsimp only [resource]
  generalize (cutBefore '?' (cutBefore '#' text).1).1 = front
  rw [List.append_assoc _ (cutBefore ':' _).1, cut_before_append, List.append_assoc _ (cutAfterAt _).1,
    cut_after_at_append, List.append_assoc, cut_before_append, cut_scheme_append]

-- What stands behind the scheme is the authority, in three parts, and the path.
theorem of_text_authority (offset : Nat) (text : Text) :
    (ofText offset text).userinfo ++ (ofText offset text).host ++ (ofText offset text).port =
      (cutBefore '/' (cutScheme (ofText offset text).resource).2).1 := by
  rw [of_text_resource, of_text_steps, List.append_assoc]
  dsimp only
  rw [cut_before_append, cut_after_at_append]

theorem of_text_path (offset : Nat) (text : Text) :
    (ofText offset text).path = (cutBefore '/' (cutScheme (ofText offset text).resource).2).2.getD [] := by
  rw [of_text_resource]
  rfl

theorem of_text_query (offset : Nat) (text : Text) :
    (ofText offset text).query = (cutBefore '?' (cutBefore '#' text).1).2 := rfl

theorem of_text_fragment (offset : Nat) (text : Text) : (ofText offset text).fragment = (cutBefore '#' text).2 := rfl

theorem of_text_original (offset : Nat) (text : Text) : (ofText offset text).original = text := by
  rw [original, of_text_resource, of_text_query, of_text_fragment, cut_before_append, cut_before_append]

theorem of_text_offset (offset : Nat) (text : Text) : (ofText offset text).offset = offset := rfl

-- An address found so many bytes further on.
def moved (distance : Nat) (url : Url) : Url :=
  { url with offset := distance + url.offset }

theorem of_text_moved (distance : Nat) (text : Text) : ofText distance text = (ofText 0 text).moved distance := rfl

theorem moved_original (distance : Nat) (url : Url) : (url.moved distance).original = url.original := rfl

-- How a query or a fragment may be written: with its own sign in front, and without the signs that end it.
structure Spelled (resource : Text) (query fragment : Option Text) : Prop where
  resource_plain : '?' ∉ resource ∧ '#' ∉ resource
  query_led : ∀ written, query = some written → ∃ rest, written = '?' :: rest ∧ '#' ∉ rest
  fragment_led : ∀ written, fragment = some written → ∃ rest, written = '#' :: rest

theorem of_text_spelled (offset : Nat) (text : Text) :
    Spelled (ofText offset text).resource (ofText offset text).query (ofText offset text).fragment := by
  rw [of_text_resource, of_text_query, of_text_fragment]
  have plain := cut_before_plain '#' text
  have fragmentLed := cut_before_led '#' text
  generalize (cutBefore '#' text).1 = beforeFragment at plain ⊢
  refine ⟨⟨cut_before_plain '?' beforeFragment, ?_⟩, ?_, fragmentLed⟩
  · intro member
    rw [← cut_before_append '?' beforeFragment] at plain
    exact plain (List.mem_append_left _ member)
  · intro written query
    obtain ⟨rest, rfl⟩ := cut_before_led '?' beforeFragment written query
    refine ⟨rest, rfl, fun member => plain ?_⟩
    rw [← cut_before_append '?' beforeFragment, query]
    exact List.mem_append_right _ (List.mem_cons_of_mem _ member)

theorem of_text_no_query (offset : Nat) (text : Text) (absent : '?' ∉ text) : (ofText offset text).query = none := by
  cases query : (ofText offset text).query with
  | none => rfl
  | some written =>
      obtain ⟨rest, rfl, -⟩ := (of_text_spelled offset text).query_led written query
      have whole := of_text_original offset text
      rw [original, query] at whole
      exact absurd (whole ▸ List.mem_append_left _ (List.mem_append_right _ List.mem_cons_self)) absent

theorem of_text_parts (offset : Nat) (resource : Text) (query fragment : Option Text)
    (spelled : Spelled resource query fragment) :
    (ofText offset (resource ++ query.getD [] ++ fragment.getD [])).resource = resource ∧
      (ofText offset (resource ++ query.getD [] ++ fragment.getD [])).query = query ∧
      (ofText offset (resource ++ query.getD [] ++ fragment.getD [])).fragment = fragment := by
  have plain : '#' ∉ resource ++ query.getD [] := by
    cases query with
    | none => simpa using spelled.resource_plain.2
    | some written =>
        obtain ⟨rest, rfl, free⟩ := spelled.query_led written rfl
        simp [spelled.resource_plain.2, free]
  have beforeFragment : cutBefore '#' (resource ++ query.getD [] ++ fragment.getD []) =
      (resource ++ query.getD [], fragment) := by
    cases fragment with
    | none => simpa using cut_before_absent '#' _ plain
    | some written =>
        obtain ⟨rest, rfl⟩ := spelled.fragment_led written rfl
        exact cut_before_present '#' _ rest plain
  have beforeQuery : cutBefore '?' (resource ++ query.getD []) = (resource, query) := by
    cases query with
    | none => simpa using cut_before_absent '?' _ spelled.resource_plain.1
    | some written =>
        obtain ⟨rest, rfl, -⟩ := spelled.query_led written rfl
        exact cut_before_present '?' resource rest spelled.resource_plain.1
  rw [of_text_resource, of_text_query, of_text_fragment, beforeFragment, beforeQuery]
  exact ⟨rfl, rfl, rfl⟩

-- Scheme, userinfo, host, port and path are read from the resource alone, so an address can be given another query.
theorem of_text_other_query (offset : Nat) (text : Text) (query : Option Text)
    (spelled : Spelled (ofText offset text).resource query (ofText offset text).fragment) :
    ofText offset ((ofText offset text).resource ++ query.getD [] ++ (ofText offset text).fragment.getD []) =
      { ofText offset text with query := query } := by
  obtain ⟨resource, respelled, fragment⟩ := of_text_parts offset _ query _ spelled
  generalize (ofText offset text).resource ++ query.getD [] ++ (ofText offset text).fragment.getD [] = other at *
  rw [of_text_resource, of_text_resource] at resource
  rw [of_text_query] at respelled
  rw [of_text_fragment] at fragment
  rw [of_text_steps offset other, respelled, fragment, resource]
  rfl

end LinkTidy.Url
