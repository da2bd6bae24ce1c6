import LinkTidy.Proofs.Url.Spans
/-!
What the parts of an address are, for a text of any characters, and that they can be read in their ranges.
-/

set_option autoImplicit false

namespace LinkTidy.Url

-- The ranges are in order and give the parts, each part begins at the first sign that can begin it, and none holds a
-- sign that would end it.
structure Partition (text : Text) (url : Url) : Prop where
  scheme_end : ∀ stop, url.spans.schemeEnd = some stop → 3 ≤ stop
  scheme_read : url.spans.schemeEnd.map (fun stop => range? 0 (stop - 3) text) = url.scheme.map some
  host_read : range? url.spans.host.1 url.spans.host.2 text = some url.host
  path_read : range? url.spans.path.1 url.spans.path.2 text = some url.path
  query_read : url.spans.query.map (fun span => range? span.1 span.2 text) = url.query.map some
  fragment_read : url.spans.fragment.map (fun span => range? span.1 span.2 text) = url.fragment.map some
  ordered : url.spans.schemeEnd.getD 0 ≤ url.spans.host.1 ∧ url.spans.host.1 ≤ url.spans.host.2 ∧
    url.spans.host.2 ≤ url.spans.path.1 ∧ url.spans.path.1 ≤ url.spans.path.2
  joined : ∃ front, range? 0 url.spans.path.1 text = some front ∧
    text = front ++ url.path ++ url.query.getD [] ++ url.fragment.getD []
  fragment_first : url.spans.fragment = none ∧ '#' ∉ text ∨
    ∃ before behind, text = before ++ '#' :: behind ∧ '#' ∉ before ∧ url.fragment = some ('#' :: behind) ∧
      url.spans.fragment = some (byteLength before, byteLength text)
  query_first : url.spans.query = none ∧ '?' ∉ text.takeWhile (· != '#') ∨
    ∃ before behind, text.takeWhile (· != '#') = before ++ '?' :: behind ∧ '?' ∉ before ∧ '#' ∉ behind ∧
      url.query = some ('?' :: behind) ∧
      url.spans.query = some (byteLength before, byteLength before + byteLength ('?' :: behind))
  path_plain : '?' ∉ url.path ∧ '#' ∉ url.path ∧ (url.path = [] ∨ url.path.head? = some '/')
  host_plain : ∀ c ∈ url.host, c ∉ ['/', '@', ':', '?', '#']
  authority_plain : ∃ between, range? (url.spans.schemeEnd.getD 0) url.spans.path.1 text = some between ∧ '/' ∉ between
  scheme_iff : ∀ name, url.scheme = some name ↔
    PrecedesFirst name "://".toList (text.takeWhile fun c => c != '?' && c != '#') ∧
      ∃ c rest, name = c :: rest ∧ c.isAlpha = true ∧ ∀ d ∈ rest, d.isAlphanum = true ∨ d = '+' ∨ d = '-' ∨ d = '.'

-- The text in front of the path.
def authorityEnd (url : Url) : Text :=
  url.lead ++ url.userinfo ++ url.host ++ url.port

theorem original_parts (url : Url) :
    url.original = url.authorityEnd ++ url.path ++ (url.query.getD [] ++ url.fragment.getD []) :=
  List.append_assoc _ _ _

section

variable (url : Url)

theorem scheme_end_behind_sign (stop : Nat) (schemeEnd : url.spans.schemeEnd = some stop) : 3 ≤ stop := by
  obtain ⟨name, -, rfl⟩ := Option.map_eq_some_iff.mp schemeEnd
  rw [byte_length_append]
  exact Nat.le_add_left 3 _

theorem scheme_reads :
    url.spans.schemeEnd.map (fun stop => range? 0 (stop - 3) url.original) = url.scheme.map some := by
  rw [spans]
  cases scheme : url.scheme with
  | none => rfl
  | some name =>
      have lead : url.lead = name ++ "://".toList := by rw [lead, scheme]; rfl
      have stop : byteLength (name ++ "://".toList) - 3 = byteLength name := by
        rw [byte_length_append]
        exact Nat.add_sub_cancel _ 3
      rw [Option.map_some, Option.map_some, stop, original_parts, authorityEnd, lead]
      simp only [List.append_assoc, range_front]
      rfl

theorem host_reads : range? url.spans.host.1 url.spans.host.2 url.original = some url.host := by
  have read := range_middle (url.lead ++ url.userinfo) url.host
    (url.port ++ (url.path ++ (url.query.getD [] ++ url.fragment.getD [])))
  rw [← List.append_assoc, ← List.append_assoc] at read
  rw [original_parts]
  exact read

theorem path_reads : range? url.spans.path.1 url.spans.path.2 url.original = some url.path := by
  rw [original_parts]
  exact range_middle url.authorityEnd url.path _

theorem query_reads :
    url.spans.query.map (fun span => range? span.1 span.2 url.original) = url.query.map some := by
  rw [spans, querySpan, original]
  cases url.query with
  | none => rfl
  | some written =>
      have read := range_middle url.resource written (url.fragment.getD [])
      rw [byte_length_append] at read
      exact congrArg some read

theorem fragment_reads :
    url.spans.fragment.map (fun span => range? span.1 span.2 url.original) = url.fragment.map some := by
  rw [spans, original]
  cases url.fragment with
  | none => rfl
  | some written =>
      have read := range_middle (url.resource ++ url.query.getD []) written []
      rw [List.append_nil] at read
      exact congrArg some read

theorem authority_reads :
    range? (url.spans.schemeEnd.getD 0) url.spans.path.1 url.original = some (url.userinfo ++ url.host ++ url.port) := by
  have schemeEnd : url.spans.schemeEnd.getD 0 = byteLength url.lead := url.lead_length
  have read := range_middle url.lead (url.userinfo ++ url.host ++ url.port)
    (url.path ++ (url.query.getD [] ++ url.fragment.getD []))
  have parts : url.lead ++ (url.userinfo ++ url.host ++ url.port) = url.authorityEnd := by
    simp only [authorityEnd, List.append_assoc]
  rw [parts, ← List.append_assoc, ← original_parts] at read
  rw [schemeEnd]
  exact read

theorem spans_ordered :
    url.spans.schemeEnd.getD 0 ≤ url.spans.host.1 ∧ url.spans.host.1 ≤ url.spans.host.2 ∧
      url.spans.host.2 ≤ url.spans.path.1 ∧ url.spans.path.1 ≤ url.spans.path.2 := by
  have schemeEnd : url.spans.schemeEnd.getD 0 = byteLength url.lead := url.lead_length
  rw [schemeEnd]
  simp only [spans, resource_parts, byte_length_append]
  omega

end

theorem cut_before_take_while (sign : Char) (text : Text) : (cutBefore sign text).1 = text.takeWhile (· != sign) := by
  rcases cut_before_cases sign text with ⟨absent, cut⟩ | ⟨before, behind, absent, rfl, cut⟩
  · rw [cut, List.takeWhile_eq_self_iff.mpr (passed_of_absent sign text absent)]
  · have passed := passed_of_absent sign before absent
    rw [cut, (take_while_stop (· != sign) before behind sign passed (by simp)).1]

theorem cut_scheme_iff (text name : Text) :
    (cutScheme text).1 = some name ↔
      (∃ behind, cutAt? "://".toList text = some (name, behind)) ∧ isScheme name = true := by
  rw [cutScheme]
  cases cutAt? "://".toList text with
  | none => simp
  | some parts =>
      obtain ⟨before, behind⟩ := parts
      dsimp only
      by_cases wellFormed : isScheme before = true
      · rw [if_pos wellFormed]
        constructor
        · intro same
          cases same
          exact ⟨⟨behind, rfl⟩, wellFormed⟩
        · rintro ⟨⟨_, same⟩, -⟩
          cases same
          rfl
      · rw [if_neg wellFormed]
        constructor
        · intro same
          cases same
        · rintro ⟨⟨_, same⟩, scheme⟩
          cases same
          exact absurd scheme wellFormed

theorem cut_after_at_plain (text : Text) : '@' ∉ (cutAfterAt text).2 := by
  intro member
  have taken := List.mem_takeWhile_imp (List.mem_reverse.mp member)
  exact absurd taken (by decide)

section

variable (offset : Nat) (text : Text)

theorem of_text_authority_plain :
    '/' ∉ (ofText offset text).userinfo ++ (ofText offset text).host ++ (ofText offset text).port := by
  rw [of_text_authority]
  exact cut_before_plain '/' _

theorem of_text_fragment_first :
    (ofText offset text).spans.fragment = none ∧ '#' ∉ text ∨
      ∃ before behind, text = before ++ '#' :: behind ∧ '#' ∉ before ∧
        (ofText offset text).fragment = some ('#' :: behind) ∧
        (ofText offset text).spans.fragment = some (byteLength before, byteLength text) := by
  rw [spans, ← of_text_front, of_text_original, of_text_fragment]
  rcases cut_before_cases '#' text with ⟨absent, cut⟩ | ⟨before, behind, absent, whole, cut⟩ <;> rw [cut]
  · exact .inl ⟨rfl, absent⟩
  · exact .inr ⟨before, behind, whole, absent, rfl, rfl⟩

theorem of_text_query_first :
    (ofText offset text).spans.query = none ∧ '?' ∉ text.takeWhile (· != '#') ∨
      ∃ before behind, text.takeWhile (· != '#') = before ++ '?' :: behind ∧ '?' ∉ before ∧ '#' ∉ behind ∧
        (ofText offset text).query = some ('?' :: behind) ∧
        (ofText offset text).spans.query =
          some (byteLength before, byteLength before + byteLength ('?' :: behind)) := by
  have plain := cut_before_plain '#' text
  rw [spans, querySpan, of_text_resource, of_text_query, ← cut_before_take_while]
  rcases cut_before_cases '?' (cutBefore '#' text).1 with ⟨absent, cut⟩ | ⟨before, behind, absent, whole, cut⟩ <;>
    rw [cut]
  · exact .inl ⟨rfl, absent⟩
  · rw [whole] at plain
    have behindPlain : '#' ∉ behind :=
      fun member => plain (List.mem_append_right before (List.mem_cons_of_mem _ member))
    exact .inr ⟨before, behind, whole, absent, behindPlain, rfl, rfl⟩

theorem of_text_path_led : (ofText offset text).path = [] ∨ (ofText offset text).path.head? = some '/' := by
  rw [of_text_path]
  cases path : (cutBefore '/' (cutScheme (ofText offset text).resource).2).2 with
  | none => exact .inl rfl
  | some written =>
      obtain ⟨rest, rfl⟩ := cut_before_led '/' _ written path
      exact .inr rfl

theorem of_text_host_plain : ∀ c ∈ (ofText offset text).host, c ∉ ['/', '@', ':', '?', '#'] := by
  intro c member listed
  have resourcePlain := (of_text_spelled offset text).resource_plain
  have inResource : c ∈ (ofText offset text).resource := by
    rw [resource_parts]
    exact List.mem_append_left _ (List.mem_append_right _ member)
  simp only [List.mem_cons, List.not_mem_nil, or_false] at listed
  rcases listed with rfl | rfl | rfl | rfl | rfl
  · exact of_text_authority_plain offset text (List.mem_append_left _ (List.mem_append_right _ member))
  · -- The host is what stands in front of a colon behind the last `@`.
    apply cut_after_at_plain (cutBefore '/' (cutScheme (cutBefore '?' (cutBefore '#' text).1).1).2).1
    rw [← cut_before_append ':' (cutAfterAt _).2]
    exact List.mem_append_left _ member
  · exact cut_before_plain ':' _ member
  · exact resourcePlain.1 inResource
  · exact resourcePlain.2 inResource

theorem of_text_scheme_iff (name : Text) :
    (ofText offset text).scheme = some name ↔
      PrecedesFirst name "://".toList (text.takeWhile fun c => c != '?' && c != '#') ∧
        ∃ c rest, name = c :: rest ∧ c.isAlpha = true ∧
          ∀ d ∈ rest, d.isAlphanum = true ∨ d = '+' ∨ d = '-' ∨ d = '.' := by
  have front : (cutBefore '?' (cutBefore '#' text).1).1 = text.takeWhile fun c => c != '?' && c != '#' := by
    rw [cut_before_take_while, cut_before_take_while, List.takeWhile_takeWhile]
    congr 1
    funext c
    rw [Bool.decide_and, Bool.decide_eq_true, Bool.decide_eq_true]
  have scheme : (ofText offset text).scheme = (cutScheme (cutBefore '?' (cutBefore '#' text).1).1).1 := rfl
  rw [scheme, front, cut_scheme_iff, cut_at_first_iff, is_scheme_iff]

-- Any text can be taken apart, and what is found are its parts.
theorem text_partitioned :
    spans? text = some (ofText offset text).spans ∧ (ofText offset text).original = text ∧
      Partition text (ofText offset text) := by
  have whole := of_text_original offset text
  have resourcePlain := (of_text_spelled offset text).resource_plain
  have pathInside : ∀ c ∈ (ofText offset text).path, c ∈ (ofText offset text).resource :=
    fun c member => List.mem_append_right _ member
  refine ⟨spans_found offset text, whole, ?_⟩
  constructor
  case scheme_end => exact scheme_end_behind_sign (ofText offset text)
  case scheme_read => simpa only [whole] using scheme_reads (ofText offset text)
  case host_read => simpa only [whole] using host_reads (ofText offset text)
  case path_read => simpa only [whole] using path_reads (ofText offset text)
  case query_read => simpa only [whole] using query_reads (ofText offset text)
  case fragment_read => simpa only [whole] using fragment_reads (ofText offset text)
  case ordered => exact spans_ordered (ofText offset text)
  case joined =>
    have parts := original_parts (ofText offset text)
    have read := range_front (ofText offset text).authorityEnd
      ((ofText offset text).path ++ ((ofText offset text).query.getD [] ++ (ofText offset text).fragment.getD []))
    rw [← List.append_assoc, ← parts, whole] at read
    rw [whole, ← List.append_assoc] at parts
    exact ⟨_, read, parts⟩
  case fragment_first => exact of_text_fragment_first offset text
  case query_first => exact of_text_query_first offset text
  case path_plain =>
    exact ⟨fun member => resourcePlain.1 (pathInside _ member), fun member => resourcePlain.2 (pathInside _ member),
      of_text_path_led offset text⟩
  case host_plain => exact of_text_host_plain offset text
  case authority_plain =>
    have read := authority_reads (ofText offset text)
    rw [whole] at read
    exact ⟨_, read, of_text_authority_plain offset text⟩
  case scheme_iff => exact of_text_scheme_iff offset text

end

-- The first `://` stands behind an `@`, so there is no scheme, and the host ends at the colon in front of it.
example : spans? "é@é://h?é?#?#".toList =
    some ⟨none, (3, 5), (6, 9), some (9, 13), some (13, 16)⟩ := by decide +kernel

end LinkTidy.Url
