import LinkTidy.Proofs.Text.Ranges
import LinkTidy.Proofs.Text.Utf8.Reading
import LinkTidy.Proofs.Url.Parts
import Mathlib.Data.List.TakeWhile
/-!
The parts of an address as ranges of its text. They are found by searches among its characters and among its bytes, each
of them in a range that an earlier one has found. Whatever the text, no range is past its end or inside a character.
-/

set_option autoImplicit false

namespace LinkTidy.Url

-- Where parts of an address begin and end, in bytes.
structure Spans where
  schemeEnd : Option Nat
  host : Nat × Nat
  path : Nat × Nat
  query : Option (Nat × Nat)
  fragment : Option (Nat × Nat)
deriving DecidableEq

-- Where a word first begins in a text.
def find? (word text : Text) : Option Nat :=
  (cutAt? word text).map fun cut => byteLength cut.1

def byteRange? (start stop : Nat) (bytes : Bytes) : Option Bytes :=
  if start ≤ stop ∧ stop ≤ bytes.length then some ((bytes.take stop).drop start) else none

def firstByte? (sign : Char) (bytes : Bytes) : Option Nat :=
  bytes.findIdx? (· == sign.toUInt8)

def lastByte? (sign : Char) (bytes : Bytes) : Option Nat :=
  (bytes.reverse.findIdx? (· == sign.toUInt8)).map (bytes.length - 1 - ·)

-- Where `://` ends behind a scheme, whose bytes are tested one by one.
def schemeEnd? (resource : Text) : Option (Option Nat) :=
  ((find? "://".toList resource).map fun colon =>
    (range? 0 colon resource).map fun scheme =>
      if isScheme ((Utf8.encode scheme).map Char.ofUInt8) then some (colon + 3) else none).getD (some none)

-- The host, in the bytes from `start` up to the first slash: behind the last `@`, and up to a colon.
def hostSpan? (resource : Text) (start : Nat) : Option (Nat × Nat) := do
  let bytes := Utf8.encode resource
  let hierarchy ← byteRange? start bytes.length bytes
  let stop := ((firstByte? '/' hierarchy).map (start + ·)).getD bytes.length
  let authority ← byteRange? start stop bytes
  let host := ((lastByte? '@' authority).map (start + · + 1)).getD start
  let hostAndPort ← byteRange? host stop bytes
  some (host, ((firstByte? ':' hostAndPort).map (host + ·)).getD stop)

-- All parts of an address. A range that cannot be read makes the whole search fail.
def spans? (text : Text) : Option Spans := do
  let fragment := find? ['#'] text
  let queryEnd := fragment.getD (byteLength text)
  let beforeFragment ← range? 0 queryEnd text
  let query := find? ['?'] beforeFragment
  let pathEnd := query.getD queryEnd
  let resource ← range? 0 pathEnd text
  let schemeEnd ← schemeEnd? resource
  let host ← hostSpan? resource (schemeEnd.getD 0)
  let behindHost ← range? host.2 pathEnd text
  let pathStart := ((find? ['/'] behindHost).map (host.2 + ·)).getD pathEnd
  some {
    schemeEnd := schemeEnd
    host := host
    path := (pathStart, pathEnd)
    query := query.map (·, queryEnd)
    fragment := fragment.map (·, byteLength text) }

-- A scheme as it is spelled, with its `://`.
def lead (url : Url) : Text :=
  (url.scheme.map (· ++ "://".toList)).getD []

-- The ranges that the parts take if they are put together in order.
def spans (url : Url) : Spans where
  schemeEnd := url.scheme.map fun scheme => byteLength (scheme ++ "://".toList)
  host := (byteLength (url.lead ++ url.userinfo), byteLength (url.lead ++ url.userinfo ++ url.host))
  path := (byteLength (url.lead ++ url.userinfo ++ url.host ++ url.port), byteLength url.resource)
  query := url.querySpan
  fragment := url.fragment.map fun _ => (byteLength (url.resource ++ url.query.getD []), byteLength url.original)

theorem lead_length (url : Url) :
    (url.scheme.map fun scheme => byteLength (scheme ++ "://".toList)).getD 0 = byteLength url.lead := by
  rw [lead]
  cases url.scheme <;> rfl

theorem resource_parts (url : Url) :
    url.resource = url.lead ++ url.userinfo ++ url.host ++ (url.port ++ url.path) :=
  List.append_assoc _ _ _

theorem range_front (front behind : Text) : range? 0 (byteLength front) (front ++ behind) = some front :=
  range_middle [] front behind

theorem cut_at_sign (sign : Char) (text : Text) :
    cutAt? [sign] text = (cutBefore sign text).2.map fun behind => ((cutBefore sign text).1, behind.tail) := by
  induction text with
  | nil => rfl
  | cons c rest ih =>
      by_cases same : c = sign
      · have here := cut_before_present sign [] rest List.not_mem_nil
        rw [List.nil_append] at here
        rw [same, here, cutAt?]
        simp [List.isPrefixOf?]
      · have passed : (sign == c) = false := by simpa using Ne.symm same
        have none : [sign].isPrefixOf? (c :: rest) = none := by simp [List.isPrefixOf?, passed]
        rw [cutAt?, none]
        dsimp only
        rw [ih]
        rcases cut_before_cases sign rest with ⟨absent, cut⟩ | ⟨before, behind, absent, rfl, cut⟩
        · rw [cut, cut_before_absent sign (c :: rest) (by simpa [Ne.symm same] using absent)]
          rfl
        · have later : sign ∉ c :: before := by simpa [Ne.symm same] using absent
          rw [cut, ← List.cons_append, cut_before_present sign (c :: before) behind later]
          rfl

-- A search for a sign, among characters or bytes, ends at the same place.
theorem find_cut_before (sign : Char) (text : Text) :
    find? [sign] text = (cutBefore sign text).2.map fun _ => byteLength (cutBefore sign text).1 := by
  rw [find?, cut_at_sign, Option.map_map]
  rfl

theorem encode_sign (sign : Char) (ascii : sign.toNat < 128) (before behind : Text) :
    Utf8.encode (before ++ sign :: behind) = Utf8.encode before ++ sign.toUInt8 :: Utf8.encode behind := by
  have bytes : String.utf8EncodeChar sign = [sign.toUInt8] := by
    rcases Utf8.encoded_sizes sign with ⟨-, bytes⟩ | ⟨large, -⟩
    · exact bytes
    · omega
  rw [Utf8.encode_append, Utf8.encode_cons, bytes, List.singleton_append]

theorem find_byte_absent (sign : Char) (ascii : sign.toNat < 128) (text : Text) (absent : sign ∉ text) (bytes : Bytes)
    (same : ∀ b ∈ bytes, b ∈ Utf8.encode text) : bytes.findIdx? (· == sign.toUInt8) = none := by
  rw [List.findIdx?_eq_none_iff]
  intro b member
  have differs : b ≠ sign.toUInt8 := by
    rintro rfl
    exact Utf8.ascii_absent sign ascii text absent (same _ member)
  simpa using differs

theorem first_byte_cut_before (sign : Char) (ascii : sign.toNat < 128) (text : Text) :
    firstByte? sign (Utf8.encode text) = (cutBefore sign text).2.map fun _ => byteLength (cutBefore sign text).1 := by
  rcases cut_before_cases sign text with ⟨absent, cut⟩ | ⟨before, behind, absent, rfl, cut⟩
  · rw [cut, firstByte?, find_byte_absent sign ascii text absent _ fun _ member => member]
    rfl
  · have none := find_byte_absent sign ascii before absent _ fun _ member => member
    rw [cut, firstByte?, encode_sign sign ascii, List.findIdx?_append, none, ← Utf8.encode_length]
    simp [List.findIdx?_cons]

theorem cut_after_at_absent (text : Text) (absent : '@' ∉ text) : cutAfterAt text = ([], text) := by
  have all : text.reverse.takeWhile (· != '@') = text.reverse :=
    List.takeWhile_eq_self_iff.mpr (passed_of_absent '@' text.reverse (by simpa using absent))
  simp [cutAfterAt, all]

theorem cut_after_at_present (before behind : Text) (absent : '@' ∉ behind) :
    cutAfterAt (before ++ '@' :: behind) = (before ++ ['@'], behind) := by
  have taken : (before ++ '@' :: behind).reverse.takeWhile (· != '@') = behind.reverse := by
    have passed := passed_of_absent '@' behind.reverse (by simpa using absent)
    have stop := (take_while_stop (· != '@') behind.reverse before.reverse '@' passed (by simp)).1
    simpa using stop
  have size : (before ++ '@' :: behind).length - behind.length = (before ++ ['@']).length := by simp; omega
  have joined : before ++ '@' :: behind = (before ++ ['@']) ++ behind := by simp
  rw [cutAfterAt, taken, List.reverse_reverse, size, joined, List.take_left]

theorem last_byte_cut_after_at (text : Text) :
    ((lastByte? '@' (Utf8.encode text)).map (· + 1)).getD 0 = byteLength (cutAfterAt text).1 := by
  by_cases member : '@' ∈ text
  · obtain ⟨behind, before, reversed, absent⟩ := List.eq_append_cons_of_mem (List.mem_reverse.mpr member)
    have whole : text = before.reverse ++ '@' :: behind.reverse := by
      rw [← List.reverse_reverse text, reversed]
      simp
    have plain : '@' ∉ behind.reverse := by simpa using absent
    have none := find_byte_absent '@' (by decide) behind.reverse plain (Utf8.encode behind.reverse).reverse
      fun _ inside => List.mem_reverse.mp inside
    rw [whole, cut_after_at_present _ _ plain, lastByte?, encode_sign '@' (by decide), List.reverse_append,
      List.reverse_cons, List.append_assoc, List.findIdx?_append, none]
    have one : '@'.utf8Size = 1 := rfl
    rw [byte_length_append, ← Utf8.encode_length before.reverse]
    simp [List.findIdx?_cons, byteLength, one]
  · have none := find_byte_absent '@' (by decide) text member (Utf8.encode text).reverse
      fun _ inside => List.mem_reverse.mp inside
    rw [cut_after_at_absent text member, lastByte?, none]
    rfl

theorem of_byte_number (b : UInt8) : (Char.ofUInt8 b).toNat = b.toNat := rfl

theorem ascii_bytes (text : Text) (ascii : ∀ c ∈ text, c.toNat < 128) : (Utf8.encode text).map Char.ofUInt8 = text := by
  induction text with
  | nil => rfl
  | cons c rest ih =>
      have small := ascii c List.mem_cons_self
      rcases Utf8.encoded_sizes c with ⟨-, bytes⟩ | ⟨large, -⟩
      · have same : Char.ofUInt8 (UInt8.ofNat c.toNat) = c := by
          apply Char.toNat_inj.mp
          rw [of_byte_number, UInt8.toNat_ofNat']
          omega
        rw [Utf8.encode_cons, bytes, List.singleton_append, List.map_cons, same,
          ih fun d member => ascii d (List.mem_cons_of_mem _ member)]
      · omega

-- A character of more bytes has only bytes that no scheme has, so it makes no difference what is tested.
theorem scheme_of_bytes (text : Text) : isScheme ((Utf8.encode text).map Char.ofUInt8) = isScheme text := by
  by_cases ascii : ∀ c ∈ text, c.toNat < 128
  · rw [ascii_bytes text ascii]
  · have noScheme : isScheme text = false := Bool.eq_false_iff.mpr fun scheme => ascii (is_scheme_ascii text scheme)
    rw [noScheme, Bool.eq_false_iff]
    intro scheme
    apply ascii
    intro c member
    have inside : ∀ b ∈ String.utf8EncodeChar c, b.toNat < 128 := by
      intro b here
      rw [← of_byte_number]
      exact is_scheme_ascii _ scheme _ (List.mem_map_of_mem (List.mem_flatMap.mpr ⟨c, member, here⟩))
    rcases Utf8.encoded_sizes c with ⟨small, -⟩ | ⟨-, high⟩
    · exact small
    · obtain ⟨b, more, bytes⟩ := List.exists_cons_of_ne_nil (String.utf8EncodeChar_ne_nil (c := c))
      have here : b ∈ String.utf8EncodeChar c := by rw [bytes]; exact List.mem_cons_self
      exact absurd (inside b here) (Nat.not_lt_of_le (high b here))

theorem scheme_end_found (resource : Text) :
    schemeEnd? resource = some ((cutScheme resource).1.map fun scheme => byteLength (scheme ++ "://".toList)) := by
  rw [schemeEnd?, find?, cutScheme]
  cases cut : cutAt? "://".toList resource with
  | none => rfl
  | some parts =>
      obtain ⟨scheme, rest⟩ := parts
      have read : range? 0 (byteLength scheme) resource = some scheme := by
        rw [cut_at_append _ resource scheme rest cut, List.append_assoc]
        exact range_front scheme _
      simp only [Option.map_some, Option.getD_some, read, scheme_of_bytes]
      by_cases wellFormed : isScheme scheme = true
      · rw [if_pos wellFormed, if_pos wellFormed, Option.map_some, byte_length_append]
        rfl
      · rw [if_neg wellFormed, if_neg wellFormed]
        rfl

theorem byte_range_middle (before middle behind : Text) :
    byteRange? (byteLength before) (byteLength (before ++ middle)) (Utf8.encode (before ++ middle ++ behind)) =
      some (Utf8.encode middle) := by
  have ordered : (Utf8.encode before).length ≤ (Utf8.encode (before ++ middle)).length ∧
      (Utf8.encode (before ++ middle)).length ≤ (Utf8.encode (before ++ middle ++ behind)).length := by
    simp only [Utf8.encode_append, List.length_append]
    omega
  rw [← Utf8.encode_length before, ← Utf8.encode_length (before ++ middle), byteRange?, if_pos ordered,
    Utf8.encode_append (before ++ middle), List.take_left, Utf8.encode_append, List.drop_left]

-- The end of the range that a search for a sign leaves in front of it.
theorem front_end (sign : Char) (text : Text) :
    ((cutBefore sign text).2.map fun _ => byteLength (cutBefore sign text).1).getD (byteLength text) =
      byteLength (cutBefore sign text).1 := by
  rcases cut_before_cases sign text with ⟨-, cut⟩ | ⟨before, behind, -, -, cut⟩ <;> rw [cut] <;> rfl

theorem search_end (sign : Char) (text : Text) (start : Nat) :
    (((cutBefore sign text).2.map fun _ => byteLength (cutBefore sign text).1).map (start + ·)).getD
        (start + byteLength text) = start + byteLength (cutBefore sign text).1 := by
  rw [Option.getD_map, front_end]

theorem host_span_found (front hierarchy : Text) :
    let authority := (cutBefore '/' hierarchy).1
    let userinfo := (cutAfterAt authority).1
    let host := (cutBefore ':' (cutAfterAt authority).2).1
    hostSpan? (front ++ hierarchy) (byteLength front) =
      some (byteLength (front ++ userinfo), byteLength (front ++ userinfo ++ host)) := by
  intro authority userinfo host
  have hierarchyRead : byteRange? (byteLength front) (Utf8.encode (front ++ hierarchy)).length
      (Utf8.encode (front ++ hierarchy)) = some (Utf8.encode hierarchy) := by
    have read := byte_range_middle front hierarchy []
    rwa [List.append_nil, ← Utf8.encode_length (front ++ hierarchy)] at read
  have slash : ((firstByte? '/' (Utf8.encode hierarchy)).map (byteLength front + ·)).getD
      (Utf8.encode (front ++ hierarchy)).length = byteLength (front ++ authority) := by
    rw [first_byte_cut_before '/' (by decide), Utf8.encode_length, byte_length_append, search_end, byte_length_append]
  have authorityRead : byteRange? (byteLength front) (byteLength (front ++ authority))
      (Utf8.encode (front ++ hierarchy)) = some (Utf8.encode authority) := by
    have read := byte_range_middle front authority ((cutBefore '/' hierarchy).2.getD [])
    rwa [List.append_assoc front, cut_before_append] at read
  have lastAt : ((lastByte? '@' (Utf8.encode authority)).map (byteLength front + · + 1)).getD (byteLength front) =
      byteLength (front ++ userinfo) := by
    rw [byte_length_append, ← last_byte_cut_after_at]
    cases lastByte? '@' (Utf8.encode authority) <;> rfl
  have split : front ++ userinfo ++ (cutAfterAt authority).2 = front ++ authority := by
    rw [List.append_assoc, cut_after_at_append]
  have hostRead : byteRange? (byteLength (front ++ userinfo)) (byteLength (front ++ authority))
      (Utf8.encode (front ++ hierarchy)) = some (Utf8.encode (cutAfterAt authority).2) := by
    have read := byte_range_middle (front ++ userinfo) (cutAfterAt authority).2 ((cutBefore '/' hierarchy).2.getD [])
    rwa [split, List.append_assoc front, cut_before_append] at read
  have colon : ((firstByte? ':' (Utf8.encode (cutAfterAt authority).2)).map (byteLength (front ++ userinfo) + ·)).getD
      (byteLength (front ++ authority)) = byteLength (front ++ userinfo ++ host) := by
    rw [first_byte_cut_before ':' (by decide), ← split, byte_length_append (front ++ userinfo), search_end,
      byte_length_append (front ++ userinfo)]
  simp only [hostSpan?, hierarchyRead, slash, authorityRead, lastAt, hostRead, colon, Option.bind_eq_bind,
    Option.bind_some]

theorem cut_before_rest (sign : Char) (text front behind : Text) (split : front ++ behind = (cutBefore sign text).1) :
    cutBefore sign (behind ++ (cutBefore sign text).2.getD []) = (behind, (cutBefore sign text).2) := by
  have plain : sign ∉ behind := fun member =>
    cut_before_plain sign text (split ▸ List.mem_append_right front member)
  rcases cut_before_cases sign text with ⟨-, cut⟩ | ⟨before, rest, -, -, cut⟩ <;> rw [cut]
  · rw [Option.getD_none, List.append_nil, cut_before_absent sign behind plain]
  · rw [Option.getD_some, cut_before_present sign behind rest plain]

section

variable (offset : Nat) (text : Text)

theorem of_text_front :
    (cutBefore '#' text).1 = (ofText offset text).resource ++ (ofText offset text).query.getD [] := by
  rw [of_text_resource, of_text_query, cut_before_append]


-- The text behind `://`, put together from its parts.
theorem of_text_hierarchy :
    (ofText offset text).resource =
      (ofText offset text).lead ++ (cutScheme (ofText offset text).resource).2 := by
  have split := cut_scheme_append (ofText offset text).resource
  rw [of_text_resource, of_text_steps, lead] at *
  exact split.symm

theorem host_found :
    hostSpan? (ofText offset text).resource (byteLength (ofText offset text).lead) =
      some (ofText offset text).spans.host := by
  have found := host_span_found (ofText offset text).lead (cutScheme (ofText offset text).resource).2
  rw [← of_text_hierarchy] at found
  rw [found, of_text_resource]
  rfl

-- No slash stands in front of the path, so a search behind the host finds the path and no earlier place.
theorem path_found :
    ((find? ['/'] ((ofText offset text).port ++ (ofText offset text).path)).map
        ((ofText offset text).spans.host.2 + ·)).getD (byteLength (ofText offset text).resource) =
      (ofText offset text).spans.path.1 := by
  have cut : cutBefore '/' ((ofText offset text).port ++ (ofText offset text).path) =
      ((ofText offset text).port, (cutBefore '/' (cutScheme (ofText offset text).resource).2).2) := by
    rw [of_text_path]
    exact cut_before_rest '/' _ _ _ (of_text_authority offset text)
  have reached := search_end '/' ((ofText offset text).port ++ (ofText offset text).path)
    (byteLength ((ofText offset text).lead ++ (ofText offset text).userinfo ++ (ofText offset text).host))
  rw [← byte_length_append, ← resource_parts, ← find_cut_before, cut] at reached
  exact reached.trans (byte_length_append _ _).symm

theorem front_read (sign : Char) (text behind : Text) :
    range? 0 (byteLength (cutBefore sign text).1) (text ++ behind) = some (cutBefore sign text).1 := by
  have read := range_front (cutBefore sign text).1 ((cutBefore sign text).2.getD [] ++ behind)
  rwa [← List.append_assoc, cut_before_append] at read

theorem query_span_found :
    (find? ['?'] (cutBefore '#' text).1).map (·, byteLength (cutBefore '#' text).1) =
      (ofText offset text).querySpan := by
  have split := cut_before_append '?' (cutBefore '#' text).1
  rw [find_cut_before, querySpan, of_text_resource, of_text_query, Option.map_map]
  generalize (cutBefore '#' text).1 = front at split ⊢
  cases query : (cutBefore '?' front).2 with
  | none => rfl
  | some written =>
      rw [query] at split
      have size : byteLength front = byteLength (cutBefore '?' front).1 + byteLength written := by
        rw [← byte_length_append]
        exact congrArg byteLength split.symm
      rw [Option.map_some, Option.map_some, Function.comp_apply, size]

theorem spans_found : spans? text = some (ofText offset text).spans := by
  have queryEnd : (find? ['#'] text).getD (byteLength text) = byteLength (cutBefore '#' text).1 := by
    rw [find_cut_before, front_end]
  have frontRead : range? 0 (byteLength (cutBefore '#' text).1) text = some (cutBefore '#' text).1 := by
    have read := front_read '#' text []
    rwa [List.append_nil] at read
  have pathEnd : (find? ['?'] (cutBefore '#' text).1).getD (byteLength (cutBefore '#' text).1) =
      byteLength (ofText offset text).resource := by
    rw [find_cut_before, front_end, of_text_resource]
  have resourceRead : range? 0 (byteLength (ofText offset text).resource) text = some (ofText offset text).resource := by
    have read := front_read '?' (cutBefore '#' text).1 ((cutBefore '#' text).2.getD [])
    rwa [cut_before_append, ← of_text_resource offset text] at read
  have behindHost : range? (ofText offset text).spans.host.2 (byteLength (ofText offset text).resource) text =
      some ((ofText offset text).port ++ (ofText offset text).path) := by
    have read := range_middle ((ofText offset text).lead ++ (ofText offset text).userinfo ++ (ofText offset text).host)
      ((ofText offset text).port ++ (ofText offset text).path)
      ((ofText offset text).query.getD [] ++ (ofText offset text).fragment.getD [])
    rwa [← resource_parts, ← List.append_assoc (ofText offset text).resource, ← original, of_text_original] at read
  have scheme : (cutScheme (ofText offset text).resource).1 = (ofText offset text).scheme := by
    rw [of_text_resource]
    rfl
  have fragment : (find? ['#'] text).map (·, byteLength text) = (ofText offset text).spans.fragment := by
    rw [find_cut_before, spans, of_text_original, ← of_text_front, of_text_fragment, Option.map_map]
    rfl
  simp only [spans?, queryEnd, frontRead, pathEnd, resourceRead, scheme_end_found, scheme, lead_length, host_found,
    behindHost, path_found, query_span_found offset text, fragment, Option.bind_eq_bind, Option.bind_some]
  rfl

end

end LinkTidy.Url
