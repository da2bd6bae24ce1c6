import LinkTidy.Proofs.Url.Spans
/-!
Addresses that are written from their parts. Taking one apart finds the parts that it was written from, also where they
hold the signs of other parts or are empty.
-/

set_option autoImplicit false

namespace LinkTidy.Url

-- What an address is written from: each part without the sign that sets it off.
structure Parts where
  scheme : Option Text
  userinfo : Option Text
  host : Text
  port : Option Text
  path : Text
  query : Option Text
  fragment : Option Text

namespace Parts

variable (parts : Parts)

def hostAndPort : Text :=
  parts.host ++ (parts.port.map (':' :: ·)).getD []

def authority : Text :=
  (parts.userinfo.map (· ++ ['@'])).getD [] ++ parts.hostAndPort

-- The text in front of query and fragment.
def front : Text :=
  (parts.scheme.map (· ++ "://".toList)).getD [] ++ (parts.authority ++ parts.path)

def text : Text :=
  parts.front ++ (parts.query.map ('?' :: ·)).getD [] ++ (parts.fragment.map ('#' :: ·)).getD []

-- The address with these parts, each with its sign.
def url (offset : Nat) : Url where
  offset := offset
  scheme := parts.scheme
  userinfo := (parts.userinfo.map (· ++ ['@'])).getD []
  host := parts.host
  port := (parts.port.map (':' :: ·)).getD []
  path := parts.path
  query := parts.query.map ('?' :: ·)
  fragment := parts.fragment.map ('#' :: ·)

end Parts

-- Parts of which none holds a sign that would end it or begin another one. Without a scheme nothing in front of the
-- query may look like the end of one.
structure Address extends Parts where
  scheme_written : ∀ name, scheme = some name → ∃ c rest, name = c :: rest ∧ c.isAlpha = true ∧
    ∀ d ∈ rest, d.isAlphanum = true ∨ d = '+' ∨ d = '-' ∨ d = '.'
  scheme_absent : scheme = none → ¬ "://".toList <:+: toParts.front
  userinfo_plain : ∀ written, userinfo = some written → '/' ∉ written ∧ '?' ∉ written ∧ '#' ∉ written
  host_plain : '/' ∉ host ∧ '?' ∉ host ∧ '#' ∉ host ∧ '@' ∉ host ∧ ':' ∉ host
  port_plain : ∀ written, port = some written → '/' ∉ written ∧ '?' ∉ written ∧ '#' ∉ written ∧ '@' ∉ written
  path_plain : (path = [] ∨ path.head? = some '/') ∧ '?' ∉ path ∧ '#' ∉ path
  query_plain : ∀ written, query = some written → '#' ∉ written

theorem scheme_without (name : Text) (scheme : isScheme name = true) (sign : Char) (foreign : sign.isAlphanum = false)
    (other : sign ≠ '+' ∧ sign ≠ '-' ∧ sign ≠ '.') : sign ∉ name := by
  obtain ⟨c, rest, rfl, letter, each⟩ := (is_scheme_iff name).mp scheme
  intro member
  rcases List.mem_cons.mp member with rfl | later
  · rw [Char.isAlphanum, letter] at foreign
    cases foreign
  · rcases each sign later with alphanum | plus | hyphen | dot
    · rw [alphanum] at foreign
      cases foreign
    · exact other.1 plus
    · exact other.2.1 hyphen
    · exact other.2.2 dot

theorem cut_scheme_written (name rest : Text) (scheme : isScheme name = true) :
    cutScheme (name ++ ("://".toList ++ rest)) = (some name, rest) := by
  have noColon := scheme_without name scheme ':' (by decide) (by decide)
  have cut := cut_at_fresh "://".toList name rest ':' rfl noColon
  rw [cutScheme, cut]
  exact if_pos scheme

theorem cut_scheme_absent (text : Text) (absent : ¬ "://".toList <:+: text) : cutScheme text = (none, text) := by
  rw [cutScheme, cut_at_absent _ text absent]

namespace Address

variable (address : Address)

theorem is_scheme (name : Text) (spelled : address.scheme = some name) : isScheme name = true :=
  (is_scheme_iff name).mpr (address.scheme_written name spelled)

theorem scheme_cut : cutScheme address.front = (address.scheme, address.authority ++ address.path) := by
  cases spelled : address.scheme with
  | none =>
      have whole : address.front = address.authority ++ address.path := by rw [Parts.front, spelled]; rfl
      rw [cut_scheme_absent _ (address.scheme_absent spelled), whole]
  | some name =>
      have whole : address.front = name ++ ("://".toList ++ (address.authority ++ address.path)) := by
        rw [Parts.front, spelled]
        exact List.append_assoc _ _ _
      rw [whole, cut_scheme_written name _ (address.is_scheme name spelled)]

theorem host_and_port_plain :
    '/' ∉ address.hostAndPort ∧ '?' ∉ address.hostAndPort ∧ '#' ∉ address.hostAndPort ∧ '@' ∉ address.hostAndPort := by
  have host := address.host_plain
  rw [Parts.hostAndPort]
  cases written : address.port with
  | none => simp [host]
  | some port => simp [host, address.port_plain port written]

theorem authority_plain : '/' ∉ address.authority ∧ '?' ∉ address.authority ∧ '#' ∉ address.authority := by
  have behind := address.host_and_port_plain
  rw [Parts.authority]
  cases written : address.userinfo with
  | none => simp [behind]
  | some userinfo => simp [behind, address.userinfo_plain userinfo written]

theorem path_cut : (cutBefore '/' (address.authority ++ address.path)).1 = address.authority ∧
    (cutBefore '/' (address.authority ++ address.path)).2.getD [] = address.path := by
  have plain := address.authority_plain.1
  rcases address.path_plain.1 with empty | led
  · rw [empty, List.append_nil, cut_before_absent '/' _ plain]
    exact ⟨rfl, rfl⟩
  · obtain ⟨rest, path⟩ := List.head?_eq_some_iff.mp led
    rw [path, cut_before_present '/' _ rest plain]
    exact ⟨rfl, rfl⟩

-- The host has no `@`, so the last one ends the userinfo, whatever the userinfo holds.
theorem userinfo_cut :
    cutAfterAt address.authority = ((address.userinfo.map (· ++ ['@'])).getD [], address.hostAndPort) := by
  have plain := address.host_and_port_plain.2.2.2
  rw [Parts.authority]
  cases address.userinfo with
  | none => exact cut_after_at_absent _ plain
  | some userinfo =>
      have cut := cut_after_at_present userinfo address.hostAndPort plain
      rwa [← List.singleton_append, ← List.append_assoc] at cut

theorem port_cut : cutBefore ':' address.hostAndPort = (address.host, address.port.map (':' :: ·)) := by
  have plain := address.host_plain.2.2.2.2
  rw [Parts.hostAndPort]
  cases address.port with
  | none =>
      rw [Option.map_none, Option.getD_none, List.append_nil]
      exact cut_before_absent ':' _ plain
  | some port => exact cut_before_present ':' _ port plain

theorem front_plain : '?' ∉ address.front ∧ '#' ∉ address.front := by
  have authority := address.authority_plain
  have path := address.path_plain
  rw [Parts.front]
  cases spelled : address.scheme with
  | none => simp [authority, path]
  | some name =>
      have foreign := scheme_without name (address.is_scheme name spelled)
      simp [authority, path, foreign '?' (by decide) (by decide), foreign '#' (by decide) (by decide)]

theorem spelled : Spelled address.front (address.query.map ('?' :: ·)) (address.fragment.map ('#' :: ·)) := by
  constructor
  case resource_plain => exact address.front_plain
  case query_led =>
    intro written led
    obtain ⟨query, given, rfl⟩ := Option.map_eq_some_iff.mp led
    exact ⟨query, rfl, address.query_plain query given⟩
  case fragment_led =>
    intro written led
    obtain ⟨fragment, -, rfl⟩ := Option.map_eq_some_iff.mp led
    exact ⟨fragment, rfl⟩

end Address

-- An address is taken apart into the parts that it was written from, and these are found at their places.
theorem address_taken_apart (address : Address) (offset : Nat) :
    ofText offset address.text = address.url offset ∧ spans? address.text = some (address.url offset).spans := by
  obtain ⟨resource, query, fragment⟩ := of_text_parts offset address.front _ _ address.spelled
  rw [of_text_resource] at resource
  rw [of_text_query] at query
  rw [of_text_fragment] at fragment
  have whole : ofText offset address.text = address.url offset := by
    rw [Parts.text, of_text_steps, resource, query, fragment]
    dsimp only
    rw [address.scheme_cut, address.path_cut.1, address.path_cut.2, address.userinfo_cut, address.port_cut]
    rfl
  exact ⟨whole, by rw [spans_found offset, whole]⟩

-- Two `@` and a colon in front of the host, a second colon behind it, an empty query with signs of all kinds behind it;
-- and an address without a scheme whose query holds one.
theorem address_of_stray_signs :
    let url := ofText 7 "s+1://:a@b:@h.net:80:x/p@:/://?#/?://@#".toList
    let bare := ofText 0 "@h:/:/?u=https://o@c/?#".toList
    url.scheme = some "s+1".toList ∧ url.host = "h.net".toList ∧ url.path = "/p@:/://".toList ∧
      url.query = some ['?'] ∧ url.fragment = some "#/?://@#".toList ∧
      bare.scheme = none ∧ bare.host = ['h'] ∧ bare.path = "/:/".toList ∧
      bare.query = some "?u=https://o@c/?".toList ∧ bare.fragment = some ['#'] := by
  let address : Address := {
    scheme := some "s+1".toList
    userinfo := some ":a@b:".toList
    host := "h.net".toList
    port := some "80:x".toList
    path := "/p@:/://".toList
    query := some []
    fragment := some "/?://@#".toList
    scheme_written := by rintro _ ⟨⟩; exact (is_scheme_iff _).mp (by decide)
    scheme_absent := nofun
    userinfo_plain := by rintro _ ⟨⟩; decide
    host_plain := by decide
    port_plain := by rintro _ ⟨⟩; decide
    path_plain := by decide
    query_plain := by rintro _ ⟨⟩; decide }
  let other : Address := {
    scheme := none
    userinfo := some []
    host := ['h']
    port := some []
    path := "/:/".toList
    query := some "u=https://o@c/?".toList
    fragment := some []
    scheme_written := nofun
    scheme_absent := fun _ => by decide
    userinfo_plain := by rintro _ ⟨⟩; decide
    host_plain := by decide
    port_plain := by rintro _ ⟨⟩; decide
    path_plain := by decide
    query_plain := by rintro _ ⟨⟩; decide }
  have apart : ofText 7 "s+1://:a@b:@h.net:80:x/p@:/://?#/?://@#".toList = address.url 7 :=
    (address_taken_apart address 7).1
  have bareApart : ofText 0 "@h:/:/?u=https://o@c/?#".toList = other.url 0 := (address_taken_apart other 0).1
  rw [apart, bareApart]
  exact ⟨rfl, rfl, rfl, rfl, rfl, rfl, rfl, rfl, rfl, rfl⟩

end LinkTidy.Url
