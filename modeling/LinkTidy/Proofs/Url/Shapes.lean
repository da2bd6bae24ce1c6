import LinkTidy.Proofs.Url.Assembly
import LinkTidy.Proofs.Url.BareSchemes
/-!
Two readings of an address: the form that it was found by, and the parts that it is taken apart into. They agree on the
host of a bare address, and on a scheme that is written in ASCII. The letters of a form are folded, those of a scheme
are not: a long s or a kelvin sign finds an address, but is in no scheme.
-/

set_option autoImplicit false

namespace LinkTidy.Url

-- The first form: a scheme, `://`, and something behind it.
structure SchemeForm (word scheme behind : Text) : Prop where
  whole : word = scheme ++ ("://".toList ++ behind)
  letter : ∃ c name, scheme = c :: name ∧ isLetter c = true ∧ ∀ d ∈ name, isSchemeChar d = true
  some : behind ≠ []

-- The second form: `www.` and something behind it.
structure WwwForm (word behind : Text) : Prop where
  whole : ∃ a b c, word = [a, b, c, '.'] ++ behind ∧ ∀ w ∈ [a, b, c], w = 'w' ∨ w = 'W'
  some : behind ≠ []

-- The third form: a host name, a port if there is one, and a path or a query.
structure HostForm (word host port behind : Text) : Prop where
  whole : word = host ++ port ++ behind
  named : isHostName host = true
  each : ∀ c ∈ host, isHostChar c = true
  ported : IsPort port
  opens : behind.head? = some '/' ∨ behind.head? = some '?'

theorem candidate_form (word : Text) (candidate : Candidate word) :
    (∃ scheme behind, SchemeForm word scheme behind) ∨ (∃ behind, WwwForm word behind) ∨
      ∃ host port behind, HostForm word host port behind := by
  obtain ⟨stem, behind, starts, -, rfl⟩ := candidate
  cases starts with
  | scheme c name _ letter each some =>
      exact .inl ⟨c :: name, behind, List.append_assoc _ _ _, ⟨c, name, rfl, letter, each⟩, some⟩
  | www a b c _ each some => exact .inr (.inl ⟨behind, ⟨a, b, c, rfl, each⟩, some⟩)
  | host name port opening rest named each ported opens =>
      exact .inr (.inr ⟨name, port, opening :: rest, rfl, named, each, ported, by simpa using opens⟩)

-- What a form does not hold: signs of no class of characters.
theorem scheme_form_plain (word scheme behind : Text) (form : SchemeForm word scheme behind) (sign : Char)
    (foreign : isLetter sign = false ∧ isSchemeChar sign = false) : sign ∉ scheme := by
  obtain ⟨c, name, rfl, letter, each⟩ := form.letter
  intro member
  rcases List.mem_cons.mp member with rfl | inside
  · exact absurd letter (Bool.eq_false_iff.mp foreign.1)
  · exact absurd (each sign inside) (Bool.eq_false_iff.mp foreign.2)

theorem host_form_plain (word host port behind : Text) (form : HostForm word host port behind) (sign : Char)
    (foreign : isHostChar sign = false) : sign ∉ host :=
  fun member => absurd (form.each sign member) (Bool.eq_false_iff.mp foreign)

theorem port_plain (port : Text) (ported : IsPort port) (sign : Char) (foreign : sign.isDigit = false)
    (other : sign ≠ ':') : sign ∉ port := by
  rcases ported with rfl | ⟨digits, rfl, -, -, each⟩
  · exact List.not_mem_nil
  · intro member
    rcases List.mem_cons.mp member with same | inside
    · exact other same
    · exact absurd (each sign inside) (Bool.eq_false_iff.mp foreign)

-- A scheme is well formed if its letters are in ASCII.
theorem scheme_form_ascii (word scheme behind : Text) (form : SchemeForm word scheme behind) :
    isScheme scheme = true ↔ '\u017F' ∉ scheme ∧ '\u212A' ∉ scheme := by
  constructor
  · intro scheme
    exact ⟨fun member => absurd (is_scheme_ascii _ scheme _ member) (by decide),
      fun member => absurd (is_scheme_ascii _ scheme _ member) (by decide)⟩
  · rintro ⟨noLongS, noKelvin⟩
    obtain ⟨c, name, rfl, letter, each⟩ := form.letter
    have plain : ∀ d ∈ c :: name, isLetter d = true → d.isAlpha = true := by
      intro d member letter
      have longS : d ≠ '\u017F' := fun same => noLongS (same ▸ member)
      have kelvin : d ≠ '\u212A' := fun same => noKelvin (same ▸ member)
      simpa [isLetter, longS, kelvin] using letter
    refine (is_scheme_iff _).mpr ⟨c, name, rfl, plain c List.mem_cons_self letter, ?_⟩
    intro d member
    have kind := each d member
    simp only [isSchemeChar, isLetterOrDigit, Bool.or_eq_true, decide_eq_true_eq] at kind
    rcases kind with (((letter | digit) | plus) | dot) | hyphen
    · have alpha := plain d (List.mem_cons_of_mem c member) letter
      exact .inl (by rw [Char.isAlphanum, alpha, Bool.true_or])
    · exact .inl (by rw [Char.isAlphanum, digit, Bool.or_true])
    · exact .inr (.inl plus)
    · exact .inr (.inr (.inr dot))
    · exact .inr (.inr (.inl hyphen))

-- Trimming leaves the stem of a form, and some of what stands behind it.
theorem scheme_form_trimmed (word scheme behind : Text) (form : SchemeForm word scheme behind) :
    ∃ more, trimEnd word = scheme ++ ("://".toList ++ more) := by
  obtain ⟨more, trimmed, -⟩ := trim_end_stop (scheme ++ [':', '/']) behind '/' (by decide)
  refine ⟨more, ?_⟩
  rw [form.whole]
  simpa [List.append_assoc] using trimmed

theorem host_form_trimmed (word host port behind : Text) (form : HostForm word host port behind) :
    ∃ more, trimEnd word = host ++ port ++ more ∧ more <+: behind := by
  rcases List.eq_nil_or_concat' (host ++ port) with empty | ⟨front, last, stem⟩
  · have named := form.named
    rw [(List.append_eq_nil_iff.mp empty).1] at named
    cases named
  · have firm := host_stem_firm host port front last form.named form.each form.ported stem
    obtain ⟨more, trimmed, begins⟩ := trim_end_stop front behind last firm
    refine ⟨more, ?_, begins⟩
    rw [form.whole, stem]
    simpa [List.append_assoc] using trimmed

-- The front of a text, before query and fragment.
def frontOf (text : Text) : Text :=
  (cutBefore '?' (cutBefore '#' text).1).1

theorem front_of_append (stem behind : Text) (query : '?' ∉ stem) (fragment : '#' ∉ stem) :
    frontOf (stem ++ behind) = stem ++ frontOf behind := by
  rw [frontOf, cut_before_behind '#' stem behind fragment, cut_before_behind '?' stem _ query, frontOf]

theorem front_of_prefix (text : Text) : frontOf text <+: text := by
  have resource : frontOf text = (ofText 0 text).resource := (of_text_resource 0 text).symm
  have whole := of_text_original 0 text
  rw [Url.original, List.append_assoc] at whole
  exact ⟨_, resource ▸ whole⟩

theorem scheme_form_taken_apart (word scheme behind : Text) (form : SchemeForm word scheme behind) (offset : Nat)
    (more : Text) :
    (isScheme scheme = true → (ofText offset (scheme ++ ("://".toList ++ more))).scheme = some scheme) ∧
      (isScheme scheme = false → (ofText offset (scheme ++ ("://".toList ++ more))).scheme = none ∧
        (ofText offset (scheme ++ ("://".toList ++ more))).host = scheme) := by
  have plain := scheme_form_plain word scheme behind form
  have front : frontOf (scheme ++ ("://".toList ++ more)) = scheme ++ ("://".toList ++ frontOf more) := by
    rw [front_of_append scheme _ (plain '?' (by decide)) (plain '#' (by decide)),
      front_of_append "://".toList more (by decide) (by decide)]
  constructor
  · intro wellFormed
    rw [of_text_steps]
    dsimp only
    rw [← frontOf, front, cut_scheme_written scheme (frontOf more) wellFormed]
  · intro illFormed
    have uncut : cutScheme (scheme ++ ("://".toList ++ frontOf more)) =
        (none, scheme ++ ("://".toList ++ frontOf more)) := by
      rw [cutScheme, cut_at_fresh "://".toList scheme (frontOf more) ':' rfl (plain ':' (by decide))]
      exact if_neg (Bool.eq_false_iff.mp illFormed)
    -- The authority is all before the first slash: the scheme and its colon.
    have authority : (cutBefore '/' (scheme ++ ("://".toList ++ frontOf more))).1 = scheme ++ [':'] := by
      have slash : '/' ∉ scheme ++ [':'] := by simpa using plain '/' (by decide)
      have cut := cut_before_present '/' (scheme ++ [':']) ('/' :: frontOf more) slash
      rw [List.append_assoc] at cut
      exact congrArg Prod.fst cut
    have noUser : '@' ∉ scheme ++ [':'] := by simpa using plain '@' (by decide)
    rw [of_text_steps]
    dsimp only
    rw [← frontOf, front, uncut, authority, cut_after_at_absent _ noUser,
      cut_before_present ':' scheme [] (plain ':' (by decide))]
    exact ⟨rfl, rfl⟩

section

variable {word host port behind : Text} (form : HostForm word host port behind)

include form

theorem host_form_stem_plain (sign : Char) (foreign : isHostChar sign = false ∧ sign.isDigit = false)
    (other : sign ≠ ':') : sign ∉ host ++ port := by
  rw [List.mem_append, not_or]
  exact ⟨host_form_plain word host port behind form sign foreign.1,
    port_plain port form.ported sign foreign.2 other⟩

-- What follows the stem in front of the query is a path, or nothing.
theorem host_form_path (more : Text) (begins : more <+: behind) : ∀ c, (frontOf more).head? = some c → c = '/' := by
  intro c first
  obtain ⟨rest, led⟩ := List.head?_eq_some_iff.mp first
  have opens : behind.head? = some c := by
    obtain ⟨end₁, whole₁⟩ := front_of_prefix more
    obtain ⟨end₂, whole₂⟩ := begins
    rw [← whole₂, ← whole₁, led]
    rfl
  have noQuery : '?' ∉ frontOf more := cut_before_plain '?' _
  rcases form.opens with slash | mark
  · exact Option.some.inj (opens.symm.trans slash)
  · rw [led, Option.some.inj (opens.symm.trans mark)] at noQuery
    exact absurd List.mem_cons_self noQuery

theorem host_form_authority (path : Text) (led : ∀ c, path.head? = some c → c = '/') :
    (cutBefore '/' (host ++ port ++ path)).1 = host ++ port := by
  have none : (cutBefore '/' path).1 = [] := by
    cases path with
    | nil => rfl
    | cons c rest => rw [led c rfl, ← List.nil_append ('/' :: rest), cut_before_present '/' [] rest List.not_mem_nil]
  have plain := host_form_stem_plain form '/' (by decide) (by decide)
  rw [cut_before_behind '/' _ path plain, none, List.append_nil]

-- The colon of a port has a digit behind it, and any other one has a slash in front of it.
theorem host_form_no_scheme (path : Text) (led : ∀ c, path.head? = some c → c = '/') :
    cutScheme (host ++ port ++ path) = (none, host ++ port ++ path) := by
  have authority := host_form_authority form path led
  rw [cutScheme]
  cases cut : cutAt? "://".toList (host ++ port ++ path) with
  | none => rfl
  | some parts =>
      obtain ⟨before, rest⟩ := parts
      refine if_neg fun scheme => ?_
      have whole := cut_at_append _ _ _ _ cut
      have noSlash := scheme_without before scheme '/' (by decide) (by decide)
      have noColon := scheme_without before scheme ':' (by decide) (by decide)
      have hostColon := host_form_plain word host port behind form ':' (by decide)
      have front := cut_before_present '/' (before ++ [':']) ('/' :: rest) (by simpa using noSlash)
      rw [whole] at authority
      simp only [List.append_assoc] at authority front
      have same : before ++ [':'] = host ++ port := by
        rw [← authority]
        exact (congrArg Prod.fst front).symm
      rcases form.ported with rfl | ⟨digits, rfl, least, -, -⟩
      · rw [List.append_nil] at same
        exact hostColon (same ▸ List.mem_append_right before List.mem_cons_self)
      · have cutHost := cut_before_present ':' host digits hostColon
        rw [← same, cut_before_present ':' before [] noColon] at cutHost
        have noDigits : [] = digits := (List.cons.inj (Option.some.inj (Prod.mk.inj cutHost).2)).2
        rw [← noDigits] at least
        cases least

theorem host_form_taken_apart (offset : Nat) (more : Text) (begins : more <+: behind) :
    let url := ofText offset (host ++ port ++ more)
    url.scheme = none ∧ url.userinfo = [] ∧ url.host = host ∧ url.port = port := by
  have front : frontOf (host ++ port ++ more) = host ++ port ++ frontOf more :=
    front_of_append _ more (host_form_stem_plain form '?' (by decide) (by decide))
      (host_form_stem_plain form '#' (by decide) (by decide))
  have path := host_form_path form more begins
  have noUser := host_form_stem_plain form '@' (by decide) (by decide)
  have hostColon := host_form_plain word host port behind form ':' (by decide)
  have ported : cutBefore ':' (host ++ port) = (host, if port = [] then none else some port) := by
    rcases form.ported with rfl | ⟨digits, rfl, -⟩
    · rw [List.append_nil, cut_before_absent ':' host hostColon]
      rfl
    · exact cut_before_present ':' host digits hostColon
  rw [of_text_steps]
  dsimp only
  rw [← frontOf, front, host_form_no_scheme form _ path, host_form_authority form _ path,
    cut_after_at_absent _ noUser, ported]
  refine ⟨rfl, rfl, rfl, ?_⟩
  by_cases none : port = []
  · rw [if_pos none, none]
    rfl
  · rw [if_neg none]
    rfl

end

-- What the form of a match says of the parts of its address. No sign behind the stem gets into scheme or host.
structure FollowsForm (word : Text) (url : Url) : Prop where
  scheme_first : ∀ scheme behind, SchemeForm word scheme behind → PrecedesFirst scheme "://".toList url.original
  scheme_iff : ∀ scheme behind, SchemeForm word scheme behind →
    (url.scheme = some scheme ↔ '\u017F' ∉ scheme ∧ '\u212A' ∉ scheme)
  scheme_folded : ∀ scheme behind, SchemeForm word scheme behind → url.scheme ≠ some scheme →
    url.scheme = none ∧ url.host = scheme
  host : ∀ host port behind, HostForm word host port behind →
    url.scheme = none ∧ url.userinfo = [] ∧ url.host = host ∧ url.port = port

theorem trimmed_follows_form (offset : Nat) (word : Text) : FollowsForm word (ofText offset (trimEnd word)) := by
  have scheme : ∀ scheme behind, SchemeForm word scheme behind →
      ((ofText offset (trimEnd word)).scheme = some scheme ↔ isScheme scheme = true) ∧
        (isScheme scheme = false → (ofText offset (trimEnd word)).scheme = none ∧
          (ofText offset (trimEnd word)).host = scheme) := by
    intro scheme behind form
    obtain ⟨more, trimmed⟩ := scheme_form_trimmed word scheme behind form
    obtain ⟨well, ill⟩ := scheme_form_taken_apart word scheme behind form offset more
    rw [trimmed]
    refine ⟨⟨fun same => ?_, well⟩, ill⟩
    by_contra illFormed
    rw [(ill (Bool.eq_false_iff.mpr illFormed)).1] at same
    cases same
  constructor
  case scheme_first =>
    intro name behind form
    obtain ⟨more, trimmed⟩ := scheme_form_trimmed word name behind form
    have noColon := scheme_form_plain word name behind form ':' (by decide)
    rw [of_text_original, trimmed]
    exact cut_at_first _ _ _ more (cut_at_fresh "://".toList name more ':' rfl noColon)
  case scheme_iff =>
    intro name behind form
    rw [(scheme name behind form).1, scheme_form_ascii word name behind form]
  case scheme_folded =>
    intro name behind form other
    have illFormed := mt (scheme name behind form).1.mpr other
    exact (scheme name behind form).2 (Bool.eq_false_iff.mpr illFormed)
  case host =>
    intro host port behind form
    obtain ⟨more, trimmed, begins⟩ := host_form_trimmed word host port behind form
    rw [trimmed]
    exact host_form_taken_apart form offset more begins

-- Every address comes from a match of one of the forms, and is taken apart as its form says.
theorem parts_follow_form (text : Text) :
    ∃ found, Scan false 0 text found ∧ (∀ other, Scan false 0 text other → other = found) ∧
      ∀ url ∈ detect text, ∃ word, (url.offset, word) ∈ found ∧ url.original <+: word ∧
        ((∃ scheme behind, SchemeForm word scheme behind) ∨ (∃ behind, WwwForm word behind) ∨
          ∃ host port behind, HostForm word host port behind) ∧ FollowsForm word url := by
  obtain ⟨found, scan, -⟩ := detect_scanned text
  refine ⟨found, scan, fun other otherScan => scan_unique otherScan scan, fun url detected => ?_⟩
  obtain ⟨word, member, is, trimmed, -⟩ := detect_match scan url detected
  have follows := trimmed_follows_form url.offset word
  rw [← trimmed, ← is] at follows
  refine ⟨word, member, ?_, candidate_form word (scan_stands scan _ member).1, follows⟩
  rw [trimmed]
  exact (trim_end_longest word).begins

-- A long s begins the scheme of an address that is found, and the address has no scheme: what was found as its scheme
-- has become its host.
theorem address_with_long_s :
    ¬ ∀ text found, Scan false 0 text found → ∀ url ∈ detect text, ∀ word scheme behind,
      (url.offset, word) ∈ found → SchemeForm word scheme behind → url.scheme = some scheme := by
  intro all
  have scan := scan_runs 0 (runs "\u017Fsh://a.com/x".toList).1 (runs "\u017Fsh://a.com/x".toList).2 (are_runs _)
  rw [runs_join] at scan
  have found : candidatesIn 0 (runs "\u017Fsh://a.com/x".toList).1 (runs "\u017Fsh://a.com/x".toList).2 =
      [(0, "\u017Fsh://a.com/x".toList)] := by decide +kernel
  rw [found] at scan
  have detected : detect "\u017Fsh://a.com/x".toList = [ofText 0 "\u017Fsh://a.com/x".toList] := by decide +kernel
  have form : SchemeForm "\u017Fsh://a.com/x".toList "\u017Fsh".toList "a.com/x".toList :=
    ⟨rfl, ⟨_, _, rfl, by decide, List.all_eq_true.mp (by decide)⟩, by decide⟩
  have scheme := all _ _ scan _ (detected ▸ List.mem_cons_self) _ _ _ List.mem_cons_self form
  exact absurd scheme (by decide)

end LinkTidy.Url
