import Mathlib.Data.List.Basic
import Mathlib.Data.List.TakeWhile
import LinkTidy.Proofs.Text.Fields
import LinkTidy.Proofs.Url.Detection
/-!
How an address begins: with the stem that one of the three forms asks for, and with something behind it. What stands
behind the stem can change, and the address begins there still.
-/

set_option autoImplicit false

namespace LinkTidy.Url

-- Nothing, or a colon and one to five digits.
def IsPort (port : Text) : Prop :=
  port = [] ∨ ∃ digits, port = ':' :: digits ∧ 1 ≤ digits.length ∧ digits.length ≤ 5 ∧ ∀ d ∈ digits, d.isDigit = true

-- A stem, and what may stand behind it.
inductive Starts : Text → Text → Prop where
  | scheme (c : Char) (name behind : Text) (letter : isLetter c = true) (each : ∀ d ∈ name, isSchemeChar d = true)
      (some : behind ≠ []) : Starts (c :: name ++ "://".toList) behind
  | www (a b c : Char) (behind : Text) (each : ∀ w ∈ [a, b, c], w = 'w' ∨ w = 'W') (some : behind ≠ []) :
      Starts [a, b, c, '.'] behind
  | host (name port : Text) (opening : Char) (behind : Text) (named : isHostName name = true)
      (each : ∀ c ∈ name, isHostChar c = true) (ported : IsPort port) (opens : opening = '/' ∨ opening = '?') :
      Starts (name ++ port) (opening :: behind)

theorem starts_with_scheme_iff (text : Text) :
    startsWithScheme text = true ↔ ∃ c name behind, isLetter c = true ∧ (∀ d ∈ name, isSchemeChar d = true) ∧
      behind ≠ [] ∧ text = c :: name ++ "://".toList ++ behind := by
  constructor
  · intro starts
    cases text with
    | nil => cases starts
    | cons c rest =>
        rw [startsWithScheme, Bool.and_eq_true] at starts
        obtain ⟨letter, more⟩ := starts
        split at more
        · rename_i behind found
          refine ⟨c, rest.takeWhile isSchemeChar, behind, letter, fun d member => List.mem_takeWhile_imp member, ?_, ?_⟩
          · rintro rfl
            cases more
          · rw [List.append_assoc, List.isPrefixOf?_eq_some_iff_append_eq.mp found, List.cons_append,
              List.takeWhile_append_dropWhile]
        · cases more
  · rintro ⟨c, name, behind, letter, each, written, rfl⟩
    have dropped : (name ++ ("://".toList ++ behind)).dropWhile isSchemeChar = "://".toList ++ behind :=
      (take_while_stop isSchemeChar name ("//".toList ++ behind) ':' each (by decide)).2
    have found : "://".toList.isPrefixOf? ("://".toList ++ behind) = some behind :=
      List.isPrefixOf?_eq_some_iff_append_eq.mpr rfl
    rw [List.append_assoc, List.cons_append, startsWithScheme, letter, Bool.true_and, dropped, found]
    simpa using written

theorem starts_with_www_iff (text : Text) :
    startsWithWww text = true ↔ ∃ a b c behind, (∀ w ∈ [a, b, c], w = 'w' ∨ w = 'W') ∧ behind ≠ [] ∧
      text = [a, b, c, '.'] ++ behind := by
  constructor
  · intro starts
    unfold startsWithWww at starts
    split at starts
    · rename_i a b c d behind
      refine ⟨a, b, c, d :: behind, ?_, List.cons_ne_nil _ _, rfl⟩
      simpa using starts
    · cases starts
  · rintro ⟨a, b, c, behind, each, written, rfl⟩
    cases behind with
    | nil => exact absurd rfl written
    | cons d rest => simpa [startsWithWww] using each

theorem opens_path_iff (text : Text) :
    opensPath text = true ↔ ∃ port opening behind, IsPort port ∧ (opening = '/' ∨ opening = '?') ∧
      text = port ++ opening :: behind := by
  constructor
  · intro opens
    unfold opensPath at opens
    split at opens
    · exact ⟨[], '/', _, .inl rfl, .inl rfl, rfl⟩
    · exact ⟨[], '?', _, .inl rfl, .inr rfl, rfl⟩
    · rename_i rest
      simp only [Bool.and_eq_true, decide_eq_true_eq] at opens
      obtain ⟨⟨least, most⟩, opens⟩ := opens
      have whole := List.takeWhile_append_dropWhile (p := Char.isDigit) (l := rest)
      have ported : IsPort (':' :: rest.takeWhile Char.isDigit) :=
        .inr ⟨_, rfl, least, most, fun d member => List.mem_takeWhile_imp member⟩
      split at opens
      · rename_i behind dropped
        exact ⟨_, '/', behind, ported, .inl rfl, by rw [List.cons_append, ← dropped, whole]⟩
      · rename_i behind dropped
        exact ⟨_, '?', behind, ported, .inr rfl, by rw [List.cons_append, ← dropped, whole]⟩
      · cases opens
    · cases opens
  · rintro ⟨port, opening, behind, rfl | ⟨digits, rfl, least, most, each⟩, opens, rfl⟩
    · rcases opens with rfl | rfl <;> rfl
    · have passed : (digits ++ opening :: behind).takeWhile Char.isDigit = digits ∧
          (digits ++ opening :: behind).dropWhile Char.isDigit = opening :: behind := by
        apply take_while_stop Char.isDigit digits behind opening each
        rcases opens with rfl | rfl <;> decide
      rw [List.cons_append, opensPath, passed.1, passed.2]
      rcases opens with rfl | rfl <;> simp [least, most]

theorem starts_with_host_iff (text : Text) :
    startsWithHost text = true ↔ ∃ name port opening behind, isHostName name = true ∧
      (∀ c ∈ name, isHostChar c = true) ∧ IsPort port ∧ (opening = '/' ∨ opening = '?') ∧
      text = name ++ port ++ opening :: behind := by
  constructor
  · intro starts
    rw [startsWithHost, Bool.and_eq_true, opens_path_iff] at starts
    obtain ⟨⟨port, opening, behind, ported, opens, dropped⟩, named⟩ := starts
    refine ⟨text.takeWhile isHostChar, port, opening, behind, named, fun c member => List.mem_takeWhile_imp member,
      ported, opens, ?_⟩
    rw [List.append_assoc, ← dropped, List.takeWhile_append_dropWhile]
  · rintro ⟨name, port, opening, behind, named, each, ported, opens, rfl⟩
    have passed : (name ++ port ++ opening :: behind).takeWhile isHostChar = name ∧
        (name ++ port ++ opening :: behind).dropWhile isHostChar = port ++ opening :: behind := by
      rcases ported with rfl | ⟨digits, rfl, -⟩
      · rw [List.append_nil]
        apply take_while_stop isHostChar name behind opening each
        rcases opens with rfl | rfl <;> decide
      · rw [List.append_assoc, List.cons_append]
        exact take_while_stop isHostChar name _ ':' each (by decide)
    rw [startsWithHost, Bool.and_eq_true, opens_path_iff, passed.1, passed.2]
    exact ⟨⟨port, opening, behind, ported, opens, rfl⟩, named⟩

theorem starts_address_iff (text : Text) :
    startsAddress text = true ↔ ∃ stem behind, Starts stem behind ∧ text = stem ++ behind := by
  rw [startsAddress, Bool.or_eq_true, Bool.or_eq_true, starts_with_scheme_iff, starts_with_www_iff,
    starts_with_host_iff]
  constructor
  · rintro ((⟨c, name, behind, letter, each, written, rfl⟩ | ⟨a, b, c, behind, each, written, rfl⟩) |
      ⟨name, port, opening, behind, named, each, ported, opens, rfl⟩)
    · exact ⟨_, behind, .scheme c name behind letter each written, rfl⟩
    · exact ⟨_, behind, .www a b c behind each written, rfl⟩
    · exact ⟨_, opening :: behind, .host name port opening behind named each ported opens, rfl⟩
  · rintro ⟨stem, behind, starts, rfl⟩
    cases starts with
    | scheme c name behind letter each written => exact .inl (.inl ⟨c, name, behind, letter, each, written, rfl⟩)
    | www a b c behind each written => exact .inl (.inr ⟨a, b, c, behind, each, written, rfl⟩)
    | host name port opening behind named each ported opens =>
        exact .inr ⟨name, port, opening, behind, named, each, ported, opens, rfl⟩

theorem host_name_dotted (name : Text) (named : isHostName name = true) : '.' ∈ name := by
  by_contra absent
  rw [isHostName, fields_plain '.' name absent] at named
  cases named

theorem host_name_undotted_end (front : Text) : isHostName (front ++ ['.']) = false := by
  rw [isHostName, fields_ending_sep, List.getLast?_concat]
  simp

theorem starts_marked (stem behind : Text) (starts : Starts stem behind) : '.' ∈ stem ∨ '/' ∈ stem := by
  cases starts with
  | scheme c name _ _ _ _ => exact .inr (List.mem_append_right _ (by decide))
  | www a b c _ _ _ => exact .inl (by simp)
  | host name port opening behind named _ _ _ => exact .inl (List.mem_append_left _ (host_name_dotted name named))

-- Signs of no class of characters that stems are made of.
def Foreign (sign : Char) : Prop :=
  isLetter sign = false ∧ isSchemeChar sign = false ∧ isHostChar sign = false ∧ sign.isDigit = false ∧
    sign ∉ "://.wW".toList

instance (sign : Char) : Decidable (Foreign sign) :=
  inferInstanceAs (Decidable (_ ∧ _ ∧ _ ∧ _ ∧ _))

theorem starts_foreign (stem behind : Text) (starts : Starts stem behind) (sign : Char) (foreign : Foreign sign) :
    sign ∉ stem := by
  obtain ⟨noLetter, noScheme, noHost, noDigit, noMark⟩ := foreign
  intro member
  cases starts with
  | scheme c name _ letter each _ =>
      rcases List.mem_append.mp member with front | mark
      · rcases List.mem_cons.mp front with rfl | inside
        · exact absurd letter (Bool.eq_false_iff.mp noLetter)
        · exact absurd (each sign inside) (Bool.eq_false_iff.mp noScheme)
      · exact noMark (List.mem_append_left ".wW".toList mark)
  | www a b c _ each _ =>
      have sides : sign ∈ [a, b, c] ∨ sign = '.' := by simpa [or_assoc] using member
      rcases sides with inside | rfl
      · rcases each sign inside with rfl | rfl
        · exact noMark (by decide)
        · exact noMark (by decide)
      · exact noMark (by decide)
  | host name port opening _ _ each ported _ =>
      rcases List.mem_append.mp member with inside | inside
      · exact absurd (each sign inside) (Bool.eq_false_iff.mp noHost)
      · rcases ported with rfl | ⟨digits, rfl, -, -, digit⟩
        · cases inside
        · rcases List.mem_cons.mp inside with rfl | deeper
          · exact noMark (by decide)
          · exact absurd (digit sign deeper) (Bool.eq_false_iff.mp noDigit)

theorem starts_plain (stem behind : Text) (starts : Starts stem behind) (sign : Char) (ending : sign = '?' ∨ sign = '#') :
    sign ∉ stem := by
  apply starts_foreign stem behind starts
  rcases ending with rfl | rfl <;> decide

theorem trimmable_host_char (c : Char) (trimmed : c ∈ trimmable) (host : isHostChar c = true) : c = '.' := by
  have each : (trimmable.all fun d => !isHostChar d || d = '.') = true := by decide
  simpa [host] using List.all_eq_true.mp each c trimmed

theorem trimmable_no_digit (c : Char) (trimmed : c ∈ trimmable) : c.isDigit = false := by
  have each : (trimmable.all fun d => !d.isDigit) = true := by decide
  simpa using List.all_eq_true.mp each c trimmed

-- A port ends with a digit; a host name could end with a dot only, but its last label is not empty.
theorem host_stem_firm (name port front : Text) (last : Char) (named : isHostName name = true)
    (each : ∀ c ∈ name, isHostChar c = true) (ported : IsPort port) (whole : name ++ port = front ++ [last]) :
    last ∉ trimmable := by
  intro trimmed
  rcases ported with rfl | ⟨digits, rfl, least, -, digit⟩
  · rw [List.append_nil] at whole
    have dot : last = '.' := trimmable_host_char last trimmed (each last (by rw [whole]; simp))
    rw [whole, dot, host_name_undotted_end] at named
    cases named
  · have ending : (name ++ ':' :: digits).getLast? = some last := by rw [whole, List.getLast?_concat]
    have inside : last ∈ digits := by
      cases digits with
      | nil => cases least
      | cons d rest =>
          have deeper : (d :: rest).getLast? = some last := by
            rw [← ending, List.getLast?_append, List.getLast?_cons_cons, List.getLast?_cons]
            rfl
          exact List.mem_of_getLast? deeper
    have isDigit := digit last inside
    rw [trimmable_no_digit last trimmed] at isDigit
    cases isDigit

-- Of the three stems only the second one ends with a character that trimming can drop.
theorem starts_firm (stem behind front tail : Text) (last : Char) (starts : Starts stem behind)
    (whole : stem = front ++ tail ++ [last]) (trimmed : last ∈ trimmable) : '.' ∉ front ∧ '/' ∉ front := by
  cases starts with
  | scheme c name _ _ _ _ =>
      have slash : some '/' = some last := by
        have ending := congrArg List.getLast? whole
        rw [List.getLast?_concat, List.getLast?_append] at ending
        exact ending
      rw [← Option.some.inj slash] at trimmed
      exact absurd trimmed (by decide)
  | www a b c _ each _ =>
      have front_sides : front ++ tail = [a, b, c] := by
        have short : front ++ tail = ([a, b, c, '.'] : Text).dropLast := by rw [whole, List.dropLast_concat]
        exact short
      have sides : ∀ d ∈ front, d = 'w' ∨ d = 'W' := by
        intro d member
        exact each d (front_sides ▸ List.mem_append_left tail member)
      constructor
      · intro member
        rcases sides _ member with same | same <;> exact absurd same (by decide)
      · intro member
        rcases sides _ member with same | same <;> exact absurd same (by decide)
  | host name port opening _ named each ported _ =>
      exact absurd trimmed (host_stem_firm name port (front ++ tail) last named each ported whole)

theorem starts_before_query (stem front behind query : Text) (starts : Starts stem (front ++ behind)) :
    Starts stem (front ++ '?' :: query) := by
  generalize whole : front ++ behind = more at starts
  cases starts with
  | scheme c name _ letter each _ => exact .scheme c name _ letter each (by simp)
  | www a b c _ each _ => exact .www a b c _ each (by simp)
  | host name port opening _ named each ported opens =>
      cases front with
      | nil => exact .host name port '?' query named each ported (.inr rfl)
      | cons d rest =>
          have same : d = opening := (List.cons.inj whole).1
          exact .host name port d _ named each ported (same ▸ opens)

-- Texts that cannot complete the stem of an address whose query they replace.
def Blunt (behind : Text) : Prop :=
  (∃ rest, behind = '?' :: rest) ∨ (∃ rest, behind = '#' :: rest) ∨ ∀ c ∈ behind, c ∈ trimmable

theorem starts_address_before_query (front behind query : Text) (blunt : Blunt behind)
    (marked : '.' ∈ front ∨ '/' ∈ front) (starts : startsAddress (front ++ behind) = true) :
    startsAddress (front ++ '?' :: query) = true := by
  rw [starts_address_iff] at starts ⊢
  obtain ⟨stem, more, starts, whole⟩ := starts
  rcases List.append_eq_append_iff.mp whole with ⟨overlap, stemWhole, behindWhole⟩ | ⟨middle, rfl, rfl⟩
  · rcases List.eq_nil_or_concat' overlap with rfl | ⟨tail, last, rfl⟩
    · rw [List.append_nil] at stemWhole
      rw [← List.nil_append more] at starts
      exact ⟨stem, '?' :: query, starts_before_query stem [] more query starts, by rw [stemWhole]⟩
    · -- The stem would reach into what stands behind, so it would end there.
      exfalso
      have inside : ∀ c ∈ tail ++ [last], c ∈ stem ∧ c ∈ behind := by
        intro c member
        rw [stemWhole, behindWhole]
        exact ⟨List.mem_append_right _ member, List.mem_append_left _ member⟩
      have leads : ∀ sign rest, behind = sign :: rest → sign ∈ stem := by
        intro sign rest led
        rw [led] at behindWhole
        cases tail with
        | nil => exact (inside sign (by simp [(List.cons.inj behindWhole).1])).1
        | cons d others => exact (inside sign (by simp [(List.cons.inj behindWhole).1])).1
      rcases blunt with ⟨rest, led⟩ | ⟨rest, led⟩ | trimmed
      · exact starts_plain stem more starts '?' (.inl rfl) (leads '?' rest led)
      · exact starts_plain stem more starts '#' (.inr rfl) (leads '#' rest led)
      · have firm := starts_firm stem more front tail last starts (by rw [stemWhole, List.append_assoc])
          (trimmed last (inside last (by simp)).2)
        rcases marked with dot | slash
        · exact firm.1 dot
        · exact firm.2 slash
  · exact ⟨stem, middle ++ '?' :: query, starts_before_query stem middle behind query starts,
      by rw [List.append_assoc]⟩

theorem resource_marked (resource query : Text) (plain : '?' ∉ resource)
    (starts : startsAddress (resource ++ '?' :: query) = true) : '.' ∈ resource ∨ '/' ∈ resource := by
  obtain ⟨stem, more, begun, whole⟩ := (starts_address_iff _).mp starts
  have within : ∃ middle, resource = stem ++ middle := by
    rcases List.append_eq_append_iff.mp whole with ⟨overlap, stemWhole, queryWhole⟩ | ⟨middle, resourceWhole, -⟩
    · cases overlap with
      | nil => exact ⟨[], by rw [stemWhole, List.append_nil, List.append_nil]⟩
      | cons c rest =>
          have same : '?' = c := (List.cons.inj queryWhole).1
          exact absurd (stemWhole ▸ List.mem_append_right resource (same ▸ List.mem_cons_self))
            (starts_plain stem more begun '?' (.inl rfl))
    · exact ⟨middle, resourceWhole⟩
  obtain ⟨middle, rfl⟩ := within
  rcases starts_marked stem more begun with dot | slash
  · exact .inl (List.mem_append_left middle dot)
  · exact .inr (List.mem_append_left middle slash)

end LinkTidy.Url
