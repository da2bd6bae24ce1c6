import LinkTidy.Proofs.Url.Matches
/-!
Which matches are reported. A match is dropped if its trimmed text ends in `://`. That is what is left of a scheme that
nothing follows, but it is also how an address ends if another scheme is the last part of its query.
-/

set_option autoImplicit false

namespace LinkTidy.Url

open Unicode (isWord)

theorem trimmable_not_word (c : Char) (trimmed : c ∈ trimmable) : isWord c = false := by
  have each : (trimmable.all fun d => !isWord d) = true := by decide +kernel
  simpa using List.all_eq_true.mp each c trimmed

-- Trimming stops at the first character of a candidate at the latest.
theorem trim_candidate (word : Text) (candidate : Candidate word) : trimEnd word ≠ [] := by
  obtain ⟨c, more, rfl, inWord⟩ := candidate_in_word word candidate
  have firm : c ∉ trimmable := fun trimmed => by
    rw [trimmable_not_word c trimmed] at inWord
    cases inWord
  obtain ⟨rest, trimmed, -⟩ := trim_end_stop [] more c firm
  rw [List.nil_append] at trimmed
  rw [trimmed]
  exact List.cons_ne_nil _ _

theorem of_found_none_iff (offset : Nat) (word : Text) (candidate : Candidate word) :
    ofFound? offset word = none ↔ "://".toList <:+ trimEnd word := by
  have written : (trimEnd word).isEmpty = false := List.isEmpty_eq_false_iff.mpr (trim_candidate word candidate)
  rw [ofFound?, written, Bool.false_or, ← List.isSuffixOf_iff_suffix]
  by_cases ending : "://".toList.isSuffixOf (trimEnd word) = true
  · rw [if_pos ending]
    exact ⟨fun _ => ending, fun _ => rfl⟩
  · rw [if_neg ending]
    constructor
    · intro none
      cases none
    · exact fun still => absurd still ending

-- Whether nothing follows the first `://` of a text.
def OnlyScheme (text : Text) : Prop :=
  ∃ scheme, PrecedesFirst scheme "://".toList text ∧ text = scheme ++ "://".toList

-- The sign cannot overlap with a copy of itself.
theorem sign_again (gap : Text) (begins : "://".toList <+: gap ++ "://".toList) :
    gap = [] ∨ "://".toList <+: gap := by
  rcases gap with _ | ⟨a, _ | ⟨b, _ | ⟨c, rest⟩⟩⟩
  · exact .inl rfl
  · simp [List.cons_prefix_cons] at begins
  · simp [List.cons_prefix_cons] at begins
  · right
    simpa [List.cons_prefix_cons] using begins

theorem only_scheme_iff (front : Text) :
    OnlyScheme (front ++ "://".toList) ↔ ¬ "://".toList <:+: front := by
  constructor
  · rintro ⟨scheme, ⟨-, first⟩, whole⟩ ⟨before, behind, rfl⟩
    have same : before ++ "://".toList ++ behind = scheme := (List.append_left_inj "://".toList).mp whole
    have short := first before ⟨behind ++ "://".toList, by simp only [List.append_assoc]⟩
    rw [← same, List.length_append, List.length_append] at short
    have three : "://".toList.length = 3 := rfl
    omega
  · intro absent
    refine ⟨front, ⟨List.prefix_rfl, ?_⟩, rfl⟩
    intro earlier begins
    by_contra shorter
    have inside := (List.prefix_append earlier "://".toList).trans begins
    obtain ⟨gap, rfl⟩ := List.prefix_of_prefix_length_le inside (List.prefix_append front _) (by omega)
    rw [List.append_assoc, List.prefix_append_right_inj] at begins
    rcases sign_again gap begins with rfl | ⟨rest, rfl⟩
    · rw [List.append_nil] at shorter
      exact shorter (Nat.le_refl _)
    · exact absent ⟨earlier, rest, by rw [List.append_assoc]⟩

-- What becomes of a match. It is lost, although it is not only a scheme, if its trimmed text ends in a second `://`.
structure Reported (text : Text) (m : Nat × Text) : Prop where
  trimmed : trimEnd m.2 ≠ []
  reported_iff : (∃ url ∈ detect text, url.offset = m.1) ↔ ¬ "://".toList <:+ trimEnd m.2
  as_trimmed : ∀ url ∈ detect text, url.offset = m.1 → url = ofText m.1 (trimEnd m.2)
  lost_iff : ¬ (∃ url ∈ detect text, url.offset = m.1) ∧ ¬ OnlyScheme (trimEnd m.2) ↔
    ∃ front, trimEnd m.2 = front ++ "://".toList ∧ "://".toList <:+: front

theorem match_at_offset {text : Text} {found : List (Nat × Text)} (scan : Scan false 0 text found) (m n : Nat × Text)
    (here : m ∈ found) (there : n ∈ found) (same : m.1 = n.1) : m = n := by
  have positive : ∀ o ∈ found, byteLength o.2 ≠ 0 := by
    intro o member zero
    obtain ⟨c, more, written, -⟩ := candidate_in_word o.2 (scan_stands scan o member).1
    rw [byte_length_zero o.2 zero] at written
    cases written
  have first := positive m here
  have second := positive n there
  rcases scan_apart scan m n here there with equal | before | behind
  · exact equal
  · omega
  · omega

theorem match_reported {text : Text} {found : List (Nat × Text)} (scan : Scan false 0 text found) (m : Nat × Text)
    (member : m ∈ found) : Reported text m := by
  have candidate := (scan_stands scan m member).1
  have asTrimmed : ∀ url ∈ detect text, url.offset = m.1 →
      url = ofText m.1 (trimEnd m.2) ∧ ofFound? m.1 m.2 = some url := by
    intro url detected place
    rw [detect_matches scan, List.mem_filterMap] at detected
    obtain ⟨n, there, some⟩ := detected
    obtain ⟨is, -⟩ := of_found_some n.1 n.2 url some
    have same : n = m := match_at_offset scan n m there member (by rw [← place, is, of_text_offset])
    rw [same] at is some
    exact ⟨is, some⟩
  have reported : (∃ url ∈ detect text, url.offset = m.1) ↔ ¬ "://".toList <:+ trimEnd m.2 := by
    rw [← of_found_none_iff m.1 m.2 candidate]
    constructor
    · rintro ⟨url, detected, place⟩ none
      rw [(asTrimmed url detected place).2] at none
      cases none
    · intro some
      obtain ⟨url, kept⟩ := Option.ne_none_iff_exists'.mp some
      obtain ⟨is, -⟩ := of_found_some m.1 m.2 url kept
      refine ⟨url, ?_, by rw [is, of_text_offset]⟩
      rw [detect_matches scan]
      exact List.mem_filterMap.mpr ⟨m, member, kept⟩
  constructor
  case trimmed => exact trim_candidate m.2 candidate
  case as_trimmed => exact fun url detected place => (asTrimmed url detected place).1
  case reported_iff => exact reported
  case lost_iff =>
    rw [reported, Decidable.not_not]
    constructor
    · rintro ⟨⟨front, whole⟩, more⟩
      rw [← whole, only_scheme_iff, Decidable.not_not] at more
      exact ⟨front, whole.symm, more⟩
    · rintro ⟨front, whole, inside⟩
      rw [whole, only_scheme_iff, Decidable.not_not]
      exact ⟨List.suffix_append front _, inside⟩

theorem matches_reported (text : Text) :
    ∃ found, Scan false 0 text found ∧ (∀ other, Scan false 0 text other → other = found) ∧
      ∀ m ∈ found, Reported text m := by
  obtain ⟨found, scan, -⟩ := detect_scanned text
  exact ⟨found, scan, fun other otherScan => scan_unique otherScan scan, fun m member => match_reported scan m member⟩

-- An address is lost because its query ends in the scheme of another one.
theorem address_lost_by_its_query :
    ¬ ∀ text found, Scan false 0 text found → ∀ m ∈ found, OnlyScheme (trimEnd m.2) ∨
      ∃ url ∈ detect text, url.offset = m.1 := by
  intro all
  have scan := scan_runs 0 (runs "https://a.com/?u=http://".toList).1 (runs "https://a.com/?u=http://".toList).2
    (are_runs _)
  rw [runs_join] at scan
  have found : candidatesIn 0 (runs "https://a.com/?u=http://".toList).1 (runs "https://a.com/?u=http://".toList).2 =
      [(0, "https://a.com/?u=http://".toList)] := by decide +kernel
  rw [found] at scan
  have trimmed : trimEnd "https://a.com/?u=http://".toList = "https://a.com/?u=http".toList ++ "://".toList := by decide
  rcases all _ _ scan _ List.mem_cons_self with only | ⟨url, detected, -⟩
  · dsimp only at only
    rw [trimmed, only_scheme_iff] at only
    exact only ⟨"https".toList, "a.com/?u=http".toList, by decide⟩
  · have nothing : detect "https://a.com/?u=http://".toList = [] := by decide +kernel
    rw [nothing] at detected
    cases detected

end LinkTidy.Url
