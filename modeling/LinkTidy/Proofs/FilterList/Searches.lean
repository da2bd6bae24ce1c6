import LinkTidy.Proofs.FilterList.Forms
import LinkTidy.Proofs.FilterList.Options
/-!
The clauses of a line as two expressions find them. The parameters are what the first of them finds first, and the domain
is one of the first two things that the other one finds.
-/

set_option autoImplicit false

namespace LinkTidy.FilterList

-- An option of that name: `removeparam=([^,\n]+)` for the parameters.
def optionForm (name : Text) : Form :=
  .sequence (.literal name) (.group 1 (.run [',', '\n']))

-- The end of an anchor: `\^?([^\^\$]+)`.
def hatForm : Form :=
  .sequence (.optional (.literal ['^'])) (.group 2 (.run ['^', '$']))

-- The anchor of a line: `^(?:\|\|)?\^?([^\^\$]+)`.
def anchorForm : Form :=
  .sequence .textStart (.sequence (.optional (.literal "||".toList)) hatForm)

-- A domain: `domain=([^,\n]+)|^(?:\|\|)?\^?([^\^\$]+)`.
def domainForm : Form :=
  .choice (optionForm domainName) anchorForm

-- The domain that matches name: the only one names it as an option or as an anchor, and of several the second one as
-- an option.
def domainRead : List Match → Text
  | [] => []
  | [only] => ((only.groups.lookup 1).or (only.groups.lookup 2)).getD []
  | _ :: second :: _ => (second.groups.lookup 1).getD []

-- The clauses by what is found: the parameters by the first option, the domain by all that is found for it.
def FoundByForms (line : Text) (clauses : Option (Text × Text)) : Prop :=
  ∃ params domains, Finds (optionForm paramName) true line params ∧ Finds domainForm true line domains ∧
    clauses = (params.head?.bind fun first => first.groups.lookup 1).map fun param => (domainRead domains, param)

-- What a match has put into groups, and what is behind it.
def Match.outcome (matched : Match) : List (Nat × Text) × Text :=
  (matched.groups, matched.behind)

-- What a clause and the text behind it are as an outcome.
def outcomeOf (number : Nat) (found : Text × Text) : List (Nat × Text) × Text :=
  ([(number, found.1)], found.2)

theorem group_run_head (number : Nat) (excluded text : Text) (test : Char → Bool)
    (same : (fun c => !excluded.contains c) = test) (atStart : Bool) :
    ((Form.group number (.run excluded)).allMatches atStart text).head? =
      if (text.takeWhile test).isEmpty then none
      else some ⟨text.takeWhile test, [(number, text.takeWhile test)], text.dropWhile test⟩ := by
  rw [Form.allMatches, Form.allMatches, same, List.head?_map, List.head?_map, fronts_head]
  split <;> rfl

theorem literal_sequence (word : Text) (body : Form) (atStart : Bool) (text : Text) :
    (Form.sequence (.literal word) body).allMatches atStart text =
      (word.isPrefixOf? text).toList.flatMap fun behind =>
        (body.allMatches (atStart && word.isEmpty) behind).map fun second =>
          ⟨word ++ second.read, second.groups, second.behind⟩ := by
  rw [Form.allMatches, Form.allMatches, List.flatMap_map]
  rfl

theorem optional_sequence (part body : Form) (atStart : Bool) (text : Text) :
    (Form.sequence (.optional part) body).allMatches atStart text =
      (Form.sequence part body).allMatches atStart text ++ body.allMatches atStart text := by
  rw [Form.allMatches, Form.allMatches, List.flatMap_append, Form.allMatches]
  congr 1
  rw [List.flatMap_singleton]
  simp

theorem value_test : (fun c => !([',', '\n'] : Text).contains c) = isValueChar := by
  funext c
  rw [Bool.eq_iff_iff, value_char_iff]
  simp

theorem anchor_test : (fun c => !(['^', '$'] : Text).contains c) = isAnchorChar := by
  funext c
  rw [Bool.eq_iff_iff]
  simp [isAnchorChar]

theorem option_form_head (name text : Text) (atStart : Bool) :
    ((optionForm name).allMatches atStart text).head?.map Match.outcome =
      (leadingOption? name text).map (outcomeOf 1) := by
  rw [optionForm, literal_sequence, leadingOption?]
  cases name.isPrefixOf? text with
  | none => rfl
  | some behind =>
      rw [Option.toList_some, List.flatMap_singleton, List.head?_map, group_run_head 1 _ behind _ value_test,
        Option.bind_some]
      dsimp only
      split <;> rfl

-- A text without a word in front, if it has one there.
def dropFront (word text : Text) : Text :=
  (word.isPrefixOf? text).getD text

theorem drop_front_begins (word rest : Text) : dropFront word (word ++ rest) = rest := by
  rw [dropFront, is_prefix_append, Option.getD_some]

theorem drop_front_other (word text : Text) (other : ¬ word <+: text) : dropFront word text = text := by
  rw [dropFront, is_prefix_none word text other, Option.getD_none]

-- The text in which an anchor is read.
def anchorStart (line : Text) : Text :=
  dropFront ['^'] (dropFront "||".toList line)

theorem anchor_cut (line : Text) :
    anchor? line =
      if ((anchorStart line).takeWhile isAnchorChar).isEmpty then
        ("||".toList.isPrefixOf? line).map fun behind => ("||".toList, behind)
      else some ((anchorStart line).takeWhile isAnchorChar, (anchorStart line).dropWhile isAnchorChar) := by
  rw [anchorStart]
  unfold anchor?
  extract_lets barred start anchor
  have same : start = dropFront ['^'] (dropFront "||".toList line) := by
    unfold start
    change _ = dropFront ['^'] (barred.getD line)
    split
    · rename_i rest hat
      rw [hat]
      exact (drop_front_begins ['^'] rest).symm
    · rename_i other
      refine (drop_front_other ['^'] _ ?_).symm
      rintro ⟨rest, hat⟩
      exact other rest hat.symm
  rw [← same]
  change _ = if anchor.isEmpty then barred.map fun behind => ("||".toList, behind)
    else some (anchor, start.dropWhile isAnchorChar)
  cases anchor.isEmpty <;> rfl

theorem hat_form_head (atStart : Bool) (text : Text) :
    (hatForm.allMatches atStart text).head?.map Match.outcome =
      if ((dropFront ['^'] text).takeWhile isAnchorChar).isEmpty then none
      else some (outcomeOf 2
        ((dropFront ['^'] text).takeWhile isAnchorChar, (dropFront ['^'] text).dropWhile isAnchorChar)) := by
  rw [hatForm, optional_sequence, literal_sequence, List.head?_append, group_run_head 2 _ text _ anchor_test]
  by_cases hat : ['^'] <+: text
  · obtain ⟨rest, rfl⟩ := hat
    -- A run cannot begin with `^`, so only the way without it is left.
    rw [is_prefix_append, drop_front_begins, Option.toList_some, List.flatMap_singleton, List.head?_map,
      group_run_head 2 _ rest _ anchor_test]
    split <;> rfl
  · rw [is_prefix_none _ text hat, drop_front_other _ text hat]
    split <;> rfl

theorem text_start_sequence (body : Form) (text : Text) :
    (Form.sequence .textStart body).allMatches true text = body.allMatches true text ∧
      (Form.sequence .textStart body).allMatches false text = [] := by
  constructor
  · rw [Form.allMatches, Form.allMatches, if_pos rfl, List.flatMap_singleton]
    exact List.map_id _
  · rw [Form.allMatches, Form.allMatches, if_neg Bool.false_ne_true]
    rfl

theorem no_run_behind_hat (text : Text) (nothing : ((dropFront ['^'] text).takeWhile isAnchorChar).isEmpty = true) :
    text.takeWhile isAnchorChar = [] ∧ text.dropWhile isAnchorChar = text := by
  have none : text.takeWhile isAnchorChar = [] := by
    by_cases hat : ['^'] <+: text
    · obtain ⟨rest, rfl⟩ := hat
      rfl
    · rw [drop_front_other _ text hat] at nothing
      exact List.isEmpty_iff.mp nothing
  exact ⟨none, drop_while_untaken isAnchorChar text none⟩

theorem anchor_form_head (line : Text) :
    (anchorForm.allMatches true line).head?.map Match.outcome = (anchor? line).map (outcomeOf 2) := by
  rw [anchorForm, (text_start_sequence _ line).1, optional_sequence, literal_sequence, List.head?_append, anchor_cut,
    anchorStart]
  by_cases bars : "||".toList <+: line
  · obtain ⟨behind, rfl⟩ := bars
    rw [is_prefix_append, drop_front_begins, Option.toList_some, List.flatMap_singleton, List.head?_map, Option.map_or,
      Option.map_map]
    change Option.or ((hatForm.allMatches _ behind).head?.map Match.outcome) _ = _
    rw [hat_form_head, hat_form_head]
    by_cases nothing : ((dropFront ['^'] behind).takeWhile isAnchorChar).isEmpty = true
    · -- Nothing is left behind the bars, so they are not dropped but read themselves.
      obtain ⟨none, rest⟩ := no_run_behind_hat behind nothing
      have unhatted : ¬ ['^'] <+: "||".toList ++ behind := fun begins =>
        absurd (List.cons_prefix_cons.mp begins).1 (by decide)
      have each : ∀ c ∈ "||".toList, isAnchorChar c = true := List.all_eq_true.mp (by decide)
      rw [if_pos nothing, if_pos nothing, Option.none_or, drop_front_other _ _ unhatted,
        List.takeWhile_append_of_pos each, List.dropWhile_append_of_pos each, none, rest]
      rfl
    · rw [if_neg nothing, if_neg nothing]
      rfl
  · rw [is_prefix_none _ line bars, drop_front_other _ line bars, Option.toList_none]
    change (hatForm.allMatches true line).head?.map Match.outcome = _
    rw [hat_form_head]
    split <;> rfl

theorem find_option_step (name text : Text) :
    findOption? name text = (leadingOption? name text).or (findOption? name text.tail) := by
  cases text with
  | nil => cases name <;> rfl
  | cons c rest =>
      rw [findOption?, List.tail_cons]
      cases leadingOption? name (c :: rest) <;> rfl

-- Whether an expression reads an option of that name, and nothing else.
def ReadsOption (form : Form) (name : Text) (atStart : Bool) : Prop :=
  ∀ text, (form.allMatches atStart text).head?.map Match.outcome = (leadingOption? name text).map (outcomeOf 1)

theorem reads_nothing {form : Form} {name text : Text} {atStart : Bool} (reads : ReadsOption form name atStart)
    (nothing : form.allMatches atStart text = []) : leadingOption? name text = none := by
  have same := reads text
  rw [nothing] at same
  exact Option.map_eq_none_iff.mp same.symm

theorem finds_option_head (form : Form) (name : Text) (atStart : Bool) (text : Text) (found : List Match)
    (here : ReadsOption form name atStart) (later : ReadsOption form name false) (finds : Finds form atStart text found) :
    found.head?.map Match.outcome = (findOption? name text).map (outcomeOf 1) := by
  induction finds with
  | done => rfl
  | skip atStart c rest found nothing _ ih =>
      rw [find_option_step, reads_nothing here nothing]
      exact ih later
  | take atStart text first others found preferred =>
      have same := here text
      rw [preferred, List.head?_cons, Option.map_some] at same
      obtain ⟨option, leads, -⟩ := Option.map_eq_some_iff.mp same.symm
      rw [leads] at same
      rw [find_option_step, leads, List.head?_cons, Option.map_some, same]
      rfl

theorem domain_form_later : ReadsOption domainForm domainName false := by
  intro text
  rw [domainForm, Form.allMatches, anchorForm, (text_start_sequence _ text).2, List.append_nil]
  exact option_form_head domainName text false

theorem domain_form_head (line : Text) :
    (domainForm.allMatches true line).head?.map Match.outcome =
      ((leadingOption? domainName line).map (outcomeOf 1)).or ((anchor? line).map (outcomeOf 2)) := by
  rw [domainForm, Form.allMatches, List.head?_append, Option.map_or, option_form_head, anchor_form_head]

theorem finds_domain_head (line : Text) (found : List Match) (finds : Finds domainForm true line found) :
    found.head?.map Match.outcome =
      (((leadingOption? domainName line).map (outcomeOf 1)).or ((anchor? line).map (outcomeOf 2))).or
        ((findOption? domainName line).map (outcomeOf 1)) := by
  have head := domain_form_head line
  cases finds with
  | done => rfl
  | skip _ c rest _ nothing later =>
      rw [nothing] at head
      obtain ⟨noOption, noAnchor⟩ := Option.or_eq_none_iff.mp head.symm
      rw [noOption, noAnchor, find_option_step, Option.map_eq_none_iff.mp noOption]
      exact finds_option_head domainForm domainName false rest found domain_form_later domain_form_later later
  | take _ _ first _ found preferred =>
      rw [preferred] at head
      rw [← head]
      rfl

theorem outcome_groups {matched : Match} {number : Nat} {clause : Text × Text}
    (is : matched.outcome = outcomeOf number clause) :
    matched.groups = [(number, clause.1)] ∧ matched.behind = clause.2 :=
  Prod.mk.inj is

-- Behind the first clause only options are found, and the first of them is the second clause.
theorem domain_read_behind (first : Match) (others : List Match) (number : Nat) (clause : Text × Text)
    (is : first.outcome = outcomeOf number clause) (numbered : number = 1 ∨ number = 2)
    (later : Finds domainForm false first.behind others) :
    domainRead (first :: others) = ((findOption? domainName clause.2).map (·.1)).getD clause.1 := by
  obtain ⟨groups, behind⟩ := outcome_groups is
  have next := finds_option_head domainForm domainName false first.behind others domain_form_later domain_form_later later
  rw [behind] at next
  cases others with
  | nil =>
      rw [Option.map_eq_none_iff.mp next.symm, domainRead, groups]
      rcases numbered with rfl | rfl <;> rfl
  | cons second more =>
      obtain ⟨option, found, same⟩ := Option.map_eq_some_iff.mp next.symm
      rw [found, domainRead, (outcome_groups same.symm).1]
      rfl

-- What a line begins with, or else its first option, is its domain, unless an option stands behind it.
theorem domain_clause_first (line : Text) :
    domainClause line =
      (((leadingOption? domainName line).or ((anchor? line).or (findOption? domainName line))).map fun clause =>
        ((findOption? domainName clause.2).map (·.1)).getD clause.1).getD [] := by
  rw [domainClause]
  simp only [Option.orElse_eq_orElse, Option.orElse_eq_or]
  cases (leadingOption? domainName line).or ((anchor? line).or (findOption? domainName line)) with
  | none => rfl
  | some clause =>
      simp only [Option.map_some, Option.getD_some]
      cases findOption? domainName clause.2 <;> rfl

theorem domain_read_clause (line : Text) (found : List Match) (finds : Finds domainForm true line found) :
    domainRead found = domainClause line := by
  have head := finds_domain_head line found finds
  have read : ∀ number clause, number = 1 ∨ number = 2 →
      found.head?.map Match.outcome = some (outcomeOf number clause) →
      domainRead found = ((findOption? domainName clause.2).map (·.1)).getD clause.1 := by
    intro number clause numbered is
    obtain ⟨first, leads, same⟩ := Option.map_eq_some_iff.mp is
    obtain ⟨others, rfl⟩ := List.head?_eq_some_iff.mp leads
    exact domain_read_behind first others number clause same numbered (finds_behind domainForm true line first others finds)
  rw [domain_clause_first]
  cases option : leadingOption? domainName line with
  | some clause =>
      rw [option] at head
      exact read 1 clause (.inl rfl) head
  | none =>
      rw [option] at head
      cases anchored : anchor? line with
      | some clause =>
          rw [anchored] at head
          exact read 2 clause (.inr rfl) head
      | none =>
          rw [anchored] at head
          cases listed : findOption? domainName line with
          | some clause =>
              rw [listed] at head
              exact read 1 clause (.inl rfl) head
          | none =>
              rw [listed] at head
              rw [List.head?_eq_none_iff.mp (Option.map_eq_none_iff.mp head)]
              rfl

theorem found_by_forms_iff (line : Text) (clauses : Option (Text × Text)) :
    FoundByForms line clauses ↔ clauses = clauses? line := by
  have params : ∀ found, Finds (optionForm paramName) true line found →
      (found.head?.bind fun first => first.groups.lookup 1) = (findOption? paramName line).map (·.1) := by
    intro found finds
    have reads : ∀ atStart, ReadsOption (optionForm paramName) paramName atStart :=
      fun atStart text => option_form_head paramName text atStart
    have head := finds_option_head _ paramName true line found (reads true) (reads false) finds
    cases found with
    | nil => rw [Option.map_eq_none_iff.mp head.symm]; rfl
    | cons first others =>
        obtain ⟨option, listed, same⟩ := Option.map_eq_some_iff.mp head.symm
        rw [listed, List.head?_cons, Option.bind_some, (outcome_groups same.symm).1]
        rfl
  have clauses_of : clauses? line = ((findOption? paramName line).map (·.1)).map fun param => (domainClause line, param) := by
    rw [clauses?, Option.map_map]
    rfl
  constructor
  · rintro ⟨paramsFound, domainsFound, paramsRead, domainsRead, rfl⟩
    rw [params paramsFound paramsRead, domain_read_clause line domainsFound domainsRead, clauses_of]
  · rintro rfl
    obtain ⟨paramsFound, paramsRead⟩ := finds_some (optionForm paramName) rfl true line
    obtain ⟨domainsFound, domainsRead⟩ := finds_some domainForm rfl true line
    refine ⟨paramsFound, domainsFound, paramsRead, domainsRead, ?_⟩
    rw [params paramsFound paramsRead, domain_read_clause line domainsFound domainsRead, clauses_of]

end LinkTidy.FilterList
