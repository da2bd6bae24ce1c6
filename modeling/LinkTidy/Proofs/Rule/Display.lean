import LinkTidy.Proofs.FilterList.Matchers
/-!
How far the display of a rule tells which rule it is. Clause texts are shown as they are, so what looks like the end of
a domain may stand inside of one.
-/

set_option autoImplicit false

namespace LinkTidy

-- The sign that a matcher is shown between.
def Matcher.quote : Matcher → Char
  | .literal _ => '"'
  | .token _ => '"'
  | .pattern _ => '/'

theorem Matcher.display_quoted (matcher : Matcher) :
    matcher.display = matcher.quote :: matcher.source ++ [matcher.quote] := by
  cases matcher <;> rfl

theorem Matcher.display_inj_quote (a b : Matcher) (same : a.display = b.display) :
    a.quote = b.quote ∧ a.source = b.source := by
  rw [display_quoted, display_quoted, List.cons_append, List.cons_append, List.cons.injEq] at same
  obtain ⟨quote, rest⟩ := same
  rw [quote] at rest
  exact ⟨quote, List.append_cancel_right rest⟩

namespace Rule

open FilterList (IsParam IsDomain Written)

theorem param_display_inj (a b : Matcher) (aParam : IsParam a) (bParam : IsParam b) (same : a.display = b.display) :
    a = b := by
  obtain ⟨quote, source⟩ := Matcher.display_inj_quote a b same
  cases a with
  | literal => cases aParam
  | token key =>
      cases b with
      | literal => cases bParam
      | token other => exact congrArg Matcher.token source
      | pattern => cases quote
  | pattern p =>
      cases b with
      | literal => cases bParam
      | token => cases quote
      | pattern other => exact congrArg Matcher.pattern (Regex.Pattern.ext_source source)

theorem domain_display_inj (a b : Matcher) (aDomain : IsDomain a) (bDomain : IsDomain b)
    (same : a.display = b.display) : a = b := by
  obtain ⟨quote, source⟩ := Matcher.display_inj_quote a b same
  cases a with
  | token => cases aDomain
  | literal text =>
      cases b with
      | token => cases bDomain
      | literal other => exact congrArg Matcher.literal source
      | pattern => cases quote
  | pattern p =>
      cases b with
      | token => cases bDomain
      | literal => cases quote
      | pattern other => exact congrArg Matcher.pattern (Regex.Pattern.ext_source source)

-- What stands between domain and parameter.
def joint : Text := [']', ' ', '-', ' ']

theorem display_general (param : Matcher) : (general param).display = "General: ".toList ++ param.display := rfl

theorem display_specific (domain param : Matcher) :
    (specific domain param).display = "Specific: [".toList ++ (domain.display ++ joint ++ param.display) := by
  have spelled : "] - ".toList = joint := by decide
  change "Specific: [".toList ++ domain.display ++ "] - ".toList ++ param.display = _
  rw [spelled, List.append_assoc _ domain.display, List.append_assoc _ _ param.display]

-- Two rules with different clauses whose displays coincide: one middle text ends the domain of the one rule and begins
-- the parameter of the other.
def Collides : Rule → Rule → Prop
  | .specific domain param, .specific domain' param' =>
      ∃ middle, domain'.display = domain.display ++ joint ++ middle ∧ param.display = middle ++ joint ++ param'.display
  | _, _ => False

theorem collides_display (a b : Rule) (collides : a.Collides b) : a.display = b.display := by
  cases a with
  | general => cases collides
  | specific domain param =>
      cases b with
      | general => cases collides
      | specific domain' param' =>
          obtain ⟨middle, domains, params⟩ := collides
          rw [display_specific, display_specific, domains, params]
          simp only [List.append_assoc]

theorem collides_irrefl (rule : Rule) : ¬ rule.Collides rule := by
  intro collides
  cases rule with
  | general => cases collides
  | specific domain param =>
      obtain ⟨middle, domains, -⟩ := collides
      have size := congrArg List.length domains
      rw [List.length_append, List.length_append] at size
      have long : joint.length = 4 := rfl
      omega

theorem quote_not_in_joint (matcher : Matcher) : matcher.quote ∉ joint := by
  cases matcher with
  | literal => exact (by decide : '"' ∉ joint)
  | token => exact (by decide : '"' ∉ joint)
  | pattern => exact (by decide : '/' ∉ joint)

-- What stands inside of a matcher that is shown stands in its source.
theorem display_inside (matcher : Matcher) (front word behind : Text) (some : front ≠ []) (more : behind ≠ [])
    (shown : matcher.display = front ++ word ++ behind) : word <:+: matcher.source := by
  obtain ⟨first, rest, rfl⟩ := List.exists_cons_of_ne_nil some
  obtain ⟨init, last, rfl⟩ := List.eq_nil_or_concat behind |>.resolve_left more
  rw [Matcher.display_quoted, List.concat_eq_append, ← List.append_assoc] at shown
  have inner := (List.cons.inj (List.append_inj' shown rfl).1).2
  exact ⟨rest, init, inner.symm⟩

-- The joint that is taken for another one stands in a clause of either rule.
theorem collides_delimited (a b : Rule) (collides : a.Collides b) :
    (∃ domain ∈ b.domain, joint <:+: domain.source) ∧ joint <:+: a.param.source := by
  cases a with
  | general => cases collides
  | specific domain param =>
      cases b with
      | general => cases collides
      | specific domain' param' =>
          obtain ⟨middle, domains, params⟩ := collides
          have shown : ∀ matcher : Matcher, matcher.display ≠ [] := fun matcher => by rw [Matcher.display_quoted]; simp
          have some : middle ≠ [] := by
            rintro rfl
            rw [Matcher.display_quoted, List.append_nil] at domains
            have closing : [domain'.quote] <:+ joint :=
              List.suffix_of_suffix_length_le ⟨_, rfl⟩ ⟨domain.display, domains.symm⟩ (Nat.le_add_left 1 3)
            exact quote_not_in_joint domain' (closing.subset List.mem_cons_self)
          exact ⟨⟨domain', rfl, display_inside domain' _ joint middle (shown domain) some domains⟩,
            display_inside param middle joint _ some (shown param') params⟩

-- A domain that goes on behind the closing sign of another one goes on with the joint.
theorem longer_domain (domain domain' param param' : Matcher) (more : Text)
    (longer : domain'.display = domain.display ++ more)
    (same : joint ++ param.display = more ++ (joint ++ param'.display)) :
    more = [] ∨ (specific domain param).Collides (specific domain' param') := by
  rcases List.append_eq_append_iff.mp same with ⟨middle, joined, params⟩ | ⟨rest, joined, -⟩
  · exact .inr ⟨middle, by rw [longer, joined, List.append_assoc], by rw [params, List.append_assoc]⟩
  · rcases List.eq_nil_or_concat more with none | ⟨init, last, rfl⟩
    · exact .inl none
    · -- The last sign of a domain is its quote, which the joint does not hold.
      have closing : last = domain'.quote := by
        rw [Matcher.display_quoted, List.concat_eq_append, ← List.append_assoc] at longer
        exact (List.append_inj' longer rfl).2 |> fun ends => (List.cons.inj ends).1.symm
      refine absurd ?_ (quote_not_in_joint domain')
      rw [joined, ← closing]
      simp

theorem specific_display_cases (domain domain' param param' : Matcher)
    (domains : IsDomain domain ∧ IsDomain domain') (params : IsParam param ∧ IsParam param')
    (same : (specific domain param).display = (specific domain' param').display) :
    specific domain param = specific domain' param' ∨ (specific domain param).Collides (specific domain' param') ∨
      (specific domain' param').Collides (specific domain param) := by
  rw [display_specific, display_specific] at same
  have shown := List.append_cancel_left same
  rw [List.append_assoc, List.append_assoc] at shown
  -- Whichever domain is the longer one, either they are equal or it reaches behind the joint.
  rcases List.append_eq_append_iff.mp shown with ⟨more, longer, rest⟩ | ⟨more, longer, rest⟩
  · rcases longer_domain domain domain' param param' more longer rest with rfl | collides
    · have sameDomain := domain_display_inj domain' domain domains.2 domains.1 (by rw [longer, List.append_nil])
      have sameParam := param_display_inj param param' params.1 params.2 (List.append_cancel_left rest)
      rw [sameDomain, sameParam]
      exact .inl rfl
    · exact .inr (.inl collides)
  · rcases longer_domain domain' domain param' param more longer rest with rfl | collides
    · have sameDomain := domain_display_inj domain domain' domains.1 domains.2 (by rw [longer, List.append_nil])
      have sameParam := param_display_inj param' param params.2 params.1 (List.append_cancel_left rest)
      rw [sameDomain, sameParam]
      exact .inl rfl
    · exact .inr (.inr collides)

theorem general_display_ne (param domain' param' : Matcher) :
    (general param).display ≠ (specific domain' param').display := by
  intro same
  have first := congrArg List.head? same
  have different : some 'G' = some 'S' := first
  exact absurd different (by decide)

theorem display_eq_iff (a b : Rule) (aWritten : Written a) (bWritten : Written b) :
    a.display = b.display ↔ a = b ∨ a.Collides b ∨ b.Collides a := by
  constructor
  · intro same
    cases a with
    | general param =>
        cases b with
        | general param' =>
            rw [display_general, display_general] at same
            exact .inl (congrArg general (param_display_inj _ _ aWritten bWritten (List.append_cancel_left same)))
        | specific domain' param' => exact absurd same (general_display_ne param domain' param')
    | specific domain param =>
        cases b with
        | general param' => exact absurd same.symm (general_display_ne param' domain param)
        | specific domain' param' =>
            exact specific_display_cases domain domain' param param' ⟨aWritten.1, bWritten.1⟩
              ⟨aWritten.2, bWritten.2⟩ same
  · rintro (rfl | collides | collides)
    · rfl
    · exact collides_display a b collides
    · exact (collides_display b a collides).symm

end Rule
end LinkTidy
