import LinkTidy.Proofs.FilterList.Matchers
import LinkTidy.Proofs.FilterList.Options
import LinkTidy.Proofs.FilterList.Meanings
/-!
Rules as they are written in a line: an anchor, and behind a dollar sign the parameters, the domain and any other
options, in any order. Compiling the line gives back what the parts say.
-/

set_option autoImplicit false

namespace LinkTidy.FilterList

def IsHost (host : Text) : Prop :=
  isBlankText host = false ∧ '^' ∉ host ∧ '$' ∉ host ∧ ¬ paramName <:+: host

structure RuleText where
  host : Option Text
  param : Text
  domain : Option Text
  others : List Text
  hostWritten : ∀ text, host = some text → IsHost text
  paramWritten : IsValue param ∧ ¬ domainName <:+: param
  domainWritten : ∀ text, domain = some text → IsValue text ∧ isBlankText text = false ∧ ¬ paramName <:+: text
  othersFree : ∀ option ∈ others, ¬ domainName <:+: option ∧ ¬ paramName <:+: option

namespace RuleText

def options (rule : RuleText) : List Text :=
  (paramName ++ rule.param) :: ((rule.domain.map (domainName ++ ·)).toList ++ rule.others)

-- The domain option takes the place of the host in front.
def scope (rule : RuleText) : Option Text :=
  rule.domain.or rule.host

inductive Means (rule : RuleText) : List Rule → Prop
  | everywhere (params : List Matcher) (unlimited : rule.scope = none) (paramsRead : ParamMeans rule.param params) :
      Means rule (params.map .general)
  | within (domain : Text) (domains params : List Matcher) (limited : rule.scope = some domain)
      (domainsRead : DomainMeans domain domains) (paramsRead : ParamMeans rule.param params) :
      Means rule (domains.flatMap fun domain => params.map (.specific domain))

end RuleText

-- The ways to write a host in front of the options. Without bars it must not look like the start of anything else.
inductive Anchored : Option Text → Text → Prop
  | nowhere : Anchored none []
  | ended (host : Text) : Anchored (some host) ("||".toList ++ host ++ ['^'])
  | barred (host : Text) : Anchored (some host) ("||".toList ++ host)
  | bare (host : Text) (noBars : ¬ "||".toList <+: host) (noComment : host.head? ≠ some '!')
      (noOption : ¬ domainName <+: host) : Anchored (some host) host

theorem host_some (host : Text) (written : IsHost host) : ∃ c more, host = c :: more ∧ c ≠ '^' := by
  cases host with
  | nil => cases written.1
  | cons c more => exact ⟨c, more, rfl, fun same => written.2.1 (same ▸ List.mem_cons_self)⟩

theorem anchor_of_host (line host rest : Text) (sign : Char) (ends : sign = '^' ∨ sign = '$')
    (unbarred : ("||".toList.isPrefixOf? line).getD line = host ++ sign :: rest) (written : IsHost host) :
    anchor? line = some (host, sign :: rest) := by
  have each : ∀ d ∈ host, isAnchorChar d = true := by
    intro d member
    have noHat : d ≠ '^' := fun same => written.2.1 (same ▸ member)
    have noSign : d ≠ '$' := fun same => written.2.2.1 (same ▸ member)
    simp [isAnchorChar, noHat, noSign]
  have stop : isAnchorChar sign = false := by
    rcases ends with rfl | rfl <;> rfl
  have cut := take_while_stop isAnchorChar host rest sign each stop
  obtain ⟨c, more, rfl, noHat⟩ := host_some host written
  rw [List.cons_append] at cut unbarred
  unfold anchor?
  extract_lets barred start anchor
  have whole : start = c :: (more ++ sign :: rest) := by
    simp only [start, barred, unbarred]
    split
    · rename_i behind same
      exact absurd (List.cons.inj same).1 noHat
    · rfl
  simp only [anchor, whole, cut.1, cut.2]
  rfl

theorem dollar_skipped (name rest : Text) (unnamed : '$' ∉ name) (named : name ≠ []) :
    findOption? name ('$' :: rest) = findOption? name rest :=
  find_option_behind name [] rest '$' unnamed (by rwa [List.infix_nil])

theorem domain_clause_host (line host rest : Text) (sign : Char) (ends : sign = '^' ∨ sign = '$')
    (noOption : ¬ domainName <+: line) (unbarred : ("||".toList.isPrefixOf? line).getD line = host ++ sign :: rest)
    (written : IsHost host) : domainClause line = ((findOption? domainName rest).map (·.1)).getD host := by
  have unnamed : sign ∉ domainName := by
    rcases ends with rfl | rfl <;> decide
  have skipped : findOption? domainName (sign :: rest) = findOption? domainName rest :=
    find_option_behind domainName [] rest sign unnamed (by decide)
  rw [domainClause, leading_option_none domainName line noOption,
    anchor_of_host line host rest sign ends unbarred written]
  cases found : findOption? domainName rest with
  | none => simp [skipped, found]
  | some option => simp [skipped, found]

theorem domain_clause_nowhere (rest : Text)
    (once : ∀ value behind, findOption? domainName rest = some (value, behind) → findOption? domainName behind = none) :
    domainClause ('$' :: rest) = ((findOption? domainName rest).map (·.1)).getD [] := by
  have noBars : ¬ "||".toList <+: '$' :: rest := fun begins =>
    absurd (List.cons_prefix_cons.mp begins).1 (by decide)
  have noAnchor : anchor? ('$' :: rest) = none := by
    rw [anchor?, is_prefix_none _ _ noBars]
    rfl
  have noOption : ¬ domainName <+: '$' :: rest := fun begins =>
    absurd (List.cons_prefix_cons.mp begins).1 (by decide)
  rw [domainClause, leading_option_none domainName _ noOption, noAnchor,
    dollar_skipped domainName rest (by decide) (by decide)]
  cases found : findOption? domainName rest with
  | none => rfl
  | some option => simp [once option.1 option.2 found]

theorem domain_clause_anchored (host : Option Text) (front rest : Text) (anchored : Anchored host front)
    (written : ∀ text, host = some text → IsHost text)
    (once : ∀ value behind, findOption? domainName rest = some (value, behind) → findOption? domainName behind = none) :
    domainClause (front ++ '$' :: rest) = (((findOption? domainName rest).map (·.1)).or host).getD [] := by
  have barred : ∀ text, ¬ domainName <+: "||".toList ++ text := fun text begins =>
    absurd (List.cons_prefix_cons.mp begins).1 (by decide)
  have given : ∀ (found : Option Text) (text : Text), found.getD text = (found.or (some text)).getD [] := by
    intro found text
    cases found <;> rfl
  cases anchored with
  | nowhere => rw [List.nil_append, domain_clause_nowhere rest once, Option.or_none]
  | ended host =>
      have line : "||".toList ++ host ++ ['^'] ++ '$' :: rest = "||".toList ++ (host ++ '^' :: '$' :: rest) := by simp
      rw [line, domain_clause_host _ host ('$' :: rest) '^' (.inl rfl) (barred _) (by rw [is_prefix_append]; rfl)
        (written host rfl), dollar_skipped domainName rest (by decide) (by decide), given]
  | barred host =>
      rw [List.append_assoc, domain_clause_host _ host rest '$' (.inr rfl) (barred _) (by rw [is_prefix_append]; rfl)
        (written host rfl), given]
  | bare host noBars _ noOption =>
      have before : ∀ word, '$' ∉ word → word <+: front ++ '$' :: rest → word <+: front := fun word unnamed begins =>
        prefix_before_stop word front _ (by simpa using unnamed) begins
      have unbarred : ¬ "||".toList <+: front ++ '$' :: rest := fun begins => noBars (before _ (by decide) begins)
      have unnamed : ¬ domainName <+: front ++ '$' :: rest := fun begins => noOption (before _ (by decide) begins)
      rw [domain_clause_host _ front rest '$' (.inr rfl) unnamed (by rw [is_prefix_none _ _ unbarred]; rfl)
        (written front rfl), given]

theorem param_anchored (host : Option Text) (front rest : Text) (anchored : Anchored host front)
    (written : ∀ text, host = some text → IsHost text) :
    findOption? paramName (front ++ '$' :: rest) = findOption? paramName rest := by
  have dollar := dollar_skipped paramName rest (by decide) (by decide)
  have barred : ∀ text, IsHost text → ¬ paramName <:+: "||".toList ++ text := fun text known inside =>
    known.2.2.2 (infix_behind_plain paramName "||".toList text 'r' rfl (by decide) inside)
  cases anchored with
  | nowhere => exact dollar
  | ended host =>
      rw [List.append_assoc, List.singleton_append,
        find_option_behind paramName _ _ '^' (by decide) (barred host (written host rfl)), dollar]
  | barred host => exact find_option_behind paramName _ rest '$' (by decide) (barred host (written host rfl))
  | bare host => exact find_option_behind paramName front rest '$' (by decide) (written front rfl).2.2.2

theorem anchored_no_comment (host : Option Text) (front rest : Text) (anchored : Anchored host front)
    (written : ∀ text, host = some text → IsHost text) : (front ++ '$' :: rest).head? ≠ some '!' := by
  cases anchored with
  | nowhere => exact fun same => absurd (Option.some.inj same) (by decide)
  | ended host => exact fun same => absurd (Option.some.inj same) (by decide)
  | barred host => exact fun same => absurd (Option.some.inj same) (by decide)
  | bare host _ noComment =>
      obtain ⟨c, more, rfl, -⟩ := host_some front (written front rfl)
      exact noComment

namespace RuleText

theorem scope_written (rule : RuleText) (domain : Text) (limited : rule.scope = some domain) :
    isBlankText domain = false := by
  rw [scope] at limited
  cases given : rule.domain with
  | none =>
      rw [given, Option.none_or] at limited
      exact (rule.hostWritten domain limited).1
  | some other =>
      rw [given, Option.some_or] at limited
      cases limited
      exact (rule.domainWritten domain given).2.1

theorem means_iff (rule : RuleText) (meant : List Rule) :
    rule.Means meant ↔ meant = clauseRules (rule.scope.getD []) rule.param := by
  constructor
  · intro means
    cases means with
    | everywhere params unlimited paramsRead =>
        rw [unlimited, (param_means_iff _ _).mp paramsRead]
        rfl
    | within domain domains params limited domainsRead paramsRead =>
        rw [limited, Option.getD_some, clauseRules, if_neg (Bool.eq_false_iff.mp (rule.scope_written domain limited)),
          (domain_means_iff _ _).mp domainsRead, (param_means_iff _ _).mp paramsRead]
  · rintro rfl
    have paramsRead := (param_means_iff rule.param _).mpr rfl
    cases limited : rule.scope with
    | none => exact .everywhere _ limited paramsRead
    | some domain =>
        rw [Option.getD_some, clauseRules, if_neg (Bool.eq_false_iff.mp (rule.scope_written domain limited))]
        exact .within domain _ _ limited ((domain_means_iff domain _).mpr rfl) paramsRead

variable (rule : RuleText) (options : List Text) (placed : options.Perm rule.options)

include placed

theorem param_found :
    ∃ behind, findOption? paramName ([','].intercalate options) = some (rule.param, behind) := by
  have free : ∀ option ∈ (rule.domain.map (domainName ++ ·)).toList ++ rule.others, ¬ paramName <:+: option := by
    intro option member inside
    rcases List.mem_append.mp member with isDomain | isOther
    · obtain ⟨domain, given, rfl⟩ := Option.map_eq_some_iff.mp (Option.mem_toList.mp isDomain)
      exact (rule.domainWritten domain given).2.2
        (infix_behind_plain paramName domainName domain 'r' rfl (by decide) inside)
    · exact (rule.othersFree option isOther).2 inside
  obtain ⟨behind, found, -⟩ :=
    find_option_once paramName (by decide) (by decide) options _ rule.param rule.paramWritten.1 placed free
  exact ⟨behind, found⟩

theorem domain_found :
    (findOption? domainName ([','].intercalate options)).map (·.1) = rule.domain ∧
      ∀ value behind, findOption? domainName ([','].intercalate options) = some (value, behind) →
        findOption? domainName behind = none := by
  have free : ∀ option ∈ (paramName ++ rule.param) :: rule.others, ¬ domainName <:+: option := by
    intro option member
    rcases List.mem_cons.mp member with rfl | isOther
    · exact fun inside =>
        rule.paramWritten.2 (infix_behind_plain domainName paramName rule.param 'd' rfl (by decide) inside)
    · exact (rule.othersFree option isOther).1
  cases given : rule.domain with
  | none =>
      rw [RuleText.options, given] at placed
      have absent := find_option_absent domainName (by decide) (by decide) options fun option member =>
        free option (placed.mem_iff.mp member)
      rw [absent]
      exact ⟨rfl, nofun⟩
  | some domain =>
      rw [RuleText.options, given] at placed
      have moved : options.Perm ((domainName ++ domain) :: (paramName ++ rule.param) :: rule.others) :=
        placed.trans (.swap _ _ _)
      obtain ⟨behind, found, nothing⟩ := find_option_once domainName (by decide) (by decide) options _ domain
        (rule.domainWritten domain given).1 moved free
      rw [found]
      refine ⟨rfl, fun value later same => ?_⟩
      rw [← (Prod.mk.inj (Option.some.inj same)).2]
      exact nothing

end RuleText

-- A line that is written from the parts of a rule is compiled to the rules that the parts mean, wherever the options
-- stand.
theorem rule_text_compiles (rule : RuleText) (front : Text) (options : List Text) (anchored : Anchored rule.host front)
    (placed : options.Perm rule.options) :
    ∃ rules, compileLine (front ++ '$' :: [','].intercalate options) = some rules ∧
      ∀ meant, rule.Means meant ↔ meant = rules := by
  refine ⟨clauseRules (rule.scope.getD []) rule.param, ?_, rule.means_iff⟩
  obtain ⟨behind, found⟩ := rule.param_found options placed
  obtain ⟨domain, once⟩ := rule.domain_found options placed
  have clauses : clauses? (front ++ '$' :: [','].intercalate options) = some (rule.scope.getD [], rule.param) := by
    rw [clauses?, param_anchored rule.host front _ anchored rule.hostWritten, found,
      domain_clause_anchored rule.host front _ anchored rule.hostWritten once, domain]
    rfl
  have written : isBlankText (front ++ '$' :: [','].intercalate options) = false := by
    rw [isBlankText, List.all_append, List.all_cons]
    have sign : Unicode.isBlank '$' = false := by decide +kernel
    rw [sign, Bool.false_and, Bool.and_false]
  have noComment := anchored_no_comment rule.host front ([','].intercalate options) anchored rule.hostWritten
  rw [compile_line_clauses, written, if_neg (by simpa using noComment), clauses]
  rfl

theorem rule_text_with_star :
    compileLine "||shop.net^$xhr,domain=a.com|b.*,removeparam=utm|ref,important".toList =
      some ((.literal "a.com".toList :: patternMatchers (starPattern ["b.".toList, []])).flatMap fun domain =>
        [.specific domain (.token "utm".toList), .specific domain (.token "ref".toList)]) := by
  let rule : RuleText := {
    host := some "shop.net".toList
    param := "utm|ref".toList
    domain := some "a.com|b.*".toList
    others := ["xhr".toList, "important".toList]
    hostWritten := by rintro _ ⟨⟩; exact ⟨by decide +kernel, by decide +kernel⟩
    paramWritten := ⟨⟨by decide, by decide, by decide⟩, by decide +kernel⟩
    domainWritten := by rintro _ ⟨⟩; exact ⟨⟨by decide, by decide, by decide⟩, by decide +kernel⟩
    othersFree := by decide +kernel }
  have domainRead : DomainMeans "a.com|b.*".toList
      [[.literal "a.com".toList], patternMatchers (starPattern ["b.".toList, []])].flatten := by
    refine .segments ["a.com".toList, "b.*".toList] _ (by decide) (by decide) (by simp [Slashed]) ?_
    refine .cons (.literal _ (by decide) (by simp [Slashed])) (.cons ?_ .nil)
    exact .starred ["b.".toList, []] (by decide) (by decide)
  have paramRead : ParamMeans "utm|ref".toList [.token "utm".toList, .token "ref".toList] :=
    .keys ["utm".toList, "ref".toList] (by decide) (by decide) (by simp [Slashed])
  obtain ⟨rules, compiled, meaning⟩ := rule_text_compiles rule "||shop.net^".toList
    ["xhr".toList, "domain=a.com|b.*".toList, "removeparam=utm|ref".toList, "important".toList]
    (.ended "shop.net".toList) (by decide)
  have meant := (meaning _).mp (.within _ _ _ rfl domainRead paramRead)
  rw [List.flatten_cons, List.flatten_cons, List.flatten_nil, List.append_nil, List.singleton_append] at meant
  exact compiled.trans (congrArg some meant.symm)

end LinkTidy.FilterList
