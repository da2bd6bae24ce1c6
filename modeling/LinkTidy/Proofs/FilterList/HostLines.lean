import LinkTidy.Proofs.FilterList.RuleTexts
import LinkTidy.Proofs.FilterList.Scans
/-!
Lines with a host in front and a parameter clause behind it. The parameter clause is read as it was written, but the
domain is looked for in the whole line, so the clause leaves the scope to the host only if it names no domain itself.
-/

set_option autoImplicit false

namespace LinkTidy.FilterList

def hostLine (host param : Text) : Text :=
  "||".toList ++ host ++ "^$".toList ++ paramName ++ param

-- The text behind the first `domain=` of a parameter clause.
def NamesDomain (param domain : Text) : Prop :=
  domain ≠ [] ∧ ∃ front, PrecedesFirst front domainName param ∧ param = front ++ domainName ++ domain

-- What a line with a host is limited to.
inductive HostScope (host param : Text) : Text → Prop where
  | host (unnamed : ∀ domain, ¬ NamesDomain param domain) : HostScope host param host
  | named (domain : Text) (names : NamesDomain param domain) : HostScope host param domain

theorem find_option_plain (name front rest : Text) (sign : Char) (leads : name.head? = some sign) (absent : sign ∉ front) :
    findOption? name (front ++ rest) = findOption? name rest := by
  induction front with
  | nil => rfl
  | cons c more ih =>
      have quiet : ¬ name <+: c :: (more ++ rest) := by
        obtain ⟨letters, rfl⟩ := List.head?_eq_some_iff.mp leads
        exact fun begins => absent ((List.cons_prefix_cons.mp begins).1 ▸ List.mem_cons_self)
      rw [List.cons_append, find_option_step, leading_option_none name _ quiet, Option.none_or, List.tail_cons]
      exact ih fun later => absent (List.mem_cons_of_mem _ later)

section

variable (param : Text) (written : IsValue param)

include written

theorem value_member (c : Char) (member : c ∈ param) : c ≠ ',' ∧ c ≠ '\n' :=
  (value_char_iff c).mp (((is_value_iff param).mp written).2 c member)

-- A parameter clause holds no sign that could end the domain that it names.
theorem names_domain_iff (domain : Text) :
    NamesDomain param domain ↔ findOption? domainName param = some (domain, []) := by
  rw [first_option_iff]
  constructor
  · rintro ⟨some, front, ⟨-, first⟩, whole⟩
    have each : ∀ c ∈ domain, isValueChar c = true := by
      intro c member
      rw [value_char_iff]
      exact value_member param written c (whole ▸ List.mem_append_right _ member)
    refine ⟨front, by rw [List.append_nil]; exact whole, (is_value_iff domain).mpr ⟨some, each⟩, nofun, ?_⟩
    intro earlier c rest other _ _
    exact first earlier ⟨c :: rest, other.symm⟩
  · rintro ⟨front, first⟩
    have whole := first.whole
    rw [List.append_nil] at whole
    refine ⟨first.written.1, front, ⟨⟨domain, whole.symm⟩, ?_⟩, whole⟩
    rintro earlier ⟨rest, other⟩
    cases rest with
    | nil =>
        -- An occurrence with nothing behind it is at the very end, so it does not stand earlier.
        have size := congrArg List.length (other.trans whole)
        simp only [List.length_append, List.length_nil] at size
        omega
    | cons c rest =>
        have passes := value_member param written c (other ▸ List.mem_append_right _ List.mem_cons_self)
        exact first.first earlier c rest other.symm passes.1 passes.2

theorem domain_in_param_ends (domain behind : Text) (found : findOption? domainName param = some (domain, behind)) :
    behind = [] := by
  obtain ⟨front, first⟩ := find_option_first domainName param domain behind found
  cases behind with
  | nil => rfl
  | cons c rest =>
      have passes := value_member param written c (first.whole ▸ List.mem_append_right _ List.mem_cons_self)
      exact absurd (first.ending c rfl) (not_or.mpr passes)

theorem host_scope_iff (host scope : Text) :
    HostScope host param scope ↔ scope = ((findOption? domainName param).map (·.1)).getD host := by
  cases found : findOption? domainName param with
  | none =>
      have unnamed : ∀ domain, ¬ NamesDomain param domain := by
        intro domain names
        rw [(names_domain_iff param written domain).mp names] at found
        cases found
      constructor
      · intro limited
        cases limited with
        | host => rfl
        | named _ names => exact absurd names (unnamed scope)
      · rintro rfl
        exact .host unnamed
  | some option =>
      obtain ⟨domain, behind⟩ := option
      obtain rfl := domain_in_param_ends param written domain behind found
      constructor
      · intro limited
        cases limited with
        | host unnamed => exact absurd ((names_domain_iff param written domain).mpr found) (unnamed domain)
        | named _ names =>
            have same := (names_domain_iff param written scope).mp names
            rw [found] at same
            cases same
            rfl
      · intro same
        rw [same]
        exact .named domain ((names_domain_iff param written domain).mpr found)

theorem host_line_clauses (host : Text) (hosted : IsHost host) :
    clauses? (hostLine host param) = some (((findOption? domainName param).map (·.1)).getD host, param) := by
  have line : hostLine host param = ("||".toList ++ host ++ ['^']) ++ '$' :: (paramName ++ param) := by
    simp [hostLine]
  have anchored := Anchored.ended host
  have known : ∀ text, some host = some text → IsHost text := by
    rintro _ ⟨⟩
    exact hosted
  have paramFound : findOption? paramName (paramName ++ param) = some (param, []) := by
    have leads := leading_option_value paramName param [] written nofun
    rw [List.append_nil] at leads
    rw [find_option_step, leads, Option.some_or]
  have domainFound : findOption? domainName (paramName ++ param) = findOption? domainName param :=
    find_option_plain domainName paramName param 'd' rfl (by decide)
  have once : ∀ domain behind, findOption? domainName (paramName ++ param) = some (domain, behind) →
      findOption? domainName behind = none := by
    intro domain behind found
    rw [domainFound] at found
    rw [domain_in_param_ends param written domain behind found]
    rfl
  rw [clauses?, line, param_anchored (some host) _ _ anchored known, paramFound,
    domain_clause_anchored (some host) _ _ anchored known once, domainFound]
  cases findOption? domainName param <;> rfl

end

-- Whatever the parameter clauses are, they are read as they were written, and two that name no domain leave the line with
-- the same scope, its host. One that names a domain sets the scope.
theorem host_scope_of_params (host p q : Text) (hosted : IsHost host) (pWritten : IsValue p) (qWritten : IsValue q) :
    ∃ pScope qScope, clauses? (hostLine host p) = some (pScope, p) ∧ clauses? (hostLine host q) = some (qScope, q) ∧
      HostScope host p pScope ∧ HostScope host q qScope ∧
      ((∀ domain, ¬ NamesDomain p domain) → (∀ domain, ¬ NamesDomain q domain) → pScope = host ∧ qScope = host) := by
  have pScoped := (host_scope_iff p pWritten host _).mpr rfl
  have qScoped := (host_scope_iff q qWritten host _).mpr rfl
  refine ⟨_, _, host_line_clauses p pWritten host hosted, host_line_clauses q qWritten host hosted, pScoped, qScoped, ?_⟩
  have left : ∀ param scope, HostScope host param scope → (∀ domain, ¬ NamesDomain param domain) → scope = host := by
    intro param scope limited unnamed
    cases limited with
    | host => rfl
    | named _ names => exact absurd names (unnamed scope)
  exact fun pUnnamed qUnnamed => ⟨left p _ pScoped pUnnamed, left q _ qScoped qUnnamed⟩

-- The first clause ends in `domain=` with nothing behind it, and the second one has the signs that end an anchor.
theorem host_scope_of_quiet_params :
    clauses? "||a.com|*.b.org^$removeparam=ref|domain=".toList = some ("a.com|*.b.org".toList, "ref|domain=".toList) ∧
      clauses? "||a.com|*.b.org^$removeparam=/^utm_.*$/".toList = some ("a.com|*.b.org".toList, "/^utm_.*$/".toList) := by
  have pWritten : IsValue "ref|domain=".toList := by decide
  have qWritten : IsValue "/^utm_.*$/".toList := by decide
  have unnamed : ∀ param, IsValue param → findOption? domainName param = none → ∀ domain, ¬ NamesDomain param domain := by
    intro param written nothing domain names
    rw [(names_domain_iff param written domain).mp names] at nothing
    cases nothing
  obtain ⟨_, _, first, second, -, -, same⟩ := host_scope_of_params "a.com|*.b.org".toList _ _
    ⟨by decide +kernel, by decide +kernel⟩ pWritten qWritten
  obtain ⟨rfl, rfl⟩ := same (unnamed _ pWritten (by decide)) (unnamed _ qWritten (by decide))
  exact ⟨first, second⟩

-- A pattern for the parameter `subdomain` is taken for a domain.
theorem host_scope_lost_to_param :
    ¬ ∀ host p q, isBlankText host = false → '^' ∉ host → '$' ∉ host → '\n' ∉ host → ¬ paramName <:+: host →
      IsValue p → IsValue q →
        clauses? (hostLine host p) = some (host, p) ∧ clauses? (hostLine host q) = some (host, q) := by
  intro all
  have kept := (all "a.com".toList "/^subdomain=x/".toList "c".toList (by decide +kernel) (by decide) (by decide)
    (by decide) (by decide +kernel) (by decide) (by decide)).1
  have lost : clauses? (hostLine "a.com".toList "/^subdomain=x/".toList) =
      some ("x/".toList, "/^subdomain=x/".toList) := by decide +kernel
  rw [lost] at kept
  exact absurd kept (by decide)

end LinkTidy.FilterList
