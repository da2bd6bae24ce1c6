import LinkTidy.Rule.Dedupe
/-!
Removing repeated rules keeps the first rule of each display. What is kept of a list depends on the list in front of it
only through the displays that occur there, so lists can be read one after the other.
-/

set_option autoImplicit false

namespace LinkTidy.Rule

section

variable (seen : List Text) (rule : Rule) (rest : List Rule)

theorem dedupe_after_known (known : rule.display ∈ seen) :
    dedupeAfter seen (rule :: rest) = dedupeAfter seen rest ∧
      repeatsAfter seen (rule :: rest) = repeatsAfter seen rest + 1 := by
  have found : seen.contains rule.display = true := List.contains_iff_mem.mpr known
  rw [dedupeAfter, repeatsAfter, if_pos found, if_pos found]
  exact ⟨rfl, rfl⟩

theorem dedupe_after_new (new : rule.display ∉ seen) :
    dedupeAfter seen (rule :: rest) = rule :: dedupeAfter (rule.display :: seen) rest ∧
      repeatsAfter seen (rule :: rest) = repeatsAfter (rule.display :: seen) rest := by
  have missing : ¬ seen.contains rule.display = true := fun found => new (List.contains_iff_mem.mp found)
  rw [dedupeAfter, repeatsAfter, if_neg missing, if_neg missing]
  exact ⟨rfl, rfl⟩

end

theorem dedupe_after_sublist (seen : List Text) (rules : List Rule) : (dedupeAfter seen rules).Sublist rules := by
  induction rules generalizing seen with
  | nil => exact List.nil_sublist []
  | cons rule rest ih =>
      by_cases known : rule.display ∈ seen
      · rw [(dedupe_after_known seen rule rest known).1]
        exact (ih seen).cons rule
      · rw [(dedupe_after_new seen rule rest known).1]
        exact (ih _).cons_cons rule

theorem dedupe_after_covers (seen : List Text) (rules : List Rule) (rule : Rule) (member : rule ∈ rules) :
    rule.display ∈ seen ∨ ∃ first ∈ dedupeAfter seen rules, first.display = rule.display := by
  induction rules generalizing seen with
  | nil => cases member
  | cons first rest ih =>
      by_cases known : first.display ∈ seen
      · rw [(dedupe_after_known seen first rest known).1]
        rcases List.mem_cons.mp member with rfl | later
        · exact .inl known
        · exact ih seen later
      · rw [(dedupe_after_new seen first rest known).1]
        rcases List.mem_cons.mp member with rfl | later
        · exact .inr ⟨rule, List.mem_cons_self, rfl⟩
        · rcases ih (first.display :: seen) later with shown | ⟨other, inside, same⟩
          · rcases List.mem_cons.mp shown with same | earlier
            · exact .inr ⟨first, List.mem_cons_self, same.symm⟩
            · exact .inl earlier
          · exact .inr ⟨other, List.mem_cons_of_mem _ inside, same⟩

-- A kept rule is the first one that is shown as it is.
theorem dedupe_after_first (seen : List Text) (rules : List Rule) (rule : Rule) (member : rule ∈ dedupeAfter seen rules) :
    rule.display ∉ seen ∧ ∃ front behind, rules = front ++ rule :: behind ∧
      ∀ earlier ∈ front, earlier.display ≠ rule.display := by
  induction rules generalizing seen with
  | nil => cases member
  | cons first rest ih =>
      by_cases known : first.display ∈ seen
      · rw [(dedupe_after_known seen first rest known).1] at member
        obtain ⟨new, front, behind, rfl, others⟩ := ih seen member
        have differs : first.display ≠ rule.display := fun same => new (same ▸ known)
        exact ⟨new, first :: front, behind, rfl, List.forall_mem_cons.mpr ⟨differs, others⟩⟩
      · rw [(dedupe_after_new seen first rest known).1] at member
        rcases List.mem_cons.mp member with rfl | later
        · exact ⟨known, [], rest, rfl, List.forall_mem_nil _⟩
        · obtain ⟨new, front, behind, rfl, others⟩ := ih _ later
          have differs := Ne.symm (List.ne_of_not_mem_cons new)
          exact ⟨List.not_mem_of_not_mem_cons new, first :: front, behind, rfl,
            List.forall_mem_cons.mpr ⟨differs, others⟩⟩

theorem dedupe_after_distinct (seen : List Text) (rules : List Rule) : ((dedupeAfter seen rules).map display).Nodup := by
  induction rules generalizing seen with
  | nil => exact List.nodup_nil
  | cons rule rest ih =>
      by_cases known : rule.display ∈ seen
      · rw [(dedupe_after_known seen rule rest known).1]
        exact ih seen
      · rw [(dedupe_after_new seen rule rest known).1, List.map_cons, List.nodup_cons]
        refine ⟨fun again => ?_, ih _⟩
        obtain ⟨other, member, same⟩ := List.mem_map.mp again
        have new := (dedupe_after_first _ rest other member).1
        exact new (same ▸ List.mem_cons_self)

theorem dedupe_after_count (seen : List Text) (rules : List Rule) :
    (dedupeAfter seen rules).length + repeatsAfter seen rules = rules.length := by
  induction rules generalizing seen with
  | nil => rfl
  | cons rule rest ih =>
      by_cases known : rule.display ∈ seen
      · obtain ⟨kept, repeated⟩ := dedupe_after_known seen rule rest known
        rw [kept, repeated, ← Nat.add_assoc, ih seen, List.length_cons]
      · obtain ⟨kept, repeated⟩ := dedupe_after_new seen rule rest known
        rw [kept, repeated, List.length_cons, Nat.add_right_comm, ih, List.length_cons]

-- What has been seen before a list takes no other part than a filter behind it.
theorem dedupe_after_filter (texts seen : List Text) (rules : List Rule) (more : ∀ text ∈ seen, text ∈ texts) :
    dedupeAfter texts rules = (dedupeAfter seen rules).filter fun rule => decide (rule.display ∉ texts) := by
  induction rules generalizing texts seen with
  | nil => rfl
  | cons rule rest ih =>
      by_cases known : rule.display ∈ texts
      · rw [(dedupe_after_known texts rule rest known).1]
        by_cases also : rule.display ∈ seen
        · rw [(dedupe_after_known seen rule rest also).1]
          exact ih texts seen more
        · rw [(dedupe_after_new seen rule rest also).1, List.filter_cons_of_neg (by simpa using known)]
          exact ih texts _ (List.forall_mem_cons.mpr ⟨known, more⟩)
      · have new : rule.display ∉ seen := fun also => known (more _ also)
        have more : ∀ text ∈ rule.display :: seen, text ∈ rule.display :: texts :=
          List.forall_mem_cons.mpr ⟨List.mem_cons_self, fun text member => List.mem_cons_of_mem _ (more text member)⟩
        rw [(dedupe_after_new texts rule rest known).1, (dedupe_after_new seen rule rest new).1,
          List.filter_cons_of_pos (by simpa using known), ih _ _ more]
        congr 1
        -- None of those kept behind the rule is shown like it, so to filter for that as well changes nothing.
        refine List.filter_congr fun other member => ?_
        have apart := (dedupe_after_first _ rest other member).1
        have differs : other.display ≠ rule.display := fun same => apart (same ▸ List.mem_cons_self)
        simp [differs]

theorem dedupe_after_append (seen : List Text) (rules others : List Rule) :
    dedupeAfter seen (rules ++ others) = dedupeAfter seen rules ++
      (dedupe others).filter fun rule => decide (rule.display ∉ seen ∧ rule.display ∉ rules.map display) := by
  induction rules generalizing seen with
  | nil =>
      rw [List.nil_append, dedupe_after_filter seen [] others (List.forall_mem_nil _)]
      simp [dedupe, dedupeAfter]
  | cons rule rest ih =>
      rw [List.cons_append]
      by_cases known : rule.display ∈ seen
      · rw [(dedupe_after_known seen rule _ known).1, (dedupe_after_known seen rule rest known).1, ih]
        congr 1
        refine List.filter_congr fun other _ => decide_eq_decide.mpr (and_congr_right fun new => ?_)
        have differs : other.display ≠ rule.display := fun same => new (same ▸ known)
        simp [differs]
      · rw [(dedupe_after_new seen rule _ known).1, (dedupe_after_new seen rule rest known).1, ih, List.cons_append]
        congr 2
        refine List.filter_congr fun other _ => decide_eq_decide.mpr ?_
        rw [List.map_cons, List.mem_cons, List.mem_cons, not_or, not_or, and_assoc, and_left_comm]

theorem dedupe_after_unrepeated (seen : List Text) (rules : List Rule) (distinct : (rules.map display).Nodup)
    (new : ∀ rule ∈ rules, rule.display ∉ seen) : dedupeAfter seen rules = rules := by
  induction rules generalizing seen with
  | nil => rfl
  | cons rule rest ih =>
      obtain ⟨here, later⟩ := List.forall_mem_cons.mp new
      rw [List.map_cons, List.nodup_cons] at distinct
      rw [(dedupe_after_new seen rule rest here).1, ih _ distinct.2]
      intro other member
      exact List.not_mem_cons_of_ne_of_not_mem
        (fun same => distinct.1 (same ▸ List.mem_map_of_mem member)) (later other member)

-- What becomes of a list: of the rules that are shown alike the first is kept, and the others are counted.
structure Deduped (rules : List Rule) : Prop where
  ordered : (dedupe rules).Sublist rules
  distinct : ((dedupe rules).map display).Nodup
  covered : ∀ rule ∈ rules, ∃ kept ∈ dedupe rules, kept.display = rule.display
  first : ∀ kept ∈ dedupe rules, ∃ front behind, rules = front ++ kept :: behind ∧
    ∀ earlier ∈ front, earlier.display ≠ kept.display
  stats : dedupeStats rules = ⟨rules.length, (dedupe rules).length, rules.length - (dedupe rules).length⟩
  again : dedupe (dedupe rules) = dedupe rules
  appended : ∀ others, dedupe (rules ++ others) =
    dedupe rules ++ (dedupe others).filter fun rule => decide (rule.display ∉ rules.map display)

theorem deduped (rules : List Rule) : Deduped rules where
  ordered := dedupe_after_sublist [] rules
  distinct := dedupe_after_distinct [] rules
  covered rule member := (dedupe_after_covers [] rules rule member).resolve_left List.not_mem_nil
  first kept member := (dedupe_after_first [] rules kept member).2
  stats := by
    have count := dedupe_after_count [] rules
    rw [dedupeStats, ← count, dedupe, Nat.add_sub_cancel_left]
  again := dedupe_after_unrepeated [] (dedupe rules) (dedupe_after_distinct [] rules) fun _ _ => List.not_mem_nil
  appended others := by
    have whole := dedupe_after_append [] rules others
    simpa [dedupe] using whole

end LinkTidy.Rule
