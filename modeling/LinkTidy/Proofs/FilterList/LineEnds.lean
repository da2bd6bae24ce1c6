import LinkTidy.FilterList
import LinkTidy.Proofs.Store.Entries
import LinkTidy.Proofs.Text.Fields
/-!
Lists are read line by line: each line has the rules that it has alone, however the lines are ended.
-/

set_option autoImplicit false

namespace LinkTidy.FilterList

-- A text whose lines are ended by a carriage return and a line feed.
def withReturns (text : Text) : Text :=
  text.flatMap fun c => if c = '\n' then ['\r', '\n'] else [c]

def lineRules (line : Text) : List Rule :=
  (compileLine line).getD []

-- Every text is some ended lines, and a line that is not ended.
theorem cut_last_line (text : Text) :
    ∃ front last, text = front ++ last ∧ (front = [] ∨ front.getLast? = some '\n') ∧ '\n' ∉ last := by
  induction text with
  | nil => exact ⟨[], [], rfl, .inl rfl, List.not_mem_nil⟩
  | cons c rest ih =>
      obtain ⟨front, last, rfl, ended, plain⟩ := ih
      rcases ended with rfl | ended
      · by_cases feed : c = '\n'
        · exact ⟨['\n'], last, by rw [feed]; rfl, .inr rfl, plain⟩
        · exact ⟨[], c :: last, rfl, .inl rfl, by simp [plain, Ne.symm feed]⟩
      · refine ⟨c :: front, last, rfl, .inr ?_, plain⟩
        rw [List.getLast?_cons, ended]
        rfl

theorem compile_append (front behind : Text) (ended : front = [] ∨ front.getLast? = some '\n') :
    compile (front ++ behind) = compile front ++ compile behind := by
  rcases ended with rfl | ended
  · rfl
  · rw [compile, lines_append front behind ended, List.flatMap_append]
    rfl

theorem compile_single_line (line : Text) (plain : '\n' ∉ line) : compile line = lineRules line := by
  rw [compile, lines, fields_plain '\n' line plain]
  cases line with
  | nil => rfl
  | cons c rest => exact List.flatMap_singleton _ _

theorem compile_ended_line (line : Text) (plain : '\n' ∉ line) :
    compile (line ++ ['\n']) = lineRules (dropLastChar '\r' line) := by
  rw [compile, lines_ended line plain]
  exact List.flatMap_singleton _ _

theorem compile_feed (text : Text) (noReturn : text.getLast? ≠ some '\r') :
    compile (text ++ ['\n']) = compile text := by
  obtain ⟨front, last, rfl, ended, plain⟩ := cut_last_line text
  have lastNoReturn : last.getLast? ≠ some '\r' := by
    intro same
    rw [List.getLast?_append, same] at noReturn
    exact noReturn rfl
  rw [List.append_assoc, compile_append front _ ended, compile_append front _ ended, compile_ended_line last plain,
    drop_last_absent '\r' last lastNoReturn, compile_single_line last plain]

theorem compile_return_feed (text : Text) : compile (text ++ ['\r', '\n']) = compile text := by
  obtain ⟨front, last, rfl, ended, plain⟩ := cut_last_line text
  have returned : '\n' ∉ last ++ ['\r'] := by simp [plain]
  have split : last ++ ['\r', '\n'] = last ++ ['\r'] ++ ['\n'] := by simp
  rw [List.append_assoc, compile_append front _ ended, compile_append front _ ended, split,
    compile_ended_line _ returned, drop_last_written, compile_single_line last plain]

theorem compile_joined (a b : Text) (noReturn : a.getLast? ≠ some '\r') :
    compile (a ++ '\n' :: b) = compile a ++ compile b := by
  rw [← List.singleton_append, ← List.append_assoc, compile_append (a ++ ['\n']) b (.inr List.getLast?_concat),
    compile_feed a noReturn]

theorem compile_lines (texts : List Text) (areLines : ∀ line ∈ texts, '\n' ∉ line ∧ line.getLast? ≠ some '\r') :
    compile (['\n'].intercalate texts) = texts.flatMap lineRules := by
  induction texts with
  | nil => rfl
  | cons line rest ih =>
      obtain ⟨here, others⟩ := List.forall_mem_cons.mp areLines
      cases rest with
      | nil => rw [List.intercalate_singleton, compile_single_line line here.1, List.flatMap_singleton]
      | cons next more =>
          rw [List.intercalate_cons_cons, List.append_assoc, List.singleton_append, compile_joined line _ here.2,
            ih others, compile_single_line line here.1]
          rfl

theorem with_returns_plain (line : Text) (plain : '\n' ∉ line) : withReturns line = line := by
  induction line with
  | nil => rfl
  | cons c rest ih =>
      obtain ⟨other, later⟩ := not_or.mp (List.mem_cons.not.mp plain)
      have step : withReturns (c :: rest) = (if c = '\n' then ['\r', '\n'] else [c]) ++ withReturns rest := rfl
      rw [step, ih later, if_neg (Ne.symm other), List.singleton_append]

theorem compile_with_returns (text : Text) (noReturn : '\r' ∉ text) : compile (withReturns text) = compile text := by
  have pieces := fields_apart '\n' text
  have plain : ∀ piece ∈ fields '\n' text, '\r' ∉ piece :=
    fun piece member inside => noReturn (mem_fields '\n' text piece member '\r' inside).1
  rw [← intercalate_fields '\n' text]
  generalize fields '\n' text = texts at pieces plain
  induction texts with
  | nil => rfl
  | cons piece rest ih =>
      obtain ⟨here, others⟩ := List.forall_mem_cons.mp pieces
      obtain ⟨hereNoReturn, othersNoReturn⟩ := List.forall_mem_cons.mp plain
      cases rest with
      | nil => rw [List.intercalate_singleton, with_returns_plain piece here]
      | cons next more =>
          have ended : (piece ++ ['\r', '\n']).getLast? = some '\n' := by simp
          have written : ∀ behind,
              withReturns (piece ++ ['\n'] ++ behind) = piece ++ ['\r', '\n'] ++ withReturns behind := by
            intro behind
            rw [withReturns, List.flatMap_append, List.flatMap_append]
            exact congrArg (· ++ ['\r', '\n'] ++ withReturns behind) (with_returns_plain piece here)
          have last : piece.getLast? ≠ some '\r' := fun same => hereNoReturn (List.mem_of_getLast? same)
          rw [List.intercalate_cons_cons, written, compile_append _ _ (.inr ended), compile_return_feed,
            ih others othersNoReturn, List.append_assoc, List.singleton_append, compile_joined piece _ last]

-- The rules that a store holds for a source after it has been given the bytes of a text.
def storedRules (store : Store) (id text : Text) : Option (List Rule) :=
  match store.updateBytes compileLine id (Utf8.encode text) with
  | .ok updated => updated.store.rulesFor id
  | .error _ => none

theorem stored_rules_new (store : Store) (id text : Text) (unseen : id ∉ store.ids) :
    storedRules store id text = some (compile text) := by
  have unheld : store.hashFor id ≠ some (Digest.contentHash (Utf8.encode text)) := by
    intro held
    obtain ⟨entry, found, -⟩ := Option.map_eq_some_iff.mp held
    exact unseen ((Store.find_is_some store id).mp (by rw [found]; rfl))
  rw [storedRules, Store.update_bytes_text]
  simp only
  rw [Store.update_compiled store compileLine id _ _ unheld, Store.rulesFor, Store.find_put, if_pos rfl]
  rfl

-- Texts that are joined by a line feed have the rules of the one and then those of the other. So a line has the rules that
-- it has alone, wherever it stands, and a line that has none can be left out; and it makes no difference how lines end.
structure ReadByLines (rulesOf : Text → List Rule) : Prop where
  joined : ∀ a b, a.getLast? ≠ some '\r' → rulesOf (a ++ '\n' :: b) = rulesOf a ++ rulesOf b
  each : ∀ texts, (∀ line ∈ texts, '\n' ∉ line ∧ line.getLast? ≠ some '\r') →
    rulesOf (['\n'].intercalate texts) = texts.flatMap lineRules
  idle : ∀ front line behind, (∀ text ∈ front ++ line :: behind, '\n' ∉ text ∧ text.getLast? ≠ some '\r') →
    lineRules line = [] →
      rulesOf (['\n'].intercalate (front ++ line :: behind)) = rulesOf (['\n'].intercalate (front ++ behind))
  returns : ∀ text, '\r' ∉ text → rulesOf (withReturns text) = rulesOf text
  ended : ∀ text, '\r' ∉ text → ∀ lineEnd ∈ [['\n'], ['\r', '\n']], rulesOf (text ++ lineEnd) = rulesOf text

theorem compile_read_by_lines : ReadByLines compile where
  joined := compile_joined
  each := compile_lines
  idle front line behind areLines noRules := by
    have others : ∀ text ∈ front ++ behind, '\n' ∉ text ∧ text.getLast? ≠ some '\r' := by
      intro text member
      refine areLines text ?_
      rcases List.mem_append.mp member with before | after
      · exact List.mem_append_left _ before
      · exact List.mem_append_right _ (List.mem_cons_of_mem _ after)
    rw [compile_lines _ areLines, compile_lines _ others, List.flatMap_append, List.flatMap_cons, noRules,
      List.nil_append, List.flatMap_append]
  returns := compile_with_returns
  ended text noReturn lineEnd listed := by
    rcases List.mem_cons.mp listed with rfl | later
    · exact compile_feed text fun same => noReturn (List.mem_of_getLast? same)
    · cases List.mem_singleton.mp later
      exact compile_return_feed text

theorem lists_read_by_lines :
    ReadByLines compile ∧ ∀ store id, id ∉ Store.ids store →
      (∀ text, storedRules store id text = some (compile text)) ∧
        ReadByLines fun text => (storedRules store id text).getD [] := by
  refine ⟨compile_read_by_lines, fun store id unseen => ?_⟩
  have stored : ∀ text, storedRules store id text = some (compile text) :=
    fun text => stored_rules_new store id text unseen
  have same : (fun text => (storedRules store id text).getD []) = compile := by
    funext text
    rw [stored text, Option.getD_some]
  exact ⟨stored, same ▸ compile_read_by_lines⟩

-- Between two rules there are a comment, a blank line and a line whose pattern is none.
theorem lists_read_by_lines_with_idle_lines :
    let text := "$removeparam=a\n! note\n \n$removeparam=/(/\n||b.c^$removeparam=d".toList
    let rules : List Rule := [.general (.token ['a']), .specific (.literal ['b', '.', 'c']) (.token ['d'])]
    '\r' ∉ text ∧ ['x'] ∉ Store.empty.ids ∧ compile (withReturns text) = rules ∧
      storedRules .empty ['x'] (withReturns text) = some rules := by
  intro text rules
  have noReturn : '\r' ∉ text := by decide
  have unseen : ['x'] ∉ Store.empty.ids := by decide
  obtain ⟨byLines, stores⟩ := lists_read_by_lines
  have read : compile (withReturns text) = rules := (byLines.returns text noReturn).trans (by decide +kernel)
  exact ⟨noReturn, unseen, read, ((stores .empty ['x'] unseen).1 _).trans (congrArg some read)⟩

end LinkTidy.FilterList
