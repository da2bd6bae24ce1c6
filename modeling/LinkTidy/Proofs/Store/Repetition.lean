import LinkTidy.Proofs.Store.Cancellation
import LinkTidy.Proofs.Store.Contents
/-!
A batch that comes a second time changes nothing and gives no line to the compiler. In the first one the lines of each
source are given to the compiler at most once.
-/

set_option autoImplicit false

namespace LinkTidy.Store

open Utf8 (Valid)
open Digest (contentHash)

-- All lines that the compiler is given in a batch, each with the id of its source.
def handed (compiler : LineCompiler) (store : Store) (sources : List RawSource) : List (Text × Text) :=
  (turns compiler store sources).flatMap fun turn => (linesHanded turn.1 turn.2).map fun line => (turn.2.id, line)

-- Those that it is given for one id.
def handedFor (compiler : LineCompiler) (store : Store) (sources : List RawSource) (id : Text) : List Text :=
  ((handed compiler store sources).filter fun entry => entry.1 == id).map (·.2)

theorem handed_cons (compiler : LineCompiler) (store : Store) (source : RawSource) (rest : List RawSource) :
    handed compiler store (source :: rest) =
      ((linesHanded store source).map fun line => (source.id, line)) ++
        handed compiler (afterSource compiler store source) rest := rfl

theorem handed_for_cons (compiler : LineCompiler) (store : Store) (source : RawSource) (rest : List RawSource)
    (id : Text) :
    handedFor compiler store (source :: rest) id =
      (if source.id = id then linesHanded store source else []) ++
        handedFor compiler (afterSource compiler store source) rest id := by
  rw [handedFor, handed_cons, List.filter_append, List.map_append, List.filter_map]
  by_cases own : source.id = id
  · simp [own, handedFor, Function.comp_def]
  · simp [own, handedFor, Function.comp_def]

theorem total_lines_handed (compiler : LineCompiler) (store : Store) (sources : List RawSource) :
    totalLines compiler store sources = (handed compiler store sources).length := by
  induction sources generalizing store with
  | nil => rfl
  | cons source rest ih =>
      rw [total_lines_cons, handed_cons, List.length_append, List.length_map, lines_given_handed, ih]

theorem turns_agree (some other : LineCompiler) (store : Store) (sources : List RawSource)
    (agree : ∀ entry ∈ handed some store sources, some entry.2 = other entry.2) :
    afterSources some store sources = afterSources other store sources ∧
      turns some store sources = turns other store sources := by
  induction sources generalizing store with
  | nil => exact ⟨rfl, rfl⟩
  | cons source rest ih =>
      rw [handed_cons] at agree
      have here : afterSource some store source = afterSource other store source := by
        apply turn_agrees
        intro line given
        exact agree (source.id, line) (List.mem_append_left _ (List.mem_map_of_mem given))
      obtain ⟨left, later⟩ := ih (afterSource some store source)
        fun entry member => agree entry (List.mem_append_right _ member)
      rw [after_sources_cons, after_sources_cons, turns, turns, ← here, left, later]
      exact ⟨rfl, rfl⟩

-- Equal ids stand for equal bytes.
def SameBytes (sources : List RawSource) : Prop :=
  ∀ source ∈ sources, ∀ other ∈ sources, source.id = other.id → source.bytes = other.bytes

instance (sources : List RawSource) : Decidable (SameBytes sources) :=
  inferInstanceAs (Decidable (∀ source ∈ sources, ∀ other ∈ sources, _))

theorem same_source (source other : RawSource) (id : source.id = other.id) (bytes : source.bytes = other.bytes) :
    source = other := by
  cases source
  cases other
  cases id
  cases bytes
  rfl

section

variable (compiler : LineCompiler) (store : Store)

-- A turn with other bytes under the id is all that could take a digest away.
theorem holds_behind_turn (source other : RawSource) (valid : Valid source.bytes)
    (same : source.id = other.id → source.bytes = other.bytes) :
    (afterSource compiler store source).Holds other ↔ store.Holds other ∨ source.id = other.id := by
  by_cases own : source.id = other.id
  · rw [← same_source source other own (same own)]
    obtain ⟨id, bytes⟩ := source
    obtain ⟨text, rfl⟩ := valid
    exact ⟨fun _ => .inr rfl, fun _ => turn_holds compiler store id text⟩
  · have untouched := held_by_others compiler store source other.id own
    rw [Holds, Holds, hash_for_held, hash_for_held, untouched, or_iff_left own]

theorem holds_behind_turns (sources : List RawSource) (readable : ∀ source ∈ sources, Valid source.bytes)
    (other : RawSource) (same : ∀ source ∈ sources, source.id = other.id → source.bytes = other.bytes) :
    (afterSources compiler store sources).Holds other ↔
      store.Holds other ∨ ∃ source ∈ sources, source.id = other.id := by
  induction sources generalizing store with
  | nil => simp [afterSources]
  | cons source rest ih =>
      have here := holds_behind_turn compiler store source other (readable source List.mem_cons_self)
        (same source List.mem_cons_self)
      rw [after_sources_cons,
        ih _ (fun later member => readable later (List.mem_cons_of_mem _ member))
          (fun later member => same later (List.mem_cons_of_mem _ member)), here, or_assoc]
      simp only [List.mem_cons, exists_eq_or_imp]

theorem all_held_behind (sources : List RawSource) (readable : ∀ source ∈ sources, Valid source.bytes)
    (same : SameBytes sources) : ∀ source ∈ sources, (afterSources compiler store sources).Holds source := by
  intro source member
  rw [holds_behind_turns compiler store sources readable source fun other also => same other also source member]
  exact .inr ⟨source, member, rfl⟩

theorem handed_ids (sources : List RawSource) :
    ∀ entry ∈ handed compiler store sources, entry.1 ∈ sources.map (·.id) := by
  induction sources generalizing store with
  | nil => exact fun entry member => absurd member List.not_mem_nil
  | cons source rest ih =>
      intro entry member
      rw [handed_cons] at member
      rcases List.mem_append.mp member with here | later
      · obtain ⟨line, -, rfl⟩ := List.mem_map.mp here
        exact List.mem_cons_self
      · exact List.mem_cons_of_mem _ (ih _ entry later)

-- Where every digest is held the turns leave the store as it is.
theorem turns_of_held (sources : List RawSource) (readable : ∀ source ∈ sources, Valid source.bytes)
    (held : ∀ source ∈ sources, store.Holds source) :
    afterSources compiler store sources = store ∧
      turns compiler store sources = sources.map fun source => (store, source) := by
  induction sources with
  | nil => exact ⟨rfl, rfl⟩
  | cons source rest ih =>
      have here : afterSource compiler store source = store := by
        obtain ⟨id, bytes⟩ := source
        obtain ⟨text, rfl⟩ := readable _ List.mem_cons_self
        exact (turn_held compiler store id text (held _ List.mem_cons_self)).1
      obtain ⟨left, later⟩ := ih (fun next member => readable next (List.mem_cons_of_mem _ member))
        fun next member => held next (List.mem_cons_of_mem _ member)
      rw [after_sources_cons, turns, here, later]
      exact ⟨left, rfl⟩

theorem handed_of_held (sources : List RawSource) (readable : ∀ source ∈ sources, Valid source.bytes)
    (held : ∀ source ∈ sources, store.Holds source) : handed compiler store sources = [] := by
  rw [handed, (turns_of_held compiler store sources readable held).2, List.flatMap_map, List.flatMap_eq_nil_iff]
  intro source member
  rw [linesHanded, if_pos (held source member), List.map_nil]

-- The first turn of a source has its lines, if they are due at all, and every later one finds its digest held.
theorem handed_for_source (sources : List RawSource) (readable : ∀ source ∈ sources, Valid source.bytes)
    (source : RawSource) (same : ∀ other ∈ sources, other.id = source.id → other.bytes = source.bytes) :
    handedFor compiler store sources source.id =
      if source.id ∈ sources.map (·.id) then linesHanded store source else [] := by
  induction sources generalizing store with
  | nil => rfl
  | cons first rest ih =>
      have holds := holds_behind_turn compiler store first source (readable first List.mem_cons_self)
        (same first List.mem_cons_self)
      rw [handed_for_cons, ih _ (fun later member => readable later (List.mem_cons_of_mem _ member))
        fun later member => same later (List.mem_cons_of_mem _ member)]
      by_cases own : first.id = source.id
      · have equal := same_source first source own (same first List.mem_cons_self own)
        have nothing : linesHanded (afterSource compiler store first) source = [] := if_pos (holds.mpr (.inr own))
        rw [nothing, ite_self, List.append_nil, if_pos own, equal, if_pos (by simp)]
      · have unchanged : linesHanded (afterSource compiler store first) source = linesHanded store source := by
          rw [or_iff_left own] at holds
          rw [linesHanded, linesHanded, if_congr holds rfl rfl]
        rw [unchanged, if_neg own, List.nil_append, List.map_cons]
        simp [Ne.symm own]

-- The rules of a source whose digest was not held are those of the lines at its first turn.
theorem rules_behind_turns (sources : List RawSource) (readable : ∀ source ∈ sources, Valid source.bytes)
    (source : RawSource) (member : source ∈ sources)
    (same : ∀ other ∈ sources, other.id = source.id → other = source) (differs : ¬ store.Holds source) :
    (afterSources compiler store sources).rulesFor source.id =
      some (compileLines compiler (linesHanded store source)) := by
  have copies : ∀ other ∈ sources.filter (fun other => other.id == source.id), other = source := by
    intro other inside
    obtain ⟨there, own⟩ := List.mem_filter.mp inside
    exact same other there (beq_iff_eq.mp own)
  rw [rules_for_held, held_by_own_turns compiler store store sources source.id rfl]
  cases own : sources.filter (fun other => other.id == source.id) with
  | nil =>
      have inside : source ∈ sources.filter (fun other => other.id == source.id) :=
        List.mem_filter.mpr ⟨member, beq_self_eq_true _⟩
      rw [own] at inside
      cases inside
  | cons first more =>
      rw [own] at copies
      obtain rfl := copies first List.mem_cons_self
      have valid := readable first member
      have holds := (holds_behind_turn compiler store first first valid fun _ => rfl).mpr (.inr rfl)
      -- The further turns of the source find its digest held.
      have stays := turns_of_held compiler (afterSource compiler store first) more
        (fun other also => copies other (List.mem_cons_of_mem _ also) ▸ valid)
        (fun other also => copies other (List.mem_cons_of_mem _ also) ▸ holds)
      rw [after_sources_cons, stays.1]
      obtain ⟨id, bytes⟩ := first
      obtain ⟨text, rfl⟩ := valid
      rw [(turn_compiled compiler store id text differs).1, held_put, if_pos rfl, lines_handed_text, if_neg differs]
      rfl

end

theorem holds_not_iff (store : Store) (source : RawSource) :
    ¬ store.Holds source ↔
      store.hashFor source.id = none ∨
        ∃ hash, store.hashFor source.id = some hash ∧ hash ≠ contentHash source.bytes := by
  rw [Holds]
  cases store.hashFor source.id with
  | none => simp
  | some hash => simp

section

variable (store : Store) (compiler : LineCompiler) (sources : List RawSource)
  (readable : ∀ source ∈ sources, Valid source.bytes)

include readable

theorem update_all_held (held : ∀ source ∈ sources, store.Holds source) :
    store.updateAll compiler (fun _ => false) (sources.map .ok) =
      ({
        store := store
        summary := {
          sources := sources.length
          recompiled := 0
          skipped := sources.length
          totalRules := store.totalRules }
        calls := 0 }, none) := by
  obtain ⟨left, each⟩ := turns_of_held compiler store sources readable held
  have compiled : (turns compiler store sources).countP (fun turn => ¬ turn.1.Holds turn.2) = 0 := by
    rw [each, List.countP_map, List.countP_eq_zero]
    intro source member
    simpa using held source member
  have both := turns_held_or_compiled compiler store sources
  rw [compiled, Nat.zero_add] at both
  rw [update_all_uncancelled store compiler sources readable, left, compiled, both,
    total_lines_handed, handed_of_held compiler store sources readable held]
  rfl

theorem update_all_agrees (other : LineCompiler)
    (agree : ∀ entry ∈ handed compiler store sources, compiler entry.2 = other entry.2) :
    store.updateAll other (fun _ => false) (sources.map .ok) =
      store.updateAll compiler (fun _ => false) (sources.map .ok) := by
  obtain ⟨left, each⟩ := turns_agree compiler other store sources agree
  rw [update_all_uncancelled store compiler sources readable, update_all_uncancelled store other sources readable,
    total_lines_handed, total_lines_handed, handed, handed, left, each]

end

-- After a batch that nothing cancelled the same batch finds every digest held: whatever the compiler is by then, it is
-- given no line, and all entries stay with their stamps. In the first batch it was given, once and to make the source's
-- rules, the lines of each source whose digest was not held; what it would make of any other line does not matter.
theorem repeated_batch_changes_nothing (store : Store) (compiler : LineCompiler) (sources : List RawSource)
    (readable : ∀ source ∈ sources, Valid source.bytes) (same : SameBytes sources) :
    ∃ first : Progress,
      store.updateAll compiler (fun _ => false) (sources.map .ok) = (first, none) ∧
      (∀ later : LineCompiler, first.store.updateAll later (fun _ => false) (sources.map .ok) =
        ({
          store := first.store
          summary := {
            sources := sources.length
            recompiled := 0
            skipped := sources.length
            totalRules := first.summary.totalRules
            cancelled := false }
          calls := 0 }, none)) ∧
      first.calls = (handed compiler store sources).length ∧
      (∀ entry ∈ handed compiler store sources, entry.1 ∈ sources.map (·.id)) ∧
      (∀ source ∈ sources, ∀ text, Utf8.encode text = source.bytes →
        handedFor compiler store sources source.id = if store.Holds source then [] else lines text) ∧
      (∀ source ∈ sources, ¬ store.Holds source →
        first.store.rulesFor source.id =
          some (compileLines compiler (handedFor compiler store sources source.id))) ∧
      (∀ source, ¬ store.Holds source ↔
        store.hashFor source.id = none ∨
          ∃ hash, store.hashFor source.id = some hash ∧ hash ≠ contentHash source.bytes) ∧
      ∀ other : LineCompiler, (∀ entry ∈ handed compiler store sources, compiler entry.2 = other entry.2) →
        store.updateAll other (fun _ => false) (sources.map .ok) = (first, none) := by
  have once := update_all_uncancelled store compiler sources readable
  have each : ∀ source ∈ sources, handedFor compiler store sources source.id = linesHanded store source := by
    intro source member
    rw [handed_for_source compiler store sources readable source fun other also => same other also source member,
      if_pos (List.mem_map_of_mem member)]
  refine ⟨_, once, ?_, total_lines_handed compiler store sources, handed_ids compiler store sources, ?_, ?_,
    holds_not_iff store, ?_⟩
  · intro later
    exact update_all_held _ later sources readable (all_held_behind compiler store sources readable same)
  · intro source member text encoded
    rw [each source member]
    obtain ⟨id, bytes⟩ := source
    cases encoded
    exact lines_handed_text store id text
  · intro source member differs
    rw [each source member]
    apply rules_behind_turns compiler store sources readable source member _ differs
    exact fun other also own => same_source other source own (same other also source member own)
  · intro other agree
    rw [update_all_agrees store compiler sources readable other agree, once]

-- One source is held, one is held with another digest and comes twice, and one is new.
theorem repeated_batch_of_three_sources :
    let compiler : LineCompiler := fun line => some [.general (.token line)]
    let store := afterSources compiler .empty [⟨['a'], [0x75]⟩, ⟨['b'], [0x76]⟩]
    let sources : List RawSource :=
      [⟨['b'], [0x77, 0x0A, 0x77]⟩, ⟨['a'], [0x75]⟩, ⟨['b'], [0x77, 0x0A, 0x77]⟩, ⟨['c'], []⟩]
    (∀ source ∈ sources, Valid source.bytes) ∧ SameBytes sources ∧
      handedFor compiler store sources ['b'] = [['w'], ['w']] ∧
      handedFor compiler store sources ['a'] = [] ∧
      ∃ first : Progress,
        store.updateAll compiler (fun _ => false) (sources.map .ok) = (first, none) ∧ first.calls = 2 ∧
          first.store.updateAll (fun _ => none) (fun _ => false) (sources.map .ok) =
            ({ store := first.store, summary := { sources := 4, skipped := 4, totalRules := 3 }, calls := 0 }, none) := by
  intro compiler store sources
  have readable : ∀ source ∈ sources, Valid source.bytes := by decide +kernel
  have same : SameBytes sources := by decide +kernel
  obtain ⟨first, once, again, counted, -, each, -⟩ :=
    repeated_batch_changes_nothing store compiler sources readable same
  refine ⟨readable, same, ?_, ?_, first, once, counted.trans (by decide +kernel), ?_⟩
  · refine (each ⟨['b'], [0x77, 0x0A, 0x77]⟩ (by decide) ['w', '\n', 'w'] (by decide +kernel)).trans ?_
    decide +kernel
  · exact (each ⟨['a'], [0x75]⟩ (by decide) ['u'] (by decide +kernel)).trans (by decide +kernel)
  · have total : first.summary.totalRules = 3 := by
      have done := congrArg (fun result => result.1.summary.totalRules) once
      exact done.symm.trans (by decide +kernel)
    rw [again, total]
    rfl

end LinkTidy.Store
