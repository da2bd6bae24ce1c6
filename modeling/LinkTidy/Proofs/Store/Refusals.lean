import LinkTidy.Proofs.Store.Turns
/-!
A batch is refused as a whole or not at all: for its first unavailable source if there is one, else for its first source
that is no text. A refused batch gives no line to the compiler and leaves the store as it was.
-/

set_option autoImplicit false

namespace LinkTidy.Store

open Utf8 (Valid LongestValid)

-- A batch that has to be refused, and the error to refuse it with.
inductive Refused : List (Except SourceError RawSource) → SourceError → Prop where
  | unavailable (front : List RawSource) (e : SourceError) (behind : List (Except SourceError RawSource)) :
      Refused (front.map .ok ++ .error e :: behind) e
  | undecodable (front behind : List RawSource) (source : RawSource) (n : Nat)
      (readable : ∀ earlier ∈ front, Valid earlier.bytes) (invalid : ¬ Valid source.bytes)
      (longest : LongestValid source.bytes n) :
      Refused ((front ++ source :: behind).map .ok) (.undecodable source.id n)

theorem available_all (sources : List RawSource) : available (sources.map .ok) = .ok sources := by
  induction sources with
  | nil => rfl
  | cons source rest ih => rw [List.map_cons, available, ih]

theorem available_error (front : List RawSource) (e : SourceError) (behind : List (Except SourceError RawSource)) :
    available (front.map .ok ++ .error e :: behind) = .error e := by
  induction front with
  | nil => rfl
  | cons source rest ih => rw [List.map_cons, List.cons_append, available, ih]

theorem all_available_or_error (items : List (Except SourceError RawSource)) :
    (∃ sources : List RawSource, items = sources.map .ok) ∨
      ∃ (front : List RawSource) (e : SourceError) (behind : List (Except SourceError RawSource)),
        items = front.map .ok ++ .error e :: behind := by
  induction items with
  | nil => exact .inl ⟨[], rfl⟩
  | cons item rest ih =>
      cases item with
      | error e => exact .inr ⟨[], e, rest, rfl⟩
      | ok source =>
          rcases ih with ⟨sources, rfl⟩ | ⟨front, e, behind, rfl⟩
          · exact .inl ⟨source :: sources, rfl⟩
          · exact .inr ⟨source :: front, e, behind, rfl⟩

theorem longest_valid_unique (bytes : Bytes) (n m : Nat) (one : LongestValid bytes n) (other : LongestValid bytes m) :
    n = m := by
  obtain ⟨⟨start, begins, valid, rfl⟩, longest⟩ := one
  obtain ⟨⟨start', begins', valid', rfl⟩, longest'⟩ := other
  exact Nat.le_antisymm (longest' start begins valid) (longest start' begins' valid')

theorem first_undecodable_none (sources : List RawSource) (readable : ∀ source ∈ sources, Valid source.bytes) :
    firstUndecodable sources = none := by
  induction sources with
  | nil => rfl
  | cons source rest ih =>
      obtain ⟨text, read⟩ := decode_source_valid source.id source.bytes (readable source List.mem_cons_self)
      rw [firstUndecodable, read]
      exact ih fun later member => readable later (List.mem_cons_of_mem _ member)

theorem first_undecodable_behind (front behind : List RawSource) (source : RawSource) (n : Nat)
    (readable : ∀ earlier ∈ front, Valid earlier.bytes) (invalid : ¬ Valid source.bytes)
    (longest : LongestValid source.bytes n) :
    firstUndecodable (front ++ source :: behind) = some (.undecodable source.id n) := by
  induction front with
  | nil =>
      obtain ⟨m, known, refused⟩ := decode_source_invalid source.id source.bytes invalid
      rw [List.nil_append, firstUndecodable, refused, longest_valid_unique source.bytes m n known longest]
  | cons earlier rest ih =>
      obtain ⟨text, read⟩ := decode_source_valid earlier.id earlier.bytes (readable earlier List.mem_cons_self)
      rw [List.cons_append, firstUndecodable, read]
      exact ih fun later member => readable later (List.mem_cons_of_mem _ member)

theorem all_readable_or_first (sources : List RawSource) :
    (∀ source ∈ sources, Valid source.bytes) ∨
      ∃ front source behind, sources = front ++ source :: behind ∧ (∀ earlier ∈ front, Valid earlier.bytes) ∧
        ¬ Valid source.bytes := by
  induction sources with
  | nil => exact .inl fun source member => by cases member
  | cons source rest ih =>
      by_cases valid : Valid source.bytes
      · rcases ih with readable | ⟨front, bad, behind, rfl, readable, invalid⟩
        · exact .inl (List.forall_mem_cons.mpr ⟨valid, readable⟩)
        · exact .inr ⟨source :: front, bad, behind, rfl, List.forall_mem_cons.mpr ⟨valid, readable⟩, invalid⟩
      · exact .inr ⟨[], source, rest, rfl, fun _ member => absurd member List.not_mem_nil, valid⟩

theorem refused_or_readable (items : List (Except SourceError RawSource)) :
    (∃ e, Refused items e) ∨
      ∃ sources : List RawSource, items = sources.map .ok ∧ ∀ source ∈ sources, Valid source.bytes := by
  rcases all_available_or_error items with ⟨sources, rfl⟩ | ⟨front, e, behind, rfl⟩
  · rcases all_readable_or_first sources with readable | ⟨front, source, behind, rfl, readable, invalid⟩
    · exact .inr ⟨sources, rfl, readable⟩
    · obtain ⟨n, longest, -⟩ := decode_source_invalid source.id source.bytes invalid
      exact .inl ⟨_, .undecodable front behind source n readable invalid longest⟩
  · exact .inl ⟨e, .unavailable front e behind⟩

section

variable (store : Store) (compiler : LineCompiler) (cancelled : Nat → Bool)

theorem update_all_refused (items : List (Except SourceError RawSource)) (e : SourceError) (refused : Refused items e) :
    store.updateAll compiler cancelled items = (⟨store, {}, 0⟩, some e) := by
  cases refused with
  | unavailable front e behind => rw [updateAll, available_error]
  | undecodable front behind source n readable invalid longest =>
      rw [updateAll, available_all]
      simp only [first_undecodable_behind front behind source n readable invalid longest]

theorem update_all_stops (sources : List RawSource) (readable : ∀ source ∈ sources, Valid source.bytes) (k : Nat)
    (stops : StopsAt compiler cancelled ⟨store, {}, 0⟩ sources k) :
    store.updateAll compiler cancelled (sources.map .ok) =
      ({
        store := afterSources compiler store (sources.take k)
        summary := {
          sources := k
          recompiled := (turns compiler store (sources.take k)).countP fun turn => ¬ turn.1.Holds turn.2
          skipped := (turns compiler store (sources.take k)).countP fun turn => turn.1.Holds turn.2
          totalRules := (afterSources compiler store (sources.take k)).totalRules
          cancelled := decide (k < sources.length) }
        calls := totalLines compiler store (sources.take k) }, none) := by
  have done := update_each_stops compiler cancelled ⟨store, {}, 0⟩ sources readable k stops
  rw [updateAll, available_all]
  simp only [first_undecodable_none sources readable, done, proceed_all, Progress.stopped, List.length_take,
    Nat.min_eq_left stops.bound, Nat.zero_add, Bool.false_or]

-- A batch that nothing cancels comes to every source.
theorem update_all_uncancelled (sources : List RawSource) (readable : ∀ source ∈ sources, Valid source.bytes) :
    store.updateAll compiler (fun _ => false) (sources.map .ok) =
      ({
        store := afterSources compiler store sources
        summary := {
          sources := sources.length
          recompiled := (turns compiler store sources).countP fun turn => ¬ turn.1.Holds turn.2
          skipped := (turns compiler store sources).countP fun turn => turn.1.Holds turn.2
          totalRules := (afterSources compiler store sources).totalRules }
        calls := totalLines compiler store sources }, none) := by
  have stops : StopsAt compiler (fun _ => false) ⟨store, {}, 0⟩ sources sources.length :=
    ⟨Nat.le_refl _, fun _ _ => rfl, fun more => absurd more (Nat.lt_irrefl _)⟩
  rw [update_all_stops store compiler _ sources readable _ stops, List.take_length,
    decide_eq_false (Nat.lt_irrefl sources.length)]

end

theorem refused_iff_bad (items : List (Except SourceError RawSource)) :
    (∃ e, Refused items e) ↔
      ∃ item ∈ items, (∃ e, item = .error e) ∨ ∃ source, item = .ok source ∧ ¬ Valid source.bytes := by
  constructor
  · rintro ⟨e, refused⟩
    cases refused with
    | unavailable front e behind => exact ⟨.error e, by simp, .inl ⟨e, rfl⟩⟩
    | undecodable front behind source n readable invalid longest =>
        exact ⟨.ok source, by simp, .inr ⟨source, rfl, invalid⟩⟩
  · rintro ⟨item, member, bad⟩
    rcases refused_or_readable items with refused | ⟨sources, rfl, readable⟩
    · exact refused
    · obtain ⟨source, inside, rfl⟩ := List.mem_map.mp member
      rcases bad with ⟨e, error⟩ | ⟨other, same, invalid⟩
      · cases error
      · cases same
        exact absurd (readable source inside) invalid

-- Whatever the store, the compiler and the flag: which batches are refused and for what, that nothing has happened then,
-- and that no source of a batch that is let through is refused in its turn.
theorem update_all_all_or_nothing (store : Store) (compiler : LineCompiler) (cancelled : Nat → Bool)
    (items : List (Except SourceError RawSource)) :
    (∀ e, (store.updateAll compiler cancelled items).2 = some e ↔ Refused items e) ∧
      ((store.updateAll compiler cancelled items).2 ≠ none ↔
        ∃ item ∈ items, (∃ e, item = .error e) ∨ ∃ source, item = .ok source ∧ ¬ Valid source.bytes) ∧
      ((store.updateAll compiler cancelled items).2 ≠ none →
        (store.updateAll compiler cancelled items).1 = { store := store, calls := 0 }) ∧
      ∀ sources, available items = .ok sources → firstUndecodable sources = none →
        ∀ source ∈ sources, ∀ other : Store, ∃ updated,
          other.updateBytes compiler source.id source.bytes = .ok updated := by
  have let_through : ∀ sources : List RawSource, (∀ source ∈ sources, Valid source.bytes) →
      (store.updateAll compiler cancelled (sources.map .ok)).2 = none := by
    intro sources readable
    rw [update_all_stops store compiler cancelled sources readable _ (turns_taken_stops compiler cancelled store sources)]
  have cause : ∀ e, (store.updateAll compiler cancelled items).2 = some e ↔ Refused items e := by
    intro e
    constructor
    · intro failed
      rcases refused_or_readable items with ⟨other, refused⟩ | ⟨sources, rfl, readable⟩
      · rw [update_all_refused store compiler cancelled items other refused] at failed
        rwa [← Option.some.inj failed]
      · rw [let_through sources readable] at failed
        cases failed
    · intro refused
      rw [update_all_refused store compiler cancelled items e refused]
  refine ⟨cause, ?_, ?_, ?_⟩
  · rw [← refused_iff_bad, Option.ne_none_iff_exists']
    exact exists_congr cause
  · intro failed
    obtain ⟨e, known⟩ := Option.ne_none_iff_exists'.mp failed
    rw [update_all_refused store compiler cancelled items e ((cause e).mp known)]
  · intro sources taken none_bad source member other
    have valid : Valid source.bytes := by
      rcases all_readable_or_first sources with readable | ⟨front, bad, behind, rfl, readable, invalid⟩
      · exact readable source member
      · obtain ⟨n, longest, -⟩ := decode_source_invalid bad.id bad.bytes invalid
        rw [first_undecodable_behind front behind bad n readable invalid longest] at none_bad
        cases none_bad
    obtain ⟨id, bytes⟩ := source
    obtain ⟨text, rfl⟩ := valid
    exact ⟨_, update_bytes_text other compiler id text⟩

-- The unavailable source counts although one that is no text stands before it; without it that one does, and a source
-- behind it whose turn never comes is no matter.
theorem update_all_refuses_for_later_source :
    let store : Store := { entries := [⟨['a'], ['0'], [.general (.token ['u'])], 0⟩], nextStamp := 1 }
    let cut : RawSource := ⟨['b'], [0x61, 0xC3, 0xA9, 0xE2, 0x82]⟩
    let gone : SourceError := .unavailable ['c'] "gone".toList
    let compiler : LineCompiler := fun _ => some []
    store.updateAll compiler (fun _ => true) [.ok cut, .error gone] = ({ store := store }, some gone) ∧
      store.updateAll compiler (fun _ => true) [.ok ⟨['a'], [0x61]⟩, .ok cut] =
        ({ store := store }, some (.undecodable ['b'] 3)) ∧
      ∃ updated, store.updateBytes compiler ['a'] [0x61] = .ok updated := by
  intro store cut gone compiler
  have first := update_all_all_or_nothing store compiler (fun _ => true) [.ok cut, .error gone]
  have second := update_all_all_or_nothing store compiler (fun _ => true) [.ok ⟨['a'], [0x61]⟩, .ok cut]
  have third := update_all_all_or_nothing store compiler (fun _ => true) [.ok ⟨['a'], [0x61]⟩]
  have forGone := (first.1 gone).mpr (.unavailable [cut] gone [])
  have longest : LongestValid cut.bytes 3 :=
    Utf8.decode_longest cut.bytes ⟨3, none⟩ (by decide +kernel)
  have forCut := (second.1 (.undecodable ['b'] 3)).mpr
    (.undecodable [⟨['a'], [0x61]⟩] [] cut 3 (by decide +kernel) (by decide +kernel) longest)
  refine ⟨Prod.ext (first.2.2.1 ?_) forGone, Prod.ext (second.2.2.1 ?_) forCut, ?_⟩
  · rw [forGone]
    exact Option.some_ne_none _
  · rw [forCut]
    exact Option.some_ne_none _
  · exact third.2.2.2 [⟨['a'], [0x61]⟩] rfl (by decide +kernel) ⟨['a'], [0x61]⟩ List.mem_cons_self store

end LinkTidy.Store
