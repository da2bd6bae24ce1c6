import LinkTidy.Proofs.Digest
import LinkTidy.Proofs.Store.Refusals
/-!
A batch that is cancelled has processed the first of its sources and nothing of the others, and its summary counts them.
-/

set_option autoImplicit false

namespace LinkTidy.Store

open Utf8 (Valid)
open Digest (contentHash)

-- Two compilers make the same of every line of some sources.
def Agree (some other : LineCompiler) (sources : List RawSource) : Prop :=
  ∀ source ∈ sources, ∀ text, Utf8.encode text = source.bytes → ∀ line ∈ lines text, some line = other line

theorem proceed_congr (some other : LineCompiler) (source : RawSource) (progress : Progress)
    (agree : ∀ line ∈ linesHanded progress.store source, some line = other line) :
    proceed some progress source = proceed other progress source := by
  rw [proceed, proceed, turn_agrees some other progress.store source agree, lines_given_handed, lines_given_handed]

theorem proceed_all_congr (some other : LineCompiler) (sources : List RawSource) (progress : Progress)
    (agree : Agree some other sources) :
    sources.foldl (proceed some) progress = sources.foldl (proceed other) progress := by
  induction sources generalizing progress with
  | nil => rfl
  | cons source rest ih =>
      have here : proceed some progress source = proceed other progress source := by
        apply proceed_congr
        intro line given
        obtain ⟨text, encoded, stands⟩ := mem_lines_handed progress.store source line given
        exact agree source List.mem_cons_self text encoded line stands
      rw [List.foldl_cons, List.foldl_cons, here]
      exact ih _ fun later member => agree later (List.mem_cons_of_mem _ member)

-- Where a batch stops, and all that it does before, is decided by the lines of the sources whose turns it comes to.
theorem stops_congr (some other : LineCompiler) (cancelled : Nat → Bool) (progress : Progress)
    (sources : List RawSource) (k : Nat) (agree : Agree some other (sources.take k))
    (stops : StopsAt some cancelled progress sources k) : StopsAt other cancelled progress sources k := by
  have same : ∀ j ≤ k, (sources.take j).foldl (proceed other) progress = (sources.take j).foldl (proceed some) progress := by
    intro j within
    refine (proceed_all_congr some other _ progress fun source member => agree source ?_).symm
    exact (List.take_subset_take_left sources within) member
  refine ⟨stops.bound, ?_, ?_⟩
  · intro j earlier
    rw [same j (Nat.le_of_lt earlier)]
    exact stops.before j earlier
  · intro more
    rw [same k (Nat.le_refl k)]
    exact stops.seen more

theorem agreeing_batch (some other : LineCompiler) (cancelled : Nat → Bool) (store : Store) (sources : List RawSource)
    (readable : ∀ source ∈ sources, Valid source.bytes) (k : Nat) (agree : Agree some other (sources.take k))
    (stops : StopsAt some cancelled ⟨store, {}, 0⟩ sources k) :
    store.updateAll other cancelled (sources.map .ok) = store.updateAll some cancelled (sources.map .ok) := by
  have also := stops_congr some other cancelled ⟨store, {}, 0⟩ sources k agree stops
  have same := proceed_all_congr some other (sources.take k) ⟨store, {}, 0⟩ agree
  rw [updateAll, updateAll, available_all]
  simp only [first_undecodable_none sources readable, update_each_stops _ cancelled _ sources readable k stops,
    update_each_stops _ cancelled _ sources readable k also, same]

theorem turns_length (compiler : LineCompiler) (store : Store) (sources : List RawSource) :
    (turns compiler store sources).length = sources.length := by
  induction sources generalizing store with
  | nil => rfl
  | cons source rest ih => rw [turns, List.length_cons, ih, List.length_cons]

theorem turns_held_or_compiled (compiler : LineCompiler) (store : Store) (sources : List RawSource) :
    ((turns compiler store sources).countP fun turn => ¬ turn.1.Holds turn.2) +
        ((turns compiler store sources).countP fun turn => turn.1.Holds turn.2) = sources.length := by
  rw [← turns_length compiler store sources,
    List.length_eq_countP_add_countP (fun turn => decide (turn.1.Holds turn.2)), Nat.add_comm]
  simp

theorem holds_iff_hash (store : Store) (source : RawSource) (held : Bytes)
    (known : store.hashFor source.id = some (contentHash held)) :
    store.Holds source ↔ Digest.hash held = Digest.hash source.bytes := by
  rw [Holds, known, Option.some.injEq, Digest.content_hash_eq_iff]

-- A batch that can be read has come to its first `k` sources, where the flag is first seen before turn `k` if at all:
-- what is left is what these sources leave when they are updated one at a time, and what the compiler would make of the
-- lines of the other sources does not matter.
theorem cancelled_batch_takes_first_sources (store : Store) (compiler : LineCompiler) (cancelled : Nat → Bool)
    (sources : List RawSource) (readable : ∀ source ∈ sources, Valid source.bytes) :
    (∃ k ≤ sources.length,
      (∀ j < k, cancelled (totalLines compiler store (sources.take j)) = false) ∧
      (k < sources.length → cancelled (totalLines compiler store (sources.take k)) = true) ∧
      (∃ recompiled skipped, recompiled + skipped = k ∧
        recompiled = ((turns compiler store (sources.take k)).countP fun turn => ¬ turn.1.Holds turn.2) ∧
        store.updateAll compiler cancelled (sources.map .ok) =
          ({
            store := afterSources compiler store (sources.take k)
            summary := {
              sources := k
              recompiled := recompiled
              skipped := skipped
              totalRules := (afterSources compiler store (sources.take k)).totalRules
              cancelled := decide (k < sources.length) }
            calls := totalLines compiler store (sources.take k) }, none)) ∧
      ∀ other : LineCompiler, Agree compiler other (sources.take k) →
        store.updateAll other cancelled (sources.map .ok) = store.updateAll compiler cancelled (sources.map .ok)) ∧
    ∀ (now : Store) (source : RawSource) (held : Bytes), now.hashFor source.id = some (contentHash held) →
      (now.Holds source ↔ Digest.hash held = Digest.hash source.bytes) := by
  refine ⟨⟨turnsTaken compiler cancelled store sources, ?_⟩, holds_iff_hash⟩
  have stops := turns_taken_stops compiler cancelled store sources
  have done := update_all_stops store compiler cancelled sources readable _ stops
  have both := turns_held_or_compiled compiler store (sources.take (turnsTaken compiler cancelled store sources))
  rw [List.length_take, Nat.min_eq_left stops.bound] at both
  refine ⟨stops.bound, ?_, ?_, ⟨_, _, both, rfl, done⟩, ?_⟩
  · intro j earlier
    have down := stops.before j earlier
    rw [proceed_all] at down
    simpa using down
  · intro more
    have up := stops.seen more
    rw [proceed_all] at up
    simpa using up
  · intro other agree
    exact agreeing_batch compiler other cancelled store sources readable _ agree stops

-- The flag goes up while the second line is compiled: the first source is finished, and the others are not begun. Where
-- it goes up while the last line is compiled the batch is not cancelled, and the repeated source has been skipped.
theorem cancelled_batch_of_repeated_source :
    let compiler : LineCompiler := fun line => some [.general (.token line)]
    let sources : List RawSource := [⟨['a'], [0x75, 0x0A, 0x76]⟩, ⟨['a'], [0x75, 0x0A, 0x76]⟩, ⟨['b'], [0x77]⟩]
    (∀ source ∈ sources, Valid source.bytes) ∧
      (Store.empty.updateAll compiler (fun n => 2 ≤ n) (sources.map .ok)).1.summary =
        { sources := 1, recompiled := 1, skipped := 0, totalRules := 2, cancelled := true } ∧
      (Store.empty.updateAll compiler (fun n => 3 ≤ n) (sources.map .ok)).1.summary =
        { sources := 3, recompiled := 2, skipped := 1, totalRules := 3, cancelled := false } ∧
      (afterSource compiler Store.empty ⟨['a'], [0x75]⟩).Holds ⟨['a'], [0x75]⟩ := by
  intro compiler sources
  have readable : ∀ source ∈ sources, Valid source.bytes := by decide +kernel
  refine ⟨readable, ?_, ?_, ?_⟩
  · obtain ⟨⟨k, bound, before, seen, ⟨recompiled, skipped, both, counted, done⟩, -⟩, -⟩ :=
      cancelled_batch_takes_first_sources Store.empty compiler (fun n => 2 ≤ n) sources readable
    have first : k = 1 := by
      have most : ¬ 1 < k := fun late => absurd (before 1 late) (by decide +kernel)
      have least : k ≠ 0 := by
        rintro rfl
        exact absurd (seen (by decide)) (by decide +kernel)
      omega
    subst first
    have compiled : recompiled = 1 := counted.trans (by decide +kernel)
    have none_skipped : skipped = 0 := by omega
    rw [done, compiled, none_skipped]
    decide +kernel
  · obtain ⟨⟨k, bound, before, seen, ⟨recompiled, skipped, both, counted, done⟩, -⟩, -⟩ :=
      cancelled_batch_takes_first_sources Store.empty compiler (fun n => 3 ≤ n) sources readable
    have last : k = 3 := by
      have early : ∀ j < 3, ¬ decide (3 ≤ totalLines compiler Store.empty (sources.take j)) = true := by decide +kernel
      have most : k ≤ 3 := bound
      by_contra short
      exact early k (by omega) (seen (by change k < 3; omega))
    subst last
    have compiled : recompiled = 2 := counted.trans (by decide +kernel)
    have one_skipped : skipped = 1 := by omega
    rw [done, compiled, one_skipped]
    decide +kernel
  · exact ((cancelled_batch_takes_first_sources Store.empty compiler (fun _ => false) sources readable).2 _ _ [0x75]
      (by decide +kernel)).mpr rfl

end LinkTidy.Store
