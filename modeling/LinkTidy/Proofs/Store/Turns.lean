import LinkTidy.Proofs.Store.Entries
import Mathlib.Algebra.GroupWithZero.Nat
/-!
Sources processed one at a time, in order: what the turn of one source does, and a batch as the turns of the sources
that come before the cancel flag is seen.
-/

set_option autoImplicit false

namespace LinkTidy.Store

open Utf8 (Valid)
open Digest (contentHash)

-- The store holds, for the source's id, the digest of the source's bytes.
def Holds (store : Store) (source : RawSource) : Prop :=
  store.hashFor source.id = some (contentHash source.bytes)

instance (store : Store) (source : RawSource) : Decidable (store.Holds source) :=
  inferInstanceAs (Decidable (_ = _))

-- The store after one source has been processed on its own. Bytes that are no text leave it as it is.
def afterSource (compiler : LineCompiler) (store : Store) (source : RawSource) : Store :=
  match store.updateBytes compiler source.id source.bytes with
  | .ok updated => updated.store
  | .error _ => store

def afterSources (compiler : LineCompiler) (store : Store) (sources : List RawSource) : Store :=
  sources.foldl (afterSource compiler) store

-- The number of lines that are given to the compiler when one source is processed.
def linesGiven (compiler : LineCompiler) (store : Store) (source : RawSource) : Nat :=
  match store.updateBytes compiler source.id source.bytes with
  | .ok updated => updated.calls
  | .error _ => 0

-- Each source with the store at its turn.
def turns (compiler : LineCompiler) : Store → List RawSource → List (Store × RawSource)
  | _, [] => []
  | store, source :: rest => (store, source) :: turns compiler (afterSource compiler store source) rest

def totalLines (compiler : LineCompiler) (store : Store) (sources : List RawSource) : Nat :=
  ((turns compiler store sources).map fun turn => linesGiven compiler turn.1 turn.2).sum

theorem after_sources_cons (compiler : LineCompiler) (store : Store) (source : RawSource) (rest : List RawSource) :
    afterSources compiler store (source :: rest) =
      afterSources compiler (afterSource compiler store source) rest := rfl

theorem total_lines_cons (compiler : LineCompiler) (store : Store) (source : RawSource) (rest : List RawSource) :
    totalLines compiler store (source :: rest) =
      linesGiven compiler store source + totalLines compiler (afterSource compiler store source) rest := by
  rw [totalLines, turns, List.map_cons, List.sum_cons]
  rfl

section

variable (compiler : LineCompiler) (store : Store) (id text : Text)

theorem turn_held (held : store.Holds ⟨id, Utf8.encode text⟩) :
    afterSource compiler store ⟨id, Utf8.encode text⟩ = store ∧
      linesGiven compiler store ⟨id, Utf8.encode text⟩ = 0 := by
  obtain ⟨count, updated⟩ := update_held store compiler id _ (lines text) held
  rw [afterSource, linesGiven, update_bytes_text, updated]
  exact ⟨rfl, rfl⟩

theorem turn_compiled (differs : ¬ store.Holds ⟨id, Utf8.encode text⟩) :
    afterSource compiler store ⟨id, Utf8.encode text⟩ =
        store.put id (contentHash (Utf8.encode text)) (compileLines compiler (lines text)) ∧
      linesGiven compiler store ⟨id, Utf8.encode text⟩ = (lines text).length := by
  have updated := update_compiled store compiler id _ (lines text) differs
  rw [afterSource, linesGiven, update_bytes_text, updated]
  exact ⟨rfl, rfl⟩

theorem turn_holds : (afterSource compiler store ⟨id, Utf8.encode text⟩).Holds ⟨id, Utf8.encode text⟩ := by
  by_cases held : store.Holds ⟨id, Utf8.encode text⟩
  · rwa [(turn_held compiler store id text held).1]
  · rw [(turn_compiled compiler store id text held).1]
    exact hash_for_put store id _ _

end

theorem turn_refused (compiler : LineCompiler) (store : Store) (source : RawSource) (invalid : ¬ Valid source.bytes) :
    afterSource compiler store source = store ∧ linesGiven compiler store source = 0 := by
  obtain ⟨n, -, refused⟩ := decode_source_invalid source.id source.bytes invalid
  rw [afterSource, linesGiven, updateBytes, refused]
  exact ⟨rfl, rfl⟩

-- The lines that the compiler is given at the turn of a source.
def linesHanded (store : Store) (source : RawSource) : List Text :=
  if store.Holds source then [] else ((Utf8.decode source.bytes).toOption.map lines).getD []

theorem lines_handed_text (store : Store) (id text : Text) :
    linesHanded store ⟨id, Utf8.encode text⟩ =
      if store.Holds ⟨id, Utf8.encode text⟩ then [] else lines text := by
  rw [linesHanded, Utf8.decode_encode]
  rfl

theorem lines_handed_refused (store : Store) (source : RawSource) (invalid : ¬ Valid source.bytes) :
    linesHanded store source = [] := by
  obtain ⟨fault, refused⟩ := (Utf8.decode_refused_iff source.bytes).mpr invalid
  rw [linesHanded, refused]
  exact ite_self []

theorem mem_lines_handed (store : Store) (source : RawSource) (line : Text) (given : line ∈ linesHanded store source) :
    ∃ text, Utf8.encode text = source.bytes ∧ line ∈ lines text := by
  obtain ⟨id, bytes⟩ := source
  by_cases valid : Valid bytes
  · obtain ⟨text, rfl⟩ := valid
    rw [lines_handed_text] at given
    by_cases held : store.Holds ⟨id, Utf8.encode text⟩
    · rw [if_pos held] at given
      cases given
    · rw [if_neg held] at given
      exact ⟨text, rfl, given⟩
  · rw [lines_handed_refused store _ valid] at given
    cases given

theorem lines_given_handed (compiler : LineCompiler) (store : Store) (source : RawSource) :
    linesGiven compiler store source = (linesHanded store source).length := by
  obtain ⟨id, bytes⟩ := source
  by_cases valid : Valid bytes
  · obtain ⟨text, rfl⟩ := valid
    rw [lines_handed_text]
    by_cases held : store.Holds ⟨id, Utf8.encode text⟩
    · rw [(turn_held compiler store id text held).2, if_pos held]
      rfl
    · rw [(turn_compiled compiler store id text held).2, if_neg held]
  · rw [(turn_refused compiler store _ valid).2, lines_handed_refused store _ valid]
    rfl

-- Compilers that make the same of the lines at a turn have the same turn.
theorem turn_agrees (some other : LineCompiler) (store : Store) (source : RawSource)
    (agree : ∀ line ∈ linesHanded store source, some line = other line) :
    afterSource some store source = afterSource other store source := by
  obtain ⟨id, bytes⟩ := source
  by_cases valid : Valid bytes
  · obtain ⟨text, rfl⟩ := valid
    rw [lines_handed_text] at agree
    by_cases held : store.Holds ⟨id, Utf8.encode text⟩
    · rw [(turn_held some store id text held).1, (turn_held other store id text held).1]
    · rw [if_neg held] at agree
      rw [(turn_compiled some store id text held).1, (turn_compiled other store id text held).1,
        compile_lines_congr some other (lines text) agree]
  · rw [(turn_refused some store _ valid).1, (turn_refused other store _ valid).1]

-- A turn as the loop of a batch takes it.
def proceed (compiler : LineCompiler) (progress : Progress) (source : RawSource) : Progress where
  store := afterSource compiler progress.store source
  summary := progress.summary.add (decide (progress.store.Holds source))
  calls := progress.calls + linesGiven compiler progress.store source

-- A batch whose loop has ended, early or not.
def Progress.stopped (progress : Progress) (early : Bool) : Progress :=
  { progress with summary := { progress.summary with cancelled := progress.summary.cancelled || early } }

section

variable (compiler : LineCompiler) (cancelled : Nat → Bool) (source : RawSource) (rest : List RawSource)
  (progress : Progress)

theorem update_each_stopped (up : cancelled progress.calls = true) :
    updateEach compiler cancelled (source :: rest) progress =
      ({ progress with summary := { progress.summary with cancelled := true } }, none) := by
  rw [updateEach, if_pos up]

-- The digests before and after a turn are the same exactly if the store held the digest of the source's bytes before.
theorem update_each_proceeds (valid : Valid source.bytes) (down : cancelled progress.calls = false) :
    updateEach compiler cancelled (source :: rest) progress =
      updateEach compiler cancelled rest (proceed compiler progress source) := by
  obtain ⟨id, bytes⟩ := source
  obtain ⟨text, rfl⟩ := valid
  have holds := turn_holds compiler progress.store id text
  have same : (progress.store.hashFor id == (afterSource compiler progress.store ⟨id, Utf8.encode text⟩).hashFor id) =
      decide (progress.store.Holds ⟨id, Utf8.encode text⟩) := by
    rw [Holds] at holds
    rw [holds, Bool.eq_iff_iff, beq_iff_eq, decide_eq_true_iff]
    exact Iff.rfl
  rw [proceed, ← same, updateEach, if_neg (by rw [down]; exact Bool.false_ne_true)]
  simp only [afterSource, linesGiven, update_bytes_text]

end

-- What the turns of some sources make of a batch under way.
theorem proceed_all (compiler : LineCompiler) (sources : List RawSource) (progress : Progress) :
    sources.foldl (proceed compiler) progress = {
      store := afterSources compiler progress.store sources
      summary := { progress.summary with
        sources := progress.summary.sources + sources.length
        recompiled := progress.summary.recompiled +
          (turns compiler progress.store sources).countP fun turn => ¬ turn.1.Holds turn.2
        skipped := progress.summary.skipped +
          (turns compiler progress.store sources).countP fun turn => turn.1.Holds turn.2 }
      calls := progress.calls + totalLines compiler progress.store sources } := by
  induction sources generalizing progress with
  | nil => simp [afterSources, turns, totalLines]
  | cons source rest ih =>
      rw [List.foldl_cons, ih, proceed, total_lines_cons, turns, List.countP_cons, List.countP_cons]
      by_cases held : progress.store.Holds source
      · simp [afterSources, Summary.add, held, Nat.add_assoc]
        omega
      · simp [afterSources, Summary.add, held, Nat.add_assoc]
        omega

-- The flag is seen first before turn `k`; a batch that comes to its end does not look at it again.
structure StopsAt (compiler : LineCompiler) (cancelled : Nat → Bool) (progress : Progress) (sources : List RawSource)
    (k : Nat) : Prop where
  bound : k ≤ sources.length
  before : ∀ j < k, cancelled ((sources.take j).foldl (proceed compiler) progress).calls = false
  seen : k < sources.length → cancelled ((sources.take k).foldl (proceed compiler) progress).calls = true

theorem stops_at_next (compiler : LineCompiler) (cancelled : Nat → Bool) (progress : Progress) (source : RawSource)
    (rest : List RawSource) (k : Nat) (stops : StopsAt compiler cancelled progress (source :: rest) (k + 1)) :
    StopsAt compiler cancelled (proceed compiler progress source) rest k where
  bound := Nat.le_of_succ_le_succ stops.bound
  before j earlier := stops.before (j + 1) (Nat.succ_lt_succ earlier)
  seen more := stops.seen (Nat.succ_lt_succ more)

theorem update_each_stops (compiler : LineCompiler) (cancelled : Nat → Bool) (progress : Progress)
    (sources : List RawSource) (readable : ∀ source ∈ sources, Valid source.bytes) (k : Nat)
    (stops : StopsAt compiler cancelled progress sources k) :
    updateEach compiler cancelled sources progress =
      (((sources.take k).foldl (proceed compiler) progress).stopped (decide (k < sources.length)), none) := by
  induction sources generalizing progress k with
  | nil => simp [updateEach, Progress.stopped]
  | cons source rest ih =>
      cases k with
      | zero =>
          rw [update_each_stopped compiler cancelled source rest progress (stops.seen (Nat.succ_pos _))]
          simp [Progress.stopped]
      | succ k =>
          rw [update_each_proceeds compiler cancelled source rest progress (readable source List.mem_cons_self)
            (stops.before 0 (Nat.succ_pos k))]
          have later := ih (proceed compiler progress source)
            (fun other member => readable other (List.mem_cons_of_mem _ member)) k
            (stops_at_next compiler cancelled progress source rest k stops)
          simpa using later

-- The number of sources that a batch comes to before it sees the flag.
def turnsTaken (compiler : LineCompiler) (cancelled : Nat → Bool) (store : Store) (sources : List RawSource) : Nat :=
  (List.range sources.length).findIdx fun j => cancelled (totalLines compiler store (sources.take j))

theorem turns_taken_stops (compiler : LineCompiler) (cancelled : Nat → Bool) (store : Store)
    (sources : List RawSource) :
    StopsAt compiler cancelled ⟨store, {}, 0⟩ sources (turnsTaken compiler cancelled store sources) where
  bound := by
    have most : turnsTaken compiler cancelled store sources ≤ (List.range sources.length).length :=
      List.findIdx_le_length
    rwa [List.length_range] at most
  before j earlier := by
    have down := List.not_of_lt_findIdx earlier
    rw [proceed_all]
    simpa using down
  seen more := by
    have inside : turnsTaken compiler cancelled store sources < (List.range sources.length).length := by
      rwa [List.length_range]
    have up : cancelled (totalLines compiler store (sources.take
        (List.range sources.length)[turnsTaken compiler cancelled store sources])) = true :=
      List.findIdx_getElem (w := inside)
    rw [List.getElem_range inside] at up
    rw [proceed_all]
    simpa using up

end LinkTidy.Store
