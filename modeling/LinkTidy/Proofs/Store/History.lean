import LinkTidy.FilterList
import LinkTidy.Proofs.Store.Contents
import LinkTidy.Proofs.Store.Refusals
/-!
What a store holds after any history of calls, told by the sources that the calls have processed.
-/

set_option autoImplicit false

namespace LinkTidy.Store

open Utf8 (Valid)
open Digest (contentHash)

-- A call that may change a store: one source, or a batch with the flag that cancels it.
inductive Call where
  | one (source : RawSource)
  | batch (cancelled : Nat → Bool) (items : List (Except SourceError RawSource))

-- The store after a call, whether the call succeeds or not.
def Call.run (compiler : LineCompiler) (store : Store) : Call → Store
  | .one source => afterSource compiler store source
  | .batch cancelled items => (store.updateAll compiler cancelled items).1.store

-- The sources that a call processes: none if it fails, and of a batch those that its summary counts.
def Call.processed (compiler : LineCompiler) (store : Store) : Call → List RawSource
  | .one source =>
      match store.updateBytes compiler source.id source.bytes with
      | .ok _ => [source]
      | .error _ => []
  | .batch cancelled items =>
      match store.updateAll compiler cancelled items with
      | (progress, none) => (items.filterMap Except.toOption).take progress.summary.sources
      | (_, some _) => []

def runAll (compiler : LineCompiler) (store : Store) (calls : List Call) : Store :=
  calls.foldl (Call.run compiler) store

-- The sources that the calls of a history process, in order.
def processedBy (compiler : LineCompiler) : Store → List Call → List RawSource
  | _, [] => []
  | store, call :: rest => call.processed compiler store ++ processedBy compiler (call.run compiler store) rest

theorem options_of_all (sources : List RawSource) :
    (sources.map (Except.ok : RawSource → Except SourceError RawSource)).filterMap Except.toOption = sources := by
  induction sources with
  | nil => rfl
  | cons source rest ih => rw [List.map_cons, List.filterMap_cons, Except.toOption, ih]

theorem one_run (compiler : LineCompiler) (store : Store) (source : RawSource) :
    afterSource compiler store source = afterSources compiler store ((Call.one source).processed compiler store) ∧
      ∀ done ∈ (Call.one source).processed compiler store, Valid done.bytes := by
  obtain ⟨id, bytes⟩ := source
  by_cases valid : Valid bytes
  · obtain ⟨text, rfl⟩ := valid
    simp only [Call.processed, update_bytes_text]
    exact ⟨rfl, List.forall_mem_singleton.mpr ⟨text, rfl⟩⟩
  · obtain ⟨n, -, refused⟩ := decode_source_invalid id bytes valid
    simp only [Call.processed, afterSource, updateBytes, refused]
    exact ⟨rfl, fun _ member => absurd member List.not_mem_nil⟩

theorem batch_run (compiler : LineCompiler) (store : Store) (cancelled : Nat → Bool)
    (items : List (Except SourceError RawSource)) :
    (store.updateAll compiler cancelled items).1.store =
        afterSources compiler store ((Call.batch cancelled items).processed compiler store) ∧
      ∀ done ∈ (Call.batch cancelled items).processed compiler store, Valid done.bytes := by
  rw [Call.processed]
  rcases refused_or_readable items with ⟨e, refused⟩ | ⟨sources, rfl, readable⟩
  · rw [update_all_refused store compiler cancelled items e refused]
    exact ⟨rfl, fun _ member => absurd member List.not_mem_nil⟩
  · rw [update_all_stops store compiler cancelled sources readable _
      (turns_taken_stops compiler cancelled store sources), options_of_all]
    exact ⟨rfl, fun source member => readable source (List.mem_of_mem_take member)⟩

theorem call_run (compiler : LineCompiler) (store : Store) (call : Call) :
    call.run compiler store = afterSources compiler store (call.processed compiler store) ∧
      ∀ source ∈ call.processed compiler store, Valid source.bytes := by
  cases call with
  | one source => exact one_run compiler store source
  | batch cancelled items => exact batch_run compiler store cancelled items

theorem run_all_processed (compiler : LineCompiler) (store : Store) (calls : List Call) :
    runAll compiler store calls = afterSources compiler store (processedBy compiler store calls) ∧
      ∀ source ∈ processedBy compiler store calls, Valid source.bytes := by
  induction calls generalizing store with
  | nil => exact ⟨rfl, fun _ member => absurd member List.not_mem_nil⟩
  | cons call rest ih =>
      obtain ⟨same, valid⟩ := call_run compiler store call
      obtain ⟨later, validLater⟩ := ih (call.run compiler store)
      constructor
      · rw [runAll, List.foldl_cons, processedBy, afterSources, List.foldl_append]
        rw [runAll] at later
        rw [later, same]
        rfl
      · intro source member
        rcases List.mem_append.mp member with here | there
        · exact valid source here
        · exact validLater source there

-- The source of that id that was processed last.
def lastOf (done : List RawSource) (id : Text) : Option RawSource :=
  (done.filter fun source => source.id == id).getLast?

theorem last_of_snoc (done : List RawSource) (source : RawSource) (id : Text) :
    lastOf (done ++ [source]) id = if source.id = id then some source else lastOf done id := by
  rw [lastOf, List.filter_append]
  by_cases same : source.id = id
  · simp [same]
  · simp [same, lastOf]

theorem last_of_mem (done : List RawSource) (id : Text) (last : RawSource) (found : lastOf done id = some last) :
    last ∈ done ∧ last.id = id := by
  have member := List.mem_of_getLast? found
  simpa using member

theorem erase_dups_snoc (ids : List Text) (id : Text) :
    (ids ++ [id]).eraseDups = if id ∈ ids then ids.eraseDups else ids.eraseDups ++ [id] := by
  rw [List.eraseDups_append]
  by_cases known : id ∈ ids
  · simp [known, List.removeAll]
  · simp [known, List.removeAll, List.eraseDups_cons]

-- What a store holds if these sources have been processed in this order.
structure Reflects (compiler : LineCompiler) (done : List RawSource) (store : Store) : Prop where
  ids : store.ids = (done.map (·.id)).eraseDups
  hashes : ∀ id, store.hashFor id = (lastOf done id).map fun source => contentHash source.bytes
  rules : ∀ id rules, store.rulesFor id = some rules →
    ∃ source ∈ done, source.id = id ∧ store.hashFor id = some (contentHash source.bytes) ∧
      ∃ text, Utf8.encode text = source.bytes ∧ rules = compileLines compiler (lines text)

theorem reflects_empty (compiler : LineCompiler) : Reflects compiler [] .empty where
  ids := rfl
  hashes _ := rfl
  rules _ _ found := by cases found

section

variable (compiler : LineCompiler) (done : List RawSource) (store : Store) (id text : Text)

theorem reflects_held (reflects : Reflects compiler done store) (held : store.Holds ⟨id, Utf8.encode text⟩) :
    Reflects compiler (done ++ [⟨id, Utf8.encode text⟩]) store where
  ids := by
    have known : id ∈ done.map (·.id) := by
      rw [← List.mem_eraseDups, ← reflects.ids, ← find_is_some]
      obtain ⟨entry, found, -⟩ := Option.map_eq_some_iff.mp held
      rw [found, Option.isSome_some]
    rw [List.map_append, List.map_singleton, erase_dups_snoc, if_pos known, reflects.ids]
  hashes other := by
    rw [last_of_snoc]
    by_cases same : id = other
    · rw [if_pos same, ← same]
      exact held
    · rw [if_neg same, reflects.hashes]
  rules other rules found := by
    obtain ⟨source, member, fits⟩ := reflects.rules other rules found
    exact ⟨source, List.mem_append_left _ member, fits⟩

theorem reflects_put (reflects : Reflects compiler done store) :
    Reflects compiler (done ++ [⟨id, Utf8.encode text⟩])
      (store.put id (contentHash (Utf8.encode text)) (compileLines compiler (lines text))) where
  ids := by
    rw [put_ids, List.map_append, List.map_singleton, erase_dups_snoc, reflects.ids]
    simp only [List.mem_eraseDups]
  hashes other := by
    rw [last_of_snoc, hashFor, find_put]
    by_cases same : id = other
    · rw [if_pos same, if_pos same]
      rfl
    · rw [if_neg same, if_neg same, ← reflects.hashes]
      rfl
  rules other rules found := by
    rw [rulesFor, find_put] at found
    rw [hashFor, find_put]
    by_cases same : id = other
    · rw [if_pos same] at found ⊢
      cases found
      exact ⟨_, List.mem_append_right _ List.mem_cons_self, same, rfl, text, rfl, rfl⟩
    · rw [if_neg same] at found ⊢
      obtain ⟨source, member, fits⟩ := reflects.rules other rules found
      exact ⟨source, List.mem_append_left _ member, fits⟩

end

theorem reflects_step (compiler : LineCompiler) (done : List RawSource) (store : Store) (source : RawSource)
    (reflects : Reflects compiler done store) (valid : Valid source.bytes) :
    Reflects compiler (done ++ [source]) (afterSource compiler store source) := by
  obtain ⟨id, bytes⟩ := source
  obtain ⟨text, rfl⟩ := valid
  by_cases held : store.Holds ⟨id, Utf8.encode text⟩
  · rw [(turn_held compiler store id text held).1]
    exact reflects_held compiler done store id text reflects held
  · rw [(turn_compiled compiler store id text held).1]
    exact reflects_put compiler done store id text reflects

theorem reflects_sources (compiler : LineCompiler) (done more : List RawSource) (store : Store)
    (reflects : Reflects compiler done store) (valid : ∀ source ∈ more, Valid source.bytes) :
    Reflects compiler (done ++ more) (afterSources compiler store more) := by
  induction more generalizing done store with
  | nil => rwa [List.append_nil]
  | cons source rest ih =>
      have step := reflects_step compiler done store source reflects (valid source List.mem_cons_self)
      have all := ih _ _ step fun later member => valid later (List.mem_cons_of_mem _ member)
      rwa [List.append_assoc] at all

theorem reflects_history (compiler : LineCompiler) (calls : List Call) :
    Reflects compiler (processedBy compiler .empty calls) (runAll compiler .empty calls) := by
  obtain ⟨same, valid⟩ := run_all_processed compiler .empty calls
  rw [same]
  exact reflects_sources compiler [] _ .empty (reflects_empty compiler) valid

theorem processed_append (compiler : LineCompiler) (store : Store) (earlier later : List Call) :
    processedBy compiler store (earlier ++ later) =
      processedBy compiler store earlier ++ processedBy compiler (runAll compiler store earlier) later := by
  induction earlier generalizing store with
  | nil => rfl
  | cons call rest ih =>
      rw [List.cons_append, processedBy, processedBy, ih, List.append_assoc]
      rfl

theorem ids_stay (compiler : LineCompiler) (done more : List RawSource) (store later : Store)
    (before : Reflects compiler done store) (behind : Reflects compiler (done ++ more) later) :
    store.ids <+: later.ids := by
  rw [before.ids, behind.ids, List.map_append, List.eraseDups_append]
  exact List.prefix_append _ _

-- No two byte strings that have been processed for the id have the same digest.
def ToldApart (done : List RawSource) (id : Text) : Prop :=
  ∀ source ∈ done, ∀ other ∈ done, source.id = id → other.id = id →
    contentHash source.bytes = contentHash other.bytes → source.bytes = other.bytes

instance (done : List RawSource) (id : Text) : Decidable (ToldApart done id) :=
  inferInstanceAs (Decidable (∀ source ∈ done, ∀ other ∈ done, _))

theorem rules_of_last (compiler : LineCompiler) (done : List RawSource) (store : Store)
    (reflects : Reflects compiler done store) (id : Text) (last : RawSource) (found : lastOf done id = some last)
    (apart : ToldApart done id) :
    ∃ text, Utf8.encode text = last.bytes ∧ store.rulesFor id = some (compileLines compiler (lines text)) := by
  obtain ⟨isLast, lastId⟩ := last_of_mem done id last found
  have held : store.hashFor id = some (contentHash last.bytes) := by
    rw [reflects.hashes, found]
    rfl
  obtain ⟨entry, known, -⟩ := Option.map_eq_some_iff.mp held
  have rules : store.rulesFor id = some entry.rules := by
    rw [rulesFor, known]
    rfl
  obtain ⟨source, member, sourceId, hash, text, encoded, compiled⟩ := reflects.rules id entry.rules rules
  have same : source.bytes = last.bytes :=
    apart source member last isLast sourceId lastId (Option.some.inj (hash.symm.trans held))
  exact ⟨text, encoded.trans same, by rw [rules, compiled]⟩

theorem total_rules_sum (store : Store) : store.totalRules = (store.snapshot.map List.length).sum := by
  rw [totalRules, snapshot]
  induction store.entries with
  | nil => rfl
  | cons entry rest ih => rw [List.foldr_cons, ih, List.map_cons, List.map_cons, List.sum_cons]

theorem snapshot_by_ids (store : Store) (distinct : store.ids.Nodup) :
    store.snapshot.map some = store.ids.map store.rulesFor := by
  rw [snapshot, ids, List.map_map, List.map_map]
  apply List.map_congr_left
  intro entry member
  rw [Function.comp_apply, Function.comp_apply, rulesFor, find_held store distinct entry member]
  rfl

-- Whatever calls have been made, and whether they succeeded, failed or were cancelled, a store is the one that updating
-- the processed sources one at a time leaves, and it holds of each id what was processed for it last.
theorem history_reflected (compiler : LineCompiler) (calls : List Call) :
    Reflects compiler (processedBy compiler .empty calls) (runAll compiler .empty calls) ∧
      (runAll compiler .empty calls).ids.Nodup ∧
      (∀ later, (runAll compiler .empty calls).ids <+: (runAll compiler .empty (calls ++ later)).ids) ∧
      (∀ id last, lastOf (processedBy compiler .empty calls) id = some last →
        ToldApart (processedBy compiler .empty calls) id →
          ∃ text, Utf8.encode text = last.bytes ∧
            (runAll compiler .empty calls).rulesFor id = some (compileLines compiler (lines text))) ∧
      (∀ text, compileLines FilterList.compileLine (lines text) = FilterList.compile text) ∧
      (runAll compiler .empty calls).totalRules = ((runAll compiler .empty calls).snapshot.map List.length).sum ∧
      (runAll compiler .empty calls).snapshot.map some =
        (runAll compiler .empty calls).ids.map (runAll compiler .empty calls).rulesFor ∧
      ∀ (store : Store) (call : Call),
        call.run compiler store = afterSources compiler store (call.processed compiler store) := by
  have reflects := reflects_history compiler calls
  have distinct : (runAll compiler .empty calls).ids.Nodup := by
    rw [(run_all_processed compiler .empty calls).1]
    exact distinct_after compiler .empty _ List.nodup_nil
  refine ⟨reflects, distinct, ?_, rules_of_last compiler _ _ reflects, fun _ => rfl, total_rules_sum _,
    snapshot_by_ids _ distinct, fun store call => (call_run compiler store call).1⟩
  intro later
  have extended := reflects_history compiler (calls ++ later)
  rw [processed_append] at extended
  exact ids_stay compiler _ _ _ _ reflects extended

-- One source twice in a batch and back at its first content, a batch with an unavailable source, one that is cancelled,
-- and bytes that are no text.
theorem history_of_five_calls :
    let first : Bytes := Utf8.encode "$removeparam=u".toList
    let second : Bytes := Utf8.encode "$removeparam=v\n$removeparam=w".toList
    let calls : List Call := [
      .one ⟨['a'], first⟩,
      .batch (fun _ => false) [.ok ⟨['a'], second⟩, .ok ⟨['b'], first⟩, .ok ⟨['a'], first⟩],
      .batch (fun _ => false) [.ok ⟨['c'], first⟩, .error (.unavailable ['b'] "gone".toList)],
      .batch (fun n => 1 ≤ n) [.ok ⟨['a'], second⟩, .ok ⟨['b'], second⟩],
      .one ⟨['d'], [0xFF]⟩]
    let store := runAll FilterList.compileLine .empty calls
    ToldApart (processedBy FilterList.compileLine .empty calls) ['a'] ∧
      store.ids = [['a'], ['b']] ∧
      store.rulesFor ['a'] = some (FilterList.compile "$removeparam=v\n$removeparam=w".toList) := by
  intro first second calls store
  obtain ⟨reflects, -, -, exact, whole, -⟩ := history_reflected FilterList.compileLine calls
  have apart : ToldApart (processedBy FilterList.compileLine .empty calls) ['a'] := by decide +kernel
  have last : lastOf (processedBy FilterList.compileLine .empty calls) ['a'] = some ⟨['a'], second⟩ := by decide +kernel
  obtain ⟨text, encoded, rules⟩ := exact ['a'] _ last apart
  have read : text = "$removeparam=v\n$removeparam=w".toList :=
    Except.ok.inj ((Utf8.decode_encode text).symm.trans (by rw [encoded]; exact Utf8.decode_encode _))
  refine ⟨apart, reflects.ids.trans (by decide +kernel), ?_⟩
  rw [rules, whole, read]

end LinkTidy.Store
