import LinkTidy.Proofs.Text.Utf8.Reading
import LinkTidy.Store
import Mathlib.Data.List.Basic
/-!
What one update does to the entries: it keeps all of them if the digest is the one held, and otherwise it puts one entry
in its place, or behind all others.
-/

set_option autoImplicit false

namespace LinkTidy.Store

open Utf8 (Valid LongestValid)
open Digest (contentHash)

-- The ids of the sources, in order.
def ids (store : Store) : List Text :=
  store.entries.map (·.id)

theorem put_entry_ids (entry : Entry) (entries : List Entry) :
    (putEntry entry entries).map (·.id) =
      if entry.id ∈ entries.map (·.id) then entries.map (·.id) else entries.map (·.id) ++ [entry.id] := by
  induction entries with
  | nil => rfl
  | cons other rest ih =>
      by_cases same : other.id = entry.id
      · simp [putEntry, same]
      · have differs : entry.id ≠ other.id := fun equal => same equal.symm
        rw [putEntry, if_neg same, List.map_cons, ih, List.map_cons]
        by_cases later : entry.id ∈ rest.map (·.id)
        · rw [if_pos later, if_pos (List.mem_cons_of_mem _ later)]
        · rw [if_neg later, if_neg (List.not_mem_cons_of_ne_of_not_mem differs later), List.cons_append]

theorem find_put_entry (entry : Entry) (entries : List Entry) (id : Text) :
    (putEntry entry entries).find? (fun other => other.id == id) =
      if entry.id = id then some entry else entries.find? fun other => other.id == id := by
  induction entries with
  | nil => by_cases same : entry.id = id <;> simp [putEntry, same]
  | cons other rest ih =>
      by_cases replaced : other.id = entry.id
      · rw [putEntry, if_pos replaced]
        by_cases same : entry.id = id
        · simp [same]
        · have differs : other.id ≠ id := fun equal => same (replaced.symm.trans equal)
          simp [same, differs]
      · rw [putEntry, if_neg replaced, List.find?_cons, List.find?_cons, ih]
        by_cases same : entry.id = id
        · have differs : (other.id == id) = false := by
            rw [← same]
            simpa using replaced
          rw [differs, if_pos same]
        · simp [same]

theorem put_ids (store : Store) (id hash : Text) (rules : List Rule) :
    (store.put id hash rules).ids = if id ∈ store.ids then store.ids else store.ids ++ [id] :=
  put_entry_ids _ _

theorem put_distinct (store : Store) (id hash : Text) (rules : List Rule) (distinct : store.ids.Nodup) :
    (store.put id hash rules).ids.Nodup := by
  rw [put_ids]
  by_cases known : id ∈ store.ids
  · rwa [if_pos known]
  · rw [if_neg known]
    refine List.nodup_append.mpr ⟨distinct, List.pairwise_singleton _ id, ?_⟩
    rintro other member _ last rfl
    rw [List.mem_singleton] at last
    exact known (last ▸ member)

theorem find_put (store : Store) (id hash : Text) (rules : List Rule) (other : Text) :
    (store.put id hash rules).find? other =
      if id = other then some ⟨id, hash, rules, store.nextStamp⟩ else store.find? other :=
  find_put_entry _ _ _

theorem find_is_some (store : Store) (id : Text) : (store.find? id).isSome = true ↔ id ∈ store.ids := by
  simp [find?, ids]

-- Ids that are distinct find their own entries.
theorem find_held (store : Store) (distinct : store.ids.Nodup) (entry : Entry) (member : entry ∈ store.entries) :
    store.find? entry.id = some entry := by
  rw [ids] at distinct
  rw [find?]
  generalize store.entries = entries at distinct member
  induction entries with
  | nil => cases member
  | cons other rest ih =>
      rw [List.map_cons, List.nodup_cons] at distinct
      rcases List.mem_cons.mp member with rfl | later
      · simp
      · have differs : other.id ≠ entry.id := fun same => distinct.1 (same ▸ List.mem_map_of_mem later)
        rw [List.find?_cons_of_neg (by simpa using differs)]
        exact ih distinct.2 later

theorem hash_for_put (store : Store) (id hash : Text) (rules : List Rule) :
    (store.put id hash rules).hashFor id = some hash := by
  rw [hashFor, find_put, if_pos rfl]
  rfl

theorem compile_lines_congr (some other : LineCompiler) (texts : List Text)
    (same : ∀ line ∈ texts, some line = other line) : compileLines some texts = compileLines other texts := by
  induction texts with
  | nil => rfl
  | cons line rest ih =>
      have later := ih fun more member => same more (List.mem_cons_of_mem _ member)
      rw [compileLines] at later ⊢
      rw [List.flatMap_cons, later, same line List.mem_cons_self]
      rfl

theorem update_held (store : Store) (compiler : LineCompiler) (id hash : Text) (texts : List Text)
    (held : store.hashFor id = some hash) :
    ∃ count, store.update compiler id hash texts = ⟨store, count, 0⟩ := by
  obtain ⟨entry, found, same⟩ := Option.map_eq_some_iff.mp held
  exact ⟨entry.rules.length, by rw [update, found]; exact if_pos same⟩

theorem update_compiled (store : Store) (compiler : LineCompiler) (id hash : Text) (texts : List Text)
    (differs : store.hashFor id ≠ some hash) :
    store.update compiler id hash texts =
      ⟨store.put id hash (compileLines compiler texts), (compileLines compiler texts).length, texts.length⟩ := by
  rw [update]
  cases found : store.find? id with
  | none => rfl
  | some entry =>
      have other : entry.hash ≠ hash := fun same => differs (by rw [hashFor, found, ← same]; rfl)
      exact if_neg other

theorem update_bytes_text (store : Store) (compiler : LineCompiler) (id text : Text) :
    store.updateBytes compiler id (Utf8.encode text) =
      .ok (store.update compiler id (contentHash (Utf8.encode text)) (lines text)) := by
  rw [updateBytes, decodeSource, Utf8.decode_encode]

theorem decode_source_invalid (id : Text) (bytes : Bytes) (invalid : ¬ Valid bytes) :
    ∃ n, LongestValid bytes n ∧ decodeSource id bytes = .error (.undecodable id n) := by
  obtain ⟨fault, refused⟩ := (Utf8.decode_refused_iff bytes).mpr invalid
  exact ⟨fault.validUpTo, Utf8.decode_longest bytes fault refused, by rw [decodeSource, refused]⟩

theorem decode_source_valid (id : Text) (bytes : Bytes) (valid : Valid bytes) :
    ∃ text, decodeSource id bytes = .ok text := by
  obtain ⟨text, rfl⟩ := valid
  exact ⟨text, by rw [decodeSource, Utf8.decode_encode]⟩

end LinkTidy.Store
