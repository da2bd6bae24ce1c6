import LinkTidy.Proofs.Store.Turns
/-!
The rules of a store as a set. Sources that are updated in another order leave the same rules as long as the updates of
each one keep their order, and so does a list that comes in pieces.
-/

set_option autoImplicit false

namespace LinkTidy.Store

open Utf8 (Valid)
open Digest (contentHash)

-- What is held for an id, without the stamp, which tells the order of the updates.
def held (store : Store) (id : Text) : Option (Text × List Rule) :=
  (store.find? id).map fun entry => (entry.hash, entry.rules)

theorem hash_for_held (store : Store) (id : Text) : store.hashFor id = (store.held id).map (·.1) := by
  rw [held, Option.map_map]
  rfl

theorem rules_for_held (store : Store) (id : Text) : store.rulesFor id = (store.held id).map (·.2) := by
  rw [held, Option.map_map]
  rfl

theorem held_put (store : Store) (id hash : Text) (rules : List Rule) (other : Text) :
    (store.put id hash rules).held other = if id = other then some (hash, rules) else store.held other := by
  rw [held, find_put]
  by_cases same : id = other
  · rw [if_pos same, if_pos same]
    rfl
  · rw [if_neg same, if_neg same]
    rfl

-- What one turn does, whatever the source: nothing, or an entry for its id.
theorem after_source_cases (compiler : LineCompiler) (store : Store) (source : RawSource) :
    afterSource compiler store source = store ∨
      ∃ rules, afterSource compiler store source = store.put source.id (contentHash source.bytes) rules := by
  obtain ⟨id, bytes⟩ := source
  by_cases valid : Valid bytes
  · obtain ⟨text, rfl⟩ := valid
    by_cases held : store.Holds ⟨id, Utf8.encode text⟩
    · exact .inl (turn_held compiler store id text held).1
    · exact .inr ⟨_, (turn_compiled compiler store id text held).1⟩
  · exact .inl (turn_refused compiler store _ valid).1

theorem held_by_others (compiler : LineCompiler) (store : Store) (source : RawSource) (id : Text)
    (differs : source.id ≠ id) : (afterSource compiler store source).held id = store.held id := by
  rcases after_source_cases compiler store source with same | ⟨rules, changed⟩
  · rw [same]
  · rw [changed, held_put, if_neg differs]

-- What a turn leaves for its id is decided by what was held for it.
theorem held_by_own (compiler : LineCompiler) (store other : Store) (source : RawSource)
    (same : store.held source.id = other.held source.id) :
    (afterSource compiler store source).held source.id = (afterSource compiler other source).held source.id := by
  obtain ⟨id, bytes⟩ := source
  by_cases valid : Valid bytes
  · obtain ⟨text, rfl⟩ := valid
    have alike : store.Holds ⟨id, Utf8.encode text⟩ ↔ other.Holds ⟨id, Utf8.encode text⟩ := by
      rw [Holds, Holds, hash_for_held, hash_for_held, same]
    by_cases held : store.Holds ⟨id, Utf8.encode text⟩
    · rw [(turn_held compiler store id text held).1, (turn_held compiler other id text (alike.mp held)).1, same]
    · rw [(turn_compiled compiler store id text held).1,
        (turn_compiled compiler other id text fun also => held (alike.mpr also)).1, held_put, held_put, if_pos rfl,
        if_pos rfl]
  · rw [(turn_refused compiler store _ valid).1, (turn_refused compiler other _ valid).1]
    exact same

theorem held_by_own_turns (compiler : LineCompiler) (store other : Store) (sources : List RawSource) (id : Text)
    (same : store.held id = other.held id) :
    (afterSources compiler store sources).held id =
      (afterSources compiler other (sources.filter fun source => source.id == id)).held id := by
  induction sources generalizing store other with
  | nil => exact same
  | cons source rest ih =>
      by_cases own : source.id = id
      · subst own
        rw [List.filter_cons_of_pos (by simp)]
        exact ih _ _ (held_by_own compiler store other source same)
      · rw [List.filter_cons_of_neg (by simpa using own)]
        exact ih _ _ ((held_by_others compiler store source id own).trans same)

-- The same updates of each source in the same order, whatever comes between them.
def SameTurns (some other : List RawSource) : Prop :=
  ∀ id, (some.filter fun source => source.id == id) = other.filter fun source => source.id == id

theorem held_in_any_order (compiler : LineCompiler) (store : Store) (some other : List RawSource)
    (same : SameTurns some other) (id : Text) :
    (afterSources compiler store some).held id = (afterSources compiler store other).held id := by
  rw [held_by_own_turns compiler store store some id rfl, same id, ← held_by_own_turns compiler store store other id rfl]

theorem same_turns_of_perm (some other : List RawSource) (perm : some.Perm other)
    (distinct : (some.map (·.id)).Nodup) : SameTurns some other := by
  intro id
  have each := perm.filter fun source => source.id == id
  have few : (some.filter fun source => source.id == id).length ≤ 1 := by
    rw [← List.countP_eq_length_filter]
    have counted := List.nodup_iff_count.mp distinct id
    rwa [List.count, List.countP_map] at counted
  rcases Nat.le_one_iff_eq_zero_or_eq_one.mp few with none | one
  · rw [List.length_eq_zero_iff] at none
    rw [none] at each ⊢
    exact (List.nil_perm.mp each).symm
  · obtain ⟨source, only⟩ := List.length_eq_one_iff.mp one
    rw [only] at each ⊢
    exact List.singleton_perm.mp each

theorem distinct_after (compiler : LineCompiler) (store : Store) (sources : List RawSource)
    (distinct : store.ids.Nodup) : (afterSources compiler store sources).ids.Nodup := by
  induction sources generalizing store with
  | nil => exact distinct
  | cons source rest ih =>
      apply ih
      rcases after_source_cases compiler store source with same | ⟨rules, changed⟩
      · rwa [same]
      · rw [changed]
        exact put_distinct store _ _ rules distinct

theorem mem_snapshot (store : Store) (distinct : store.ids.Nodup) (rule : Rule) :
    rule ∈ store.snapshot.flatten ↔ ∃ id rules, store.rulesFor id = some rules ∧ rule ∈ rules := by
  rw [snapshot, List.mem_flatten]
  constructor
  · rintro ⟨rules, listed, member⟩
    obtain ⟨entry, inside, rfl⟩ := List.mem_map.mp listed
    exact ⟨entry.id, entry.rules, by rw [rulesFor, find_held store distinct entry inside]; rfl, member⟩
  · rintro ⟨id, rules, known, member⟩
    obtain ⟨entry, found, rfl⟩ := Option.map_eq_some_iff.mp known
    exact ⟨entry.rules, List.mem_map_of_mem (List.mem_of_find?_eq_some found), member⟩

-- A list, or a piece of one: its id and its text.
def pieceSource (piece : Text × Text) : RawSource :=
  ⟨piece.1, Utf8.encode piece.2⟩

-- If the digest of a text is held for an id, so are the rules of its lines. Only colliding digests can break this.
def Honest (compiler : LineCompiler) (store : Store) (piece : Text × Text) : Prop :=
  store.Holds (pieceSource piece) → store.rulesFor piece.1 = some (compileLines compiler (lines piece.2))

theorem rules_by_own (compiler : LineCompiler) (store : Store) (piece : Text × Text)
    (honest : Honest compiler store piece) :
    (afterSource compiler store (pieceSource piece)).rulesFor piece.1 =
      some (compileLines compiler (lines piece.2)) := by
  by_cases held : store.Holds (pieceSource piece)
  · rw [pieceSource, (turn_held compiler store piece.1 piece.2 held).1]
    exact honest held
  · rw [pieceSource, (turn_compiled compiler store piece.1 piece.2 held).1, rules_for_held, held_put, if_pos rfl]
    rfl

theorem honest_behind (compiler : LineCompiler) (store : Store) (source : RawSource) (piece : Text × Text)
    (honest : Honest compiler store piece) (differs : source.id ≠ piece.1) :
    Honest compiler (afterSource compiler store source) piece := by
  have same := held_by_others compiler store source piece.1 differs
  intro held
  rw [Holds, pieceSource, hash_for_held, same, ← hash_for_held] at held
  rw [rules_for_held, same, ← rules_for_held]
  exact honest held

theorem rules_after_pieces (compiler : LineCompiler) (store : Store) (pieces : List (Text × Text))
    (distinct : (pieces.map (·.1)).Nodup) (honest : ∀ piece ∈ pieces, Honest compiler store piece) :
    (∀ piece ∈ pieces, (afterSources compiler store (pieces.map pieceSource)).rulesFor piece.1 =
        some (compileLines compiler (lines piece.2))) ∧
      ∀ id ∉ pieces.map (·.1), (afterSources compiler store (pieces.map pieceSource)).rulesFor id = store.rulesFor id := by
  induction pieces generalizing store with
  | nil => exact ⟨fun _ member => absurd member List.not_mem_nil, fun _ _ => rfl⟩
  | cons piece rest ih =>
      rw [List.map_cons, List.nodup_cons] at distinct
      have own := rules_by_own compiler store piece (honest piece List.mem_cons_self)
      obtain ⟨each, others⟩ := ih (afterSource compiler store (pieceSource piece)) distinct.2 fun later member =>
        honest_behind compiler store _ later (honest later (List.mem_cons_of_mem _ member)) fun same =>
          distinct.1 (List.mem_map.mpr ⟨later, member, same.symm⟩)
      constructor
      · intro some member
        rcases List.mem_cons.mp member with rfl | later
        · exact (others some.1 distinct.1).trans own
        · exact each some later
      · intro id new
        rw [List.map_cons, List.mem_cons, not_or] at new
        have untouched := held_by_others compiler store (pieceSource piece) id fun same => new.1 same.symm
        refine (others id new.2).trans ?_
        rw [rules_for_held, untouched, ← rules_for_held]

theorem mem_compile_lines (compiler : LineCompiler) (texts : List Text) (rule : Rule) :
    rule ∈ compileLines compiler texts ↔ ∃ line ∈ texts, rule ∈ (compiler line).getD [] :=
  List.mem_flatMap

theorem mem_after_pieces (compiler : LineCompiler) (store : Store) (pieces : List (Text × Text))
    (known : store.ids.Nodup) (distinct : (pieces.map (·.1)).Nodup)
    (honest : ∀ piece ∈ pieces, Honest compiler store piece) (rule : Rule) :
    rule ∈ (afterSources compiler store (pieces.map pieceSource)).snapshot.flatten ↔
      (∃ id ∉ pieces.map (·.1), ∃ rules, store.rulesFor id = some rules ∧ rule ∈ rules) ∨
        ∃ piece ∈ pieces, ∃ line ∈ lines piece.2, rule ∈ (compiler line).getD [] := by
  obtain ⟨each, others⟩ := rules_after_pieces compiler store pieces distinct honest
  rw [mem_snapshot _ (distinct_after compiler store _ known)]
  constructor
  · rintro ⟨id, rules, found, member⟩
    by_cases own : id ∈ pieces.map (·.1)
    · obtain ⟨piece, inside, rfl⟩ := List.mem_map.mp own
      rw [each piece inside, Option.some.injEq] at found
      rw [← found, mem_compile_lines] at member
      exact .inr ⟨piece, inside, member⟩
    · rw [others id own] at found
      exact .inl ⟨id, own, rules, found, member⟩
  · rintro (⟨id, own, rules, found, member⟩ | ⟨piece, inside, member⟩)
    · exact ⟨id, rules, (others id own).trans found, member⟩
    · exact ⟨piece.1, _, each piece inside, (mem_compile_lines compiler _ rule).mpr member⟩

-- A list in pieces, each a source of its own: of the ids that are known already only the list's is used again, and a line
-- stands in the list exactly if it stands in a piece.
structure Splits (compiler : LineCompiler) (store : Store) (list : Text × Text) (pieces : List (Text × Text)) :
    Prop where
  distinct : (pieces.map (·.1)).Nodup
  places : ∀ id ∈ store.ids, id ∈ pieces.map (·.1) ↔ id = list.1
  honest : ∀ piece ∈ list :: pieces, Honest compiler store piece
  covered : ∀ line, line ∈ lines list.2 ↔ ∃ piece ∈ pieces, line ∈ lines piece.2

theorem mem_of_splits (compiler : LineCompiler) (store : Store) (list : Text × Text) (pieces : List (Text × Text))
    (known : store.ids.Nodup) (splits : Splits compiler store list pieces) (rule : Rule) :
    rule ∈ (afterSource compiler store (pieceSource list)).snapshot.flatten ↔
      rule ∈ (afterSources compiler store (pieces.map pieceSource)).snapshot.flatten := by
  have whole := mem_after_pieces compiler store [list] known (List.pairwise_singleton _ _)
    (List.forall_mem_singleton.mpr (splits.honest list List.mem_cons_self)) rule
  have inPieces := mem_after_pieces compiler store pieces known splits.distinct
    (fun piece member => splits.honest piece (List.mem_cons_of_mem _ member)) rule
  have others : ∀ id rules, store.rulesFor id = some rules → (id ∉ [list].map (·.1) ↔ id ∉ pieces.map (·.1)) := by
    intro id rules found
    obtain ⟨entry, inside, -⟩ := Option.map_eq_some_iff.mp found
    have held : id ∈ store.ids := (find_is_some store id).mp (by rw [inside, Option.isSome_some])
    rw [splits.places id held, List.map_singleton, List.mem_singleton]
  refine whole.trans (Iff.trans (or_congr ?_ ?_) inPieces.symm)
  · constructor
    · rintro ⟨id, own, rules, found, member⟩
      exact ⟨id, (others id rules found).mp own, rules, found, member⟩
    · rintro ⟨id, own, rules, found, member⟩
      exact ⟨id, (others id rules found).mpr own, rules, found, member⟩
  · constructor
    · rintro ⟨piece, inside, line, stands, member⟩
      rw [List.mem_singleton] at inside
      rw [inside, splits.covered] at stands
      obtain ⟨part, among, there⟩ := stands
      exact ⟨part, among, line, there, member⟩
    · rintro ⟨part, among, line, there, member⟩
      exact ⟨list, List.mem_cons_self, line, (splits.covered line).mpr ⟨part, among, there⟩, member⟩

end LinkTidy.Store
