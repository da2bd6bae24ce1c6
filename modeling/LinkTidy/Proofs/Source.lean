import LinkTidy.Proofs.Cache.Copies
import LinkTidy.Proofs.Text.Utf8.Reading
import LinkTidy.Source
/-!
Fetching sources. Local ones are read and leave the world as it is. Of those from the web copies are kept, and whether
that is possible makes no difference to what is fetched.
-/

set_option autoImplicit false

namespace LinkTidy.Source

open Utf8 (Valid)

section

variable {σ : Type} (outside : Outside σ) (directory : Text)

theorem fetch_local (state : σ) (index : Nat) (source : Text) (nearby : isRemote source = false) :
    fetch outside directory state index source = (state, load (outside.read state) source) := by
  rw [fetch, if_neg (Bool.eq_false_iff.mp nearby)]

theorem fetch_all_local (state : σ) (index : Nat) (sources : List Text)
    (nearby : ∀ source ∈ sources, isRemote source = false) :
    fetchAll outside directory index sources state = (state, sources.map (load (outside.read state))) := by
  induction sources generalizing index with
  | nil => rfl
  | cons source rest ih =>
      obtain ⟨here, others⟩ := List.forall_mem_cons.mp nearby
      rw [fetchAll, fetch_local outside directory state index source here]
      simp only [ih (index + 1) others, List.map_cons]

end

section

variable (web : Text → Except Text Bytes) (directory : Text)

-- What is fetched from an address.
def downloaded (address : Text) : Except SourceError RawSource :=
  match web address with
  | .ok bytes => .ok ⟨address, bytes⟩
  | .error reason => .error (.unavailable address reason)

theorem fetch_remote (tree : FileTree) (index : Nat) (address : Text) (remote : isRemote address = true) :
    (fetch (FileTree.outside web) directory tree index address).2 = downloaded web address := by
  rw [fetch, if_pos remote, downloaded]
  simp only [FileTree.outside]
  cases web address with
  | ok bytes => rfl
  | error reason => rfl

theorem fetch_all_remote (tree : FileTree) (index : Nat) (addresses : List Text)
    (remote : ∀ address ∈ addresses, isRemote address = true) :
    (fetchAll (FileTree.outside web) directory index addresses tree).2 = addresses.map (downloaded web) := by
  induction addresses generalizing tree index with
  | nil => rfl
  | cons address rest ih =>
      obtain ⟨here, others⟩ := List.forall_mem_cons.mp remote
      rw [fetchAll, List.map_cons, ← fetch_remote web directory tree index address here]
      simp only [ih _ (index + 1) others]

-- Lists that are all downloaded leave the tree that keeping their copies in order leaves.
theorem fetch_all_kept (tree : FileTree) (index : Nat) (items : List (Text × Bytes))
    (remote : ∀ item ∈ items, isRemote item.1 = true) (there : ∀ item ∈ items, web item.1 = .ok item.2) :
    (fetchAll (FileTree.outside web) directory index (items.map (·.1)) tree).1 =
      Cache.keepAll (FileTree.outside web) directory index items tree := by
  induction items generalizing tree index with
  | nil => rfl
  | cons item rest ih =>
      obtain ⟨address, bytes⟩ := item
      obtain ⟨here, others⟩ := List.forall_mem_cons.mp remote
      obtain ⟨found, later⟩ := List.forall_mem_cons.mp there
      have first : fetch (FileTree.outside web) directory tree index address =
          (Cache.keep (FileTree.outside web) directory tree index address bytes, .ok ⟨address, bytes⟩) := by
        have download : (FileTree.outside web).download tree address = .ok bytes := found
        rw [fetch, if_pos here, download]
      rw [List.map_cons, fetchAll, Cache.keepAll, ← ih _ (index + 1) others later]
      simp only [first]

-- So the lists of a configuration, if they are all downloaded, end up in its new directory one by one.
theorem fetched_lists_kept (tree made : FileTree) (items : List (Text × Bytes))
    (remote : ∀ item ∈ items, isRemote item.1 = true) (there : ∀ item ∈ items, web item.1 = .ok item.2)
    (created : tree.makeDirectory directory = (made, true))
    (missing : tree.kindAt (tree.placeOf directory) = .nothing) :
    Cache.Keeps tree (fetchAll (FileTree.outside web) directory 0 (items.map (·.1)) tree).1 directory items := by
  rw [fetch_all_kept web directory tree 0 items remote there]
  exact Cache.copies_kept web created missing items

end

end LinkTidy.Source
