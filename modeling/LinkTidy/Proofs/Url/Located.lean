import LinkTidy.Proofs.Text.Cut
import LinkTidy.Url
/-!
Addresses that stand in a text, one behind the other.
-/

set_option autoImplicit false

namespace LinkTidy.Url

-- What a detector owes to its callers: addresses taken apart from texts that stand at their offsets, in strictly
-- increasing order and without overlap.
structure Located (text : Text) (urls : List Url) : Prop where
  split : ∀ url ∈ urls, ofText url.offset url.original = url
  stands : ∀ url ∈ urls, ∃ before behind, text = before ++ url.original ++ behind ∧ byteLength before = url.offset
  ordered : urls.Pairwise fun a b => a.offset < b.offset ∧ a.offset + byteLength a.original ≤ b.offset

-- The same as it is met from left to right: the text that begins at byte `start` is a gap, the first address, and a
-- text in which the other addresses are laid.
inductive Laid : Nat → Text → List Url → Prop where
  | done (start : Nat) (text : Text) : Laid start text []
  | next (start : Nat) (gap behind : Text) (url : Url) (rest : List Url) (place : url.offset = start + byteLength gap)
      (later : Laid (url.offset + byteLength url.original) behind rest) :
      Laid start (gap ++ url.original ++ behind) (url :: rest)

theorem laid_of_stands (lead text : Text) (urls : List Url)
    (stands : ∀ url ∈ urls, ∃ before behind, lead ++ text = before ++ url.original ++ behind ∧
      byteLength before = url.offset)
    (behindLead : ∀ url ∈ urls, byteLength lead ≤ url.offset)
    (ordered : urls.Pairwise fun a b => a.offset + byteLength a.original ≤ b.offset) :
    Laid (byteLength lead) text urls := by
  induction urls generalizing lead text with
  | nil => exact .done _ _
  | cons url rest ih =>
      obtain ⟨before, behind, whole, offset⟩ := stands url List.mem_cons_self
      -- The address stands behind the lead, so what precedes it is the lead and a gap.
      have long : byteLength lead ≤ byteLength before := offset ▸ behindLead url List.mem_cons_self
      obtain ⟨gap, rfl, rfl⟩ := shorter_beginning lead before text (url.original ++ behind)
        (by rw [whole, List.append_assoc]) long
      have size : url.offset + byteLength url.original = byteLength (lead ++ gap ++ url.original) := by
        rw [byte_length_append (lead ++ gap), offset]
      rw [← List.append_assoc]
      refine .next _ gap behind url rest (by rw [← offset, byte_length_append]) ?_
      rw [size]
      apply ih
      · intro other member
        simpa [List.append_assoc] using stands other (List.mem_cons_of_mem _ member)
      · intro other member
        rw [← size]
        exact (List.pairwise_cons.mp ordered).1 other member
      · exact (List.pairwise_cons.mp ordered).2

theorem Located.laid {text : Text} {urls : List Url} (located : Located text urls) : Laid 0 text urls :=
  laid_of_stands [] text urls located.stands (fun _ _ => Nat.zero_le _) (located.ordered.imp And.right)

theorem laid_offsets {start : Nat} {text : Text} {urls : List Url} (laid : Laid start text urls) :
    ∀ url ∈ urls, start ≤ url.offset := by
  induction laid with
  | done => simp
  | next start gap behind url rest place _ ih =>
      intro other member
      rcases List.mem_cons.mp member with rfl | later
      · omega
      · have bound := ih other later
        omega

theorem laid_stands {start : Nat} {text : Text} {urls : List Url} (laid : Laid start text urls) (lead : Text)
    (size : byteLength lead = start) :
    ∀ url ∈ urls, ∃ before behind, lead ++ text = before ++ url.original ++ behind ∧ byteLength before = url.offset := by
  induction laid generalizing lead with
  | done => simp
  | next start gap behind url rest place _ ih =>
      intro other member
      rcases List.mem_cons.mp member with rfl | later
      · exact ⟨lead ++ gap, behind, by simp [List.append_assoc], by rw [byte_length_append, size, place]⟩
      · have size : byteLength (lead ++ gap ++ url.original) = url.offset + byteLength url.original := by
          rw [byte_length_append, byte_length_append, size, place]
        simpa [List.append_assoc] using ih _ size other later

theorem laid_ordered {start : Nat} {text : Text} {urls : List Url} (laid : Laid start text urls)
    (written : ∀ url ∈ urls, url.original ≠ []) :
    urls.Pairwise fun a b => a.offset < b.offset ∧ a.offset + byteLength a.original ≤ b.offset := by
  induction laid with
  | done => exact .nil
  | next start gap behind url rest place later ih =>
      refine .cons ?_ (ih fun other member => written other (List.mem_cons_of_mem _ member))
      intro other member
      have bound := laid_offsets later other member
      -- Only an empty address could be followed by another one at its own offset.
      have size : byteLength url.original ≠ 0 := fun zero =>
        written url List.mem_cons_self (byte_length_zero _ zero)
      omega

end LinkTidy.Url
