import LinkTidy.Proofs.Url.Runs
/-!
A text that is put together from two with a separator between them: its runs are the runs of both, so what is found in it
is what is found in both.
-/

set_option autoImplicit false

namespace LinkTidy.Url

theorem runs_joined (a b : Text) (separator : Char) (separates : isSeparator separator = true) :
    runs (a ++ separator :: b) = ((runs a).1, (runs a).2 ++ (separator, (runs b).1) :: (runs b).2) := by
  induction a with
  | nil => exact runs_cons_separator separator b separates
  | cons c rest ih =>
      by_cases cut : isSeparator c = true
      · rw [List.cons_append, runs_cons_separator c _ cut, runs_cons_separator c rest cut, ih, List.cons_append]
      · have plain : ∀ d ∈ [c], isSeparator d = false := by simpa using cut
        have whole := runs_append [c] (rest ++ separator :: b) plain
        have first := runs_append [c] rest plain
        rw [List.singleton_append] at whole first
        rw [List.cons_append, whole, first, ih]

theorem join_runs_append (run next : Text) (others more : List (Char × Text)) (separator : Char) :
    joinRuns run (others ++ (separator, next) :: more) = joinRuns run others ++ separator :: joinRuns next more := by
  simp [joinRuns]

theorem in_runs_append (offset : Nat) (run next : Text) (others more : List (Char × Text)) (separator : Char) :
    inRuns offset run (others ++ (separator, next) :: more) =
      inRuns offset run others ++ inRuns (offset + byteLength (joinRuns run others) + separator.utf8Size) next more := by
  induction others generalizing offset run with
  | nil => rw [List.nil_append, joinRuns, List.flatMap_nil, List.append_nil, inRuns, inRuns]
  | cons other others ih =>
      obtain ⟨first, second⟩ := other
      have place : offset + byteLength run + first.utf8Size + byteLength (joinRuns second others) =
          offset + byteLength (joinRuns run ((first, second) :: others)) := by
        rw [join_runs_cons, byte_length_append, byteLength]
        omega
      rw [List.cons_append, inRuns, inRuns, ih, place, List.append_assoc]

theorem in_runs_moved (distance offset : Nat) (run : Text) (others : List (Char × Text)) :
    inRuns (distance + offset) run others = (inRuns offset run others).map (moved distance) := by
  have here (offset : Nat) (run : Text) :
      (inRun? (distance + offset) run).toList = (inRun? offset run).toList.map (moved distance) := by
    rw [in_run_moved (distance + offset), in_run_moved offset]
    cases inRun? 0 run with
    | none => rfl
    | some url => simp [moved, Nat.add_assoc]
  induction others generalizing offset run with
  | nil => exact here offset run
  | cons other others ih =>
      rw [inRuns, inRuns, here, List.map_append, ← ih, Nat.add_assoc distance, Nat.add_assoc distance]

theorem detect_joined (a b : Text) (separator : Char) (separates : isSeparator separator = true) :
    detect (a ++ separator :: b) = detect a ++ (detect b).map (moved (byteLength (a ++ [separator]))) := by
  have size : 0 + byteLength a + separator.utf8Size = byteLength (a ++ [separator]) + 0 := by
    rw [byte_length_append, Nat.zero_add]
    rfl
  change inRuns 0 (runs (a ++ separator :: b)).1 (runs (a ++ separator :: b)).2 = _
  rw [runs_joined a b separator separates, in_runs_append, runs_join, size, in_runs_moved]
  rfl

end LinkTidy.Url
