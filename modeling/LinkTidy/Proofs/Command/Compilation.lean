import LinkTidy.Proofs.Command.Options
import LinkTidy.Proofs.Command.Sources
import LinkTidy.Proofs.FilterList.ShownLines
import LinkTidy.Proofs.Rule.FirstSeen
/-!
Compiling lists from files: each file is reported on, and the rules of all of them are printed once, in the order in
which they are first seen. A file that cannot be read ends the run behind the reports on those before it.
-/

set_option autoImplicit false

namespace LinkTidy.Command

open Utf8 (encode)

-- Arguments that name these inputs in order, with or without the flags for a report on each and for the rules.
inductive CompileFlags : List Text → Bool → Bool → List Text → Prop where
  | none : CompileFlags [] false false []
  | input (path : Text) (written : List Text) (paths : List Text) (verbose dump : Bool) (rest : List Text)
      (flag : ValueFlag 'i' "input".toList path written) (others : CompileFlags paths verbose dump rest) :
      CompileFlags (path :: paths) verbose dump (written ++ rest)
  | verbose (spelling : Text) (spelled : spelling = "-v".toList ∨ spelling = "--verbose".toList) (paths : List Text)
      (dump : Bool) (rest : List Text) (others : CompileFlags paths false dump rest) :
      CompileFlags paths true dump (spelling :: rest)
  | dump (paths : List Text) (verbose : Bool) (rest : List Text) (others : CompileFlags paths verbose false rest) :
      CompileFlags paths verbose true ("--dump".toList :: rest)

-- What compile flags add to what has been given before them.
structure AddsInputs (given next : Given) (paths : List Text) (verbose dump : Bool) : Prop where
  inputs : next.values .input = given.values .input ++ paths
  verbose : next.has .verbose = (given.has .verbose || verbose)
  dump : next.has .dump = (given.has .dump || dump)
  texts : next.texts = given.texts

theorem AddsInputs.trans {given middle next : Given} {paths others : List Text} {verbose verbose' dump dump' : Bool}
    (first : AddsInputs given middle paths verbose dump) (second : AddsInputs middle next others verbose' dump') :
    AddsInputs given next (paths ++ others) (verbose || verbose') (dump || dump') where
  inputs := by rw [second.inputs, first.inputs, List.append_assoc]
  verbose := by rw [second.verbose, first.verbose, Bool.or_assoc]
  dump := by rw [second.dump, first.dump, Bool.or_assoc]
  texts := second.texts.trans first.texts

theorem adds_option (given : Given) (name : OptionName) (value : Text) :
    AddsInputs given (given.with name value) (if name = .input then [value] else []) (name == .verbose)
      (name == .dump) where
  inputs := values_with given name value .input
  verbose := has_with given name value .verbose
  dump := has_with given name value .dump
  texts := rfl

theorem compile_flags_read (given : Given) (paths : List Text) (verbose dump : Bool) (arguments : List Text)
    (flags : CompileFlags paths verbose dump arguments) (noVerbose : verbose = true → given.has .verbose = false)
    (noDump : dump = true → given.has .dump = false) :
    ∃ next, readArguments .compile none false given arguments = .given next ∧
      AddsInputs given next paths verbose dump := by
  induction flags generalizing given with
  | none => exact ⟨given, rfl, (List.append_nil _).symm, (Bool.or_false _).symm, (Bool.or_false _).symm, rfl⟩
  | input path written paths verbose dump others flag _ ih =>
      have here := adds_option given .input path
      obtain ⟨next, read, adds⟩ := ih (given.with .input path)
        (fun set => here.verbose.trans (congrArg (· || false) (noVerbose set)))
        (fun set => here.dump.trans (congrArg (· || false) (noDump set)))
      refine ⟨next, ?_, here.trans adds⟩
      rw [value_flag_read .compile given .input 'i' _ path rfl rfl rfl others written flag, read]
  | verbose spelling spelled paths dump others _ ih =>
      have here := adds_option given .verbose []
      obtain ⟨next, read, adds⟩ := ih (given.with .verbose []) nofun
        (fun set => here.dump.trans (congrArg (· || false) (noDump set)))
      refine ⟨next, ?_, here.trans adds⟩
      rcases spelled with rfl | rfl
      · exact (short_switch_read .compile given .verbose 'v' rfl rfl nofun (noVerbose rfl) others).trans read
      · exact (long_switch_read .compile given .verbose "verbose".toList rfl rfl nofun (noVerbose rfl) others).trans read
  | dump paths verbose others _ ih =>
      have here := adds_option given .dump []
      obtain ⟨next, read, adds⟩ := ih (given.with .dump [])
        (fun set => here.verbose.trans (congrArg (· || false) (noVerbose set))) nofun
      refine ⟨next, ?_, here.trans adds⟩
      exact (long_switch_read .compile given .dump "dump".toList rfl rfl nofun (noDump rfl) others).trans read

theorem compile_flags_requested (paths : List Text) (verbose dump : Bool) (arguments : List Text)
    (flags : CompileFlags paths verbose dump arguments) :
    Request.ofArguments? ("compile".toList :: arguments) =
      if paths.isEmpty then none else some (.compile paths verbose dump) := by
  obtain ⟨given, read, adds⟩ := compile_flags_read {} paths verbose dump arguments flags (fun _ => rfl) (fun _ => rfl)
  have inputs : given.values .input = paths := adds.inputs
  rw [request_of_verb "compile".toList .compile rfl _ _ read, Given.request?, has_values, adds.texts, inputs,
    adds.verbose, adds.dump]
  cases paths <;> rfl

-- The reports on files, numbered from the first one on.
def fileReports (contents : Text → Text) (first : Nat) (paths : List Text) : Text :=
  (paths.zipIdx first).flatMap fun file =>
    listReport file.2 file.1 (lines (contents file.1)).length (FilterList.compile (contents file.1)).length

def fileLines (contents : Text → Text) (paths : List Text) : Nat :=
  (paths.map fun path => (lines (contents path)).length).sum

def fileRules (contents : Text → Text) (paths : List Text) : Nat :=
  (paths.map fun path => (FilterList.compile (contents path)).length).sum

theorem file_reports_cons (contents : Text → Text) (first : Nat) (path : Text) (rest : List Text) :
    fileReports contents first (path :: rest) =
      listReport first path (lines (contents path)).length (FilterList.compile (contents path)).length ++
        fileReports contents (first + 1) rest := rfl

theorem file_reports_ended (contents : Text → Text) (first : Nat) (paths : List Text) (somePath : paths ≠ []) :
    (fileReports contents first paths).getLast? = some '\n' := by
  induction paths generalizing first with
  | nil => exact absurd rfl somePath
  | cons path rest ih =>
      have ended : ∀ lineCount ruleCount, (listReport first path lineCount ruleCount).getLast? = some '\n' := by
        intro lineCount ruleCount
        have feed : " rules\n".toList.getLast? = some '\n' := by decide
        unfold listReport
        rw [List.getLast?_append, feed, Option.some_or]
      rw [file_reports_cons, List.getLast?_append]
      cases rest with
      | nil => exact ended _ _
      | cons next more => rw [ih (first + 1) (List.cons_ne_nil next more), Option.some_or]

theorem all_rules_length (contents : Text → Text) (paths : List Text) :
    (allRules contents paths).length = fileRules contents paths :=
  List.length_flatMap

def Compilation.addFiles (verbose : Bool) (contents : Text → Text) (c : Compilation) (paths : List Text) : Compilation :=
  paths.foldl (fun c path => c.add verbose path (contents path)) c

theorem first_unreadable (read : FileReader) (paths : List Text) (bad : ∃ path ∈ paths, ¬ Readable read path) :
    ∃ front path behind, paths = front ++ path :: behind ∧ ¬ Readable read path ∧
      ∀ earlier ∈ front, Readable read earlier := by
  induction paths with
  | nil =>
      obtain ⟨path, member, -⟩ := bad
      cases member
  | cons path rest ih =>
      by_cases here : Readable read path
      · obtain ⟨other, member, unreadable⟩ := bad
        have later : other ∈ rest := (List.mem_cons.mp member).resolve_left fun same => unreadable (same ▸ here)
        obtain ⟨front, first, behind, rfl, unreadable, earlier⟩ := ih ⟨other, later, unreadable⟩
        exact ⟨path :: front, first, behind, rfl, unreadable, List.forall_mem_cons.mpr ⟨here, earlier⟩⟩
      · exact ⟨[], path, rest, rfl, here, List.forall_mem_nil _⟩

section

variable (verbose : Bool) (contents : Text → Text)

theorem add_files_all (c : Compilation) (paths : List Text) :
    c.addFiles verbose contents paths = {
      lists := c.lists + paths.length
      lineCount := c.lineCount + fileLines contents paths
      rules := c.rules ++ allRules contents paths
      stdout := c.stdout ++ if verbose then fileReports contents c.lists paths else [] } := by
  induction paths generalizing c with
  | nil => simp [Compilation.addFiles, fileLines, allRules, fileReports]
  | cons path rest ih =>
      have step : c.addFiles verbose contents (path :: rest) =
          (c.add verbose path (contents path)).addFiles verbose contents rest := rfl
      rw [step, ih, file_reports_cons]
      cases verbose <;> simp [Compilation.add, fileLines, allRules, Nat.add_assoc, Nat.add_comm 1]

variable (read : FileReader)

theorem compile_lists_read (front behind : List Text) (c : Compilation)
    (there : ∀ path ∈ front, read path = .ok (encode (contents path))) :
    compileLists read verbose (front ++ behind) c =
      compileLists read verbose behind (c.addFiles verbose contents front) := by
  induction front generalizing c with
  | nil => rfl
  | cons path rest ih =>
      obtain ⟨here, others⟩ := List.forall_mem_cons.mp there
      rw [List.cons_append, compileLists, (read_text_iff read path _).mpr here]
      exact ih _ others

theorem compile_lists_all (paths : List Text) (there : ∀ path ∈ paths, read path = .ok (encode (contents path))) :
    compileLists read verbose paths {} = (Compilation.addFiles verbose contents {} paths, none) := by
  have all := compile_lists_read verbose contents read paths [] {} there
  rw [List.append_nil] at all
  exact all

theorem compile_lists_stops (front behind : List Text) (bad : Text) (unreadable : ¬ Readable read bad)
    (there : ∀ path ∈ front, read path = .ok (encode (contents path))) :
    ∃ e, compileLists read verbose (front ++ bad :: behind) {} =
      (Compilation.addFiles verbose contents {} front, some e) := by
  rw [compile_lists_read verbose contents read front (bad :: behind) {} there, compileLists]
  cases found : read.readText bad with
  | error e => exact ⟨_, rfl⟩
  | ok text => exact absurd ⟨text, (read_text_iff read bad text).mp found⟩ unreadable

end

-- The rules of some files as they are printed.
def printedRules (contents : Text → Text) (paths : List Text) : List Text :=
  (Rule.dedupe (allRules contents paths)).map Rule.display

-- The report on all files, by its numbers.
def countsReport (lists lineCount before after : Nat) : Text :=
  "Compiled ".toList ++ natText lists ++ " filter lists\n".toList ++
    "  Lines:    ".toList ++ natText lineCount ++ "\n".toList ++
    "  Rules:    ".toList ++ natText before ++ " -> ".toList ++ natText after ++
    " (dedupe removed ".toList ++ natText (before - after) ++ ")\n".toList

def compiledText (contents : Text → Text) (paths : List Text) : Text :=
  fileReports contents 0 paths ++ unlines (printedRules contents paths) ++
    countsReport paths.length (fileLines contents paths) (fileRules contents paths) (printedRules contents paths).length

theorem report_counts (c : Compilation) :
    c.report = countsReport c.lists c.lineCount c.rules.length ((Rule.dedupe c.rules).map Rule.display).length := by
  unfold Compilation.report countsReport
  simp only [(Rule.deduped c.rules).stats, List.length_map]

section

variable {σ : Type} (outside : Outside σ) (state : σ) (input : Bytes) (paths arguments : List Text)
  (flags : CompileFlags paths true true arguments)

include flags

theorem compile_refused (noPath : paths = []) :
    visible outside state input ("compile".toList :: arguments) = ([], usageExitCode) := by
  rw [visible, compile_flags_requested paths true true arguments flags, noPath]
  rfl

variable (somePath : paths ≠ [])

include somePath

theorem compile_visible : visible outside state input ("compile".toList :: arguments) =
    ((compile (outside.read state) paths true true).stdout,
      (compile (outside.read state) paths true true).exitCode) := by
  have given : paths.isEmpty = false := List.isEmpty_eq_false_iff.mpr somePath
  rw [visible, compile_flags_requested paths true true arguments flags, given]
  rfl

theorem compile_prints (contents : Text → Text)
    (there : ∀ path ∈ paths, outside.read state path = .ok (encode (contents path))) :
    visible outside state input ("compile".toList :: arguments) = (compiledText contents paths, 0) := by
  have outcome : compile (outside.read state) paths true true = ⟨compiledText contents paths, none⟩ := by
    rw [compile, compile_lists_all true contents _ paths there, add_files_all]
    simp only [report_counts, if_true, List.nil_append, Nat.zero_add, all_rules_length]
    rfl
  rw [compile_visible outside state input paths arguments flags somePath, outcome]
  rfl

theorem compile_stops (bad : ∃ path ∈ paths, ¬ Readable (outside.read state) path) :
    ∃ contents front path behind, paths = front ++ path :: behind ∧ ¬ Readable (outside.read state) path ∧
      (∀ earlier ∈ front, outside.read state earlier = .ok (encode (contents earlier))) ∧
        visible outside state input ("compile".toList :: arguments) = (fileReports contents 0 front, 1) := by
  obtain ⟨front, path, behind, whole, unreadable, readable⟩ := first_unreadable _ paths bad
  obtain ⟨contents, there⟩ := readable_contents _ front readable
  refine ⟨contents, front, path, behind, whole, unreadable, there, ?_⟩
  obtain ⟨e, stops⟩ := compile_lists_stops true contents _ front behind path unreadable there
  have outcome : compile (outside.read state) paths true true = ⟨fileReports contents 0 front, some e⟩ := by
    rw [compile, whole, stops, add_files_all]
    rfl
  rw [compile_visible outside state input paths arguments flags somePath, outcome]
  rfl

end

theorem printed_rules_lines (contents : Text → Text) (paths : List Text) :
    ∀ shown ∈ printedRules contents paths, '\n' ∉ shown ∧ shown.getLast? ≠ some '\r' := by
  intro shown member
  obtain ⟨rule, kept, rfl⟩ := List.mem_map.mp member
  obtain ⟨path, -, inside⟩ := List.mem_flatMap.mp ((Rule.deduped _).ordered.subset kept)
  exact FilterList.compile_display_line _ rule inside

theorem compiled_text_lines (contents : Text → Text) (paths : List Text) (somePath : paths ≠ []) :
    lines (compiledText contents paths) = lines (fileReports contents 0 paths) ++ printedRules contents paths ++
      lines (countsReport paths.length (fileLines contents paths) (fileRules contents paths)
        (printedRules contents paths).length) := by
  rw [compiledText, List.append_assoc, lines_append _ _ (file_reports_ended contents 0 paths somePath),
    lines_unlines _ (printed_rules_lines contents paths), List.append_assoc]

-- Of the rules that are shown alike the first is kept, whatever list they stand in. So the rules of readable files are
-- printed on as many lines as are counted behind the arrow, each of them once and in the order in which the files first
-- show them, and in front of it the rules of each file are counted. Where a file cannot be read, nothing is printed but the
-- reports on those before it.
theorem compile_prints_first_seen :
    (∀ rules : List Rule, Rule.Deduped rules) ∧
      ∀ {σ : Type} (outside : Outside σ) (state : σ) (input : Bytes) (paths arguments : List Text),
        CompileFlags paths true true arguments →
        (paths = [] → visible outside state input ("compile".toList :: arguments) = ([], usageExitCode)) ∧
        (paths ≠ [] →
          (∀ contents : Text → Text, (∀ path ∈ paths, outside.read state path = .ok (encode (contents path))) →
            visible outside state input ("compile".toList :: arguments) = (compiledText contents paths, 0) ∧
              lines (compiledText contents paths) =
                lines (fileReports contents 0 paths) ++ printedRules contents paths ++
                  lines (countsReport paths.length (fileLines contents paths) (fileRules contents paths)
                    (printedRules contents paths).length) ∧
              (printedRules contents paths).Nodup) ∧
          ((∃ path ∈ paths, ¬ Readable (outside.read state) path) →
            ∃ contents front path behind, paths = front ++ path :: behind ∧ ¬ Readable (outside.read state) path ∧
              (∀ earlier ∈ front, outside.read state earlier = .ok (encode (contents earlier))) ∧
                visible outside state input ("compile".toList :: arguments) = (fileReports contents 0 front, 1))) := by
  refine ⟨Rule.deduped, fun outside state input paths arguments flags => ⟨?_, fun somePath => ?_⟩⟩
  · exact compile_refused outside state input paths arguments flags
  refine ⟨fun contents there => ⟨?_, ?_, ?_⟩, ?_⟩
  · exact compile_prints outside state input paths arguments flags somePath contents there
  · exact compiled_text_lines contents paths somePath
  · exact (Rule.deduped _).distinct
  · exact compile_stops outside state input paths arguments flags somePath

-- The second file repeats a rule of the first one, and the third is no text.
theorem compile_prints_two_files :
    let read : FileReader := fun path =>
      if path = ['a'] then .ok (encode "$removeparam=u|v\n! note".toList)
      else if path = ['b'] then .ok (encode "$removeparam=v\n||x^$removeparam=u\n".toList)
      else if path = ['c'] then .ok [0xFF]
      else .error .missing
    let asked (flags : List String) : List Text := "compile".toList :: flags.map String.toList
    visible .offline read [] (asked ["--dump", "-v", "-i", "a", "--input=b"]) =
        (unlines (["  [0] a - 2 lines, 2 rules", "  [1] b - 2 lines, 2 rules", "General: \"u\"", "General: \"v\"",
          "Specific: [\"x\"] - \"u\"", "Compiled 2 filter lists", "  Lines:    4",
          "  Rules:    4 -> 3 (dedupe removed 1)"].map String.toList), 0) ∧
      visible .offline read [] (asked ["-ic", "--verbose", "-i=a", "--dump"]) = ([], 1) := by
  intro read asked
  have both : CompileFlags [['a'], ['b']] true true (["--dump", "-v", "-i", "a", "--input=b"].map String.toList) :=
    .dump _ _ _ (.verbose _ (.inl rfl) _ _ _ (.input ['a'] _ _ _ _ _ (.short rfl)
      (.input ['b'] _ _ _ _ _ .longEquals .none)))
  have broken : CompileFlags [['c'], ['a']] true true (["-ic", "--verbose", "-i=a", "--dump"].map String.toList) :=
    .input ['c'] _ _ _ _ _ (.attached 'c' [] rfl (by decide)) (.verbose _ (.inr rfl) _ _ _
      (.input ['a'] _ _ _ _ _ .shortEquals (.dump _ _ _ .none)))
  have unreadable : ¬ Readable read ['c'] := by
    rintro ⟨text, there⟩
    have invalid : ¬ Utf8.Valid [0xFF] := by decide +kernel
    exact invalid ⟨text, (Except.ok.inj there).symm⟩
  obtain ⟨-, runs⟩ := compile_prints_first_seen
  let contents : Text → Text := fun path =>
    if path = ['a'] then "$removeparam=u|v\n! note".toList else "$removeparam=v\n||x^$removeparam=u\n".toList
  obtain ⟨shown, -, -⟩ := ((runs .offline read [] _ _ both).2 (by decide)).1 contents (by decide +kernel)
  obtain ⟨_, front, path, behind, whole, -, there, stopped⟩ :=
    ((runs .offline read [] _ _ broken).2 (by decide)).2 ⟨['c'], by decide, unreadable⟩
  -- The file that cannot be read is the first one, so nothing is in front of it.
  have first : front = [] := by
    cases front with
    | nil => rfl
    | cons earlier more =>
        have same : earlier = ['c'] := (List.cons.inj whole).1.symm
        exact absurd ⟨_, same ▸ there earlier List.mem_cons_self⟩ unreadable
  rw [first] at stopped
  exact ⟨shown.trans (by decide +kernel), stopped⟩

end LinkTidy.Command
