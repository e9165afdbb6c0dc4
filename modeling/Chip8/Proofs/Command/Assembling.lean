import Chip8.Command.Assemble
import Chip8.Proofs.Command.FileTree

/-! # All or nothing when assembling

What the words behind the command that assembles ask for, which program some sources come to, and
what the command then leaves behind: the finished program at the target and all other files as they
were, or all files as they were.
-/

namespace Chip8.Command

/-- The words ask for a program of some sources in the file at a target. -/
structure Asks (words sources : List String) (target : String) : Prop where
  line : ∃ line, Line.read assembleForms words = .ok line ∧ line.has .help = false ∧
    line.arguments = sources ++ [target]
  some_source : sources ≠ []

def AsksForHelp (words : List String) : Prop :=
  ∃ line, Line.read assembleForms words = .ok line ∧ line.has .help = true

/-- The file of a path holds the text of a source, which goes by the stem of the file. -/
def IsSource (tree : FileTree) (path : String) (source : Assembly.SourceModule) : Prop :=
  ∃ content text, tree.read path = .ok content ∧ Text.decodeFile content = .ok text ∧
    source = ⟨Path.stem path, text⟩

/-- All sources can be read, and together and in order they assemble into a program. -/
def Builds (tree : FileTree) (paths : List String) (program : List UInt8) : Prop :=
  ∃ sources, List.Forall₂ (IsSource tree) paths sources ∧ Assembly.assemble sources = .ok program

variable {tree : FileTree} {words sources : List String} {target : String} {program : List UInt8}

theorem collect_eq_ok {path : String} {source : Assembly.SourceModule} :
    collect tree path = .ok source ↔ IsSource tree path source := by
  constructor
  · intro collected
    obtain ⟨content, reads, collected⟩ := Outcome.bind_eq_ok.mp collected
    obtain ⟨text, decodes, collected⟩ := Outcome.bind_eq_ok.mp collected
    exact ⟨content, text, Outcome.mapError_eq_ok.mp reads, Outcome.mapError_eq_ok.mp decodes,
      (Except.ok.inj collected).symm⟩
  · rintro ⟨content, text, reads, decodes, rfl⟩
    refine Outcome.bind_eq_ok.mpr ⟨content, Outcome.mapError_eq_ok.mpr reads, ?_⟩
    exact Outcome.bind_eq_ok.mpr ⟨text, Outcome.mapError_eq_ok.mpr decodes, rfl⟩

theorem builds_iff :
    Builds tree sources program ↔
      ∃ modules, sources.mapM (collect tree) = .ok modules ∧
        Assembly.assemble modules = .ok program := by
  simp only [Builds, Outcome.mapM_eq_ok, collect_eq_ok]

/-- What can be read is there. -/
theorem lookUp?_of_read {path : String} {content : List UInt8}
    (reads : tree.read path = .ok content) : (tree.lookUp? path).isNone = false := by
  unfold FileTree.read at reads
  split at reads
  · rename_i there
    rw [there]
    rfl
  · cases reads
  · cases reads

/-- No source of a program is missing. -/
theorem find?_missing_of_builds (built : Builds tree sources program) :
    (sources.find? fun path => (tree.lookUp? path).isNone) = none := by
  obtain ⟨modules, collected, _⟩ := builds_iff.mp built
  refine List.find?_eq_none.mpr fun path member => ?_
  obtain ⟨source, collects⟩ := Outcome.ok_of_mapM_eq_ok collected member
  obtain ⟨content, _, reads, _⟩ := collect_eq_ok.mp collects
  rw [lookUp?_of_read reads]
  exact Bool.false_ne_true

theorem ofWords_of_help (asks : AsksForHelp words) :
    AssembleRequest.ofWords tree words = .ok .help := by
  obtain ⟨line, read, help⟩ := asks
  refine (congrArg (· >>= _) read).trans ?_
  exact if_pos help

/-- A request goes on to be built unless a source is missing. -/
theorem ofWords_of_asks (asks : Asks words sources target) :
    AssembleRequest.ofWords tree words =
      match sources.find? fun path => (tree.lookUp? path).isNone with
      | none => .ok (.build sources target)
      | some path => .error (.ofPath path) := by
  obtain ⟨line, read, helpless, arguments⟩ := asks.line
  have some_source : sources.isEmpty = false := List.isEmpty_eq_false_iff.mpr asks.some_source
  refine (congrArg (· >>= _) read).trans ?_
  change (if line.has .help = true then _ else _) = _
  rw [helpless, arguments]
  simp only [Bool.false_eq_true, if_false, List.dropLast_concat, List.getLast?_concat, some_source]
  cases sources.find? fun path => (tree.lookUp? path).isNone <;> rfl

/-- A request that is read is one for help, or one to build what the words ask for. -/
theorem asked_of_ofWords {request : AssembleRequest}
    (reads : AssembleRequest.ofWords tree words = .ok request) :
    match request with
    | .help => AsksForHelp words
    | .build sources target => Asks words sources target := by
  obtain ⟨line, read, reads⟩ := Outcome.bind_eq_ok.mp reads
  split at reads
  · rename_i help
    cases reads
    exact ⟨line, read, help⟩
  · rename_i helpless
    dsimp only at reads
    split at reads
    · cases reads
    · rename_i target last _
      split at reads
      · cases reads
      · rename_i some_source
        cases reads
        refine ⟨⟨line, read, Bool.eq_false_iff.mpr helpless, ?_⟩, ?_⟩
        · exact (List.dropLast_append_getLast? target last).symm
        · exact fun bare => some_source (List.isEmpty_iff.mpr bare)
    · cases reads

theorem UsageError.status_ne_zero (error : UsageError) : error.status ≠ 0 := by
  cases error <;> simp [status]

/-- A build that comes to no program fails and leaves the files as they were. -/
theorem build_of_not_builds (broken : ¬∃ program, Builds tree sources program) :
    (build tree sources target).status ≠ 0 ∧ (build tree sources target).files = tree := by
  unfold build
  cases collected : sources.mapM (collect tree) with
  | error failure => exact ⟨Nat.one_ne_zero, rfl⟩
  | ok modules =>
    simp only
    cases assembled : Assembly.assemble modules with
    | ok program => exact absurd ⟨program, builds_iff.mpr ⟨_, collected, assembled⟩⟩ broken
    | error error => cases error <;> exact ⟨Nat.one_ne_zero, rfl⟩

/-- A build that comes to a program writes it to a target that can be written. -/
theorem build_of_builds (built : Builds tree sources program) (writable : tree.Writable target) :
    (build tree sources target).status = 0 ∧
      (FileTree.write target program).run tree = .ok () (build tree sources target).files := by
  obtain ⟨modules, collected, assembled⟩ := builds_iff.mp built
  obtain ⟨files, wrote⟩ : ∃ files, (FileTree.write target program).run tree = .ok () files :=
    ⟨_, FileTree.write_eq_ok.mpr ⟨writable, rfl⟩⟩
  simp only [build, collected, assembled, wrote, and_self]

/-- A build that fails leaves nothing behind but folders on the way of the target. -/
theorem build_of_failure (failed : (build tree sources target).status ≠ 0) :
    tree.GainsFolders (build tree sources target).files (Path.way target) := by
  by_cases built : ∃ program, Builds tree sources program
  · obtain ⟨program, built⟩ := built
    obtain ⟨modules, collected, assembled⟩ := builds_iff.mp built
    cases wrote : (FileTree.write target program).run tree with
    | ok done files => simp only [build, collected, assembled, wrote, ne_eq, not_true] at failed
    | error error files =>
      simp only [build, collected, assembled, wrote]
      exact FileTree.write_error wrote
  · rw [(build_of_not_builds built).2]
    exact .refl _

/-- A command that fails changes no file, also if it is the target that cannot be written. -/
theorem failure_changes_no_file (failed : (assemble tree words).status ≠ 0) :
    (assemble tree words).files.files = tree.files := by
  unfold assemble at failed ⊢
  cases reads : AssembleRequest.ofWords tree words with
  | error error => rfl
  | ok request =>
    rw [reads] at failed
    cases request with
    | help => rfl
    | build sources target => exact (build_of_failure failed).files

/-- Only finished programs are written. Words that ask for no program leave the files as they were,
and so do sources that cannot be read or assembled. Otherwise the program goes to the target, if
that can be written, and no other file is made or changed; a status of zero tells the user so. -/
theorem only_finished_programs_are_written (tree : FileTree) (words : List String) :
    ((¬∃ sources target, Asks words sources target) →
      ((assemble tree words).status = 0 ↔ AsksForHelp words) ∧
        (assemble tree words).files = tree) ∧
    ∀ sources target, Asks words sources target →
      ((¬∃ program, Builds tree sources program) →
        (assemble tree words).status ≠ 0 ∧ (assemble tree words).files = tree) ∧
      ∀ program, Builds tree sources program → tree.Writable target →
        (assemble tree words).status = 0 ∧
          (assemble tree words).files.content? (Path.place target) = some program ∧
          ∀ other ≠ Path.place target,
            (assemble tree words).files.content? other = tree.content? other := by
  refine ⟨fun idle => ?_, fun sources target asks =>
    ⟨fun broken => ?_, fun program built writable => ?_⟩⟩
  · unfold assemble
    cases reads : AssembleRequest.ofWords tree words with
    | error error =>
      refine ⟨iff_of_false error.status_ne_zero fun help => ?_, rfl⟩
      rw [ofWords_of_help help] at reads
      cases reads
    | ok request =>
      cases request with
      | help => exact ⟨iff_of_true rfl (asked_of_ofWords reads), rfl⟩
      | build sources target => exact absurd ⟨_, _, asked_of_ofWords reads⟩ idle
  · rw [assemble, ofWords_of_asks asks]
    cases sources.find? fun path => (tree.lookUp? path).isNone with
    | none => exact build_of_not_builds broken
    | some path => exact ⟨UsageError.status_ne_zero _, rfl⟩
  · have carried : assemble tree words = build tree sources target := by
      rw [assemble, ofWords_of_asks asks, find?_missing_of_builds built]
    obtain ⟨status, wrote⟩ := build_of_builds built writable
    rw [carried]
    exact ⟨status, FileTree.content?_of_write wrote⟩

/-- Three sources, of which the last refers to a label that is nowhere. -/
def desk : FileTree :=
  ⟨[(["main.c8"], "jp &tail::end".toUTF8.toList), (["lib", "tail.c8"], "end: ret".toUTF8.toList),
    (["broken.c8"], "jp &nowhere".toUTF8.toList)], []⟩

/-- A program may take the place of its own source, but a broken one does not. -/
theorem finished_program_replaces_source :
    (assemble desk ["main.c8", "-v", "lib/tail.c8", "main.c8"]).files.content? ["main.c8"] =
        some [0x12, 0x02, 0x00, 0xEE] ∧
      (assemble desk ["lib/tail.c8", "broken.c8", "main.c8"]).files = desk ∧
      (assemble desk ["main.c8"]).files = desk := by
  refine ⟨?_, ?_, ?_⟩
  · obtain ⟨_, built⟩ := only_finished_programs_are_written desk
      ["main.c8", "-v", "lib/tail.c8", "main.c8"]
    have asks : Asks ["main.c8", "-v", "lib/tail.c8", "main.c8"] ["main.c8", "lib/tail.c8"]
        "main.c8" := ⟨⟨⟨[(.verbose, "")], _⟩, rfl, rfl, rfl⟩, by decide⟩
    have builds : Builds desk ["main.c8", "lib/tail.c8"] [0x12, 0x02, 0x00, 0xEE] :=
      builds_iff.mpr ⟨[⟨"main", "jp &tail::end"⟩, ⟨"tail", "end: ret"⟩], by decide +kernel,
        by decide +kernel⟩
    have writable : desk.Writable "main.c8" :=
      ⟨by decide +kernel, by decide +kernel, by decide +kernel, by decide +kernel,
        by decide +kernel⟩
    have place : Path.place "main.c8" = ["main.c8"] := by decide +kernel
    obtain ⟨_, here, _⟩ := (built _ _ asks).2 _ builds writable
    rwa [place] at here
  · obtain ⟨_, built⟩ := only_finished_programs_are_written desk
      ["lib/tail.c8", "broken.c8", "main.c8"]
    have asks : Asks ["lib/tail.c8", "broken.c8", "main.c8"] ["lib/tail.c8", "broken.c8"]
        "main.c8" := ⟨⟨⟨[], _⟩, rfl, rfl, rfl⟩, by decide⟩
    refine ((built _ _ asks).1 fun ⟨program, builds⟩ => ?_).2
    obtain ⟨sources, collected, assembled⟩ := builds_iff.mp builds
    have read : ["lib/tail.c8", "broken.c8"].mapM (collect desk) =
        .ok [⟨"tail", "end: ret"⟩, ⟨"broken", "jp &nowhere"⟩] := by decide +kernel
    obtain rfl := Except.ok.inj (read.symm.trans collected)
    have fails : (Assembly.assemble [⟨"tail", "end: ret"⟩, ⟨"broken", "jp &nowhere"⟩]).toOption =
        none := by decide +kernel
    rw [assembled] at fails
    cases fails
  · obtain ⟨idle, _⟩ := only_finished_programs_are_written desk ["main.c8"]
    refine (idle fun ⟨sources, target, ⟨line, read, _, arguments⟩, some_source⟩ => ?_).2
    have alone : Line.read assembleForms ["main.c8"] = .ok ⟨[], ["main.c8"]⟩ := rfl
    obtain rfl := Except.ok.inj (alone.symm.trans read)
    have short := congrArg List.length arguments
    have long := List.length_pos_iff.mpr some_source
    simp only [List.length_append, List.length_singleton] at short
    omega

end Chip8.Command
