import ImportCensus.Proofs.Census.Spelling
import ImportCensus.Proofs.CommandLine.Arguments
import ImportCensus.Proofs.CommandLine.Reports
import ImportCensus.Proofs.Project.Configuring

namespace ImportCensus

/-!
# Settings in a file and settings as flags

A setting means the same in the configuration file and as a flag.  Moving settings from the
flags to the file that is added for them neither changes the options that are merged in the
end, since patterns are kept in their order, nor what a run with these options finds, since
the new file is no part of the project.  So the command replies the same, apart from what it
logs.
-/

namespace Census

open Files (Node Path)
open Project (Configures)

variable {scope : Scope} {row : List String} {content : List Nat}

/-! ## Runs -/

/-- The scope with a configuration file in its root. -/
def Scope.configured (scope : Scope) (content : List Nat) : Scope :=
  scope.inStore (Project.configure scope.store scope.root content)

theorem eq_or_errors_of_toOption {ε α : Type} {first second : Except ε α}
    (same : first.toOption = second.toOption) :
    first = second ∨ ∃ fault other, first = .error fault ∧ second = .error other := by
  cases first with
  | error fault =>
      cases second with
      | error other => exact .inr ⟨fault, other, rfl, rfl⟩
      | ok value => cases same
  | ok value =>
      cases second with
      | error other => cases same
      | ok other => exact .inl (congrArg Except.ok (Option.some.inj same))

theorem contribution_of_unopened (scope : Scope) {file : Path} {fault : Files.LookupFault}
    (unopened : scope.store.content file = .error fault) :
    (scope.contribution file).toOption = none := by
  unfold Scope.contribution readReferences readText
  rw [unopened]
  rfl

/-- A source contributes what it contributed, or both times it fails. -/
theorem contribution_configured (configures : Configures scope.store scope.root row content)
    {file : Path} {ignore : Project.Ignore}
    (source : file ∈ Project.sourceFiles scope.store ⟨1, row⟩ ignore) :
    ((scope.configured content).contribution file).toOption =
      (scope.contribution file).toOption := by
  have formed := configures.formed
  rcases (Project.mem_sourceFiles formed rfl).1 source with ⟨above, name, rfl, isSource⟩
  have within := ((Node.listed_iff formed).1 isSource.listed).1
  have entry := isSource.entryNames formed name (List.mem_append_right _ List.mem_cons_self)
  rcases eq_or_errors_of_toOption (configures.content_after within entry isSource.suffixed) with
    same | ⟨fault, other, failed, failedBefore⟩
  · rw [Scope.configured, contribution_inStore same fun module single =>
      configures.isLocal_after single within name]
  · rw [contribution_of_unopened (scope.configured content) failed,
      contribution_of_unopened scope failedBefore]

/-- A run with the new file finds what it found without. -/
theorem run_configured (configures : Configures scope.store scope.root row content)
    (options : Config.Options) (processors : Option Nat) :
    run (scope.configured content) options processors = run scope options processors := by
  have resolved := Project.realRoot_of_finds configures.formed configures.finds
  have walks : Project.walk (scope.configured content).store (scope.configured content).root
      options.exclude options.gitignore =
        Project.walk scope.store scope.root options.exclude options.gitignore :=
    configures.walk_eq _ _
  have directory : (scope.configured content).store.holds Node.isDirectory
      (scope.configured content).root = true := configures.isDirectory_after
  apply run_congr configures.isDirectory directory walks
  intro files listed
  rw [Project.walk_of_realRoot resolved] at listed
  rcases Glob.map_eq_ok.1 listed with ⟨ignore, _, rfl⟩
  exact folded_congr_toOption fun file source => contribution_configured configures source

end Census

namespace CommandLine

open Census (Scope)
open Config (Datum Options SpellsOut configFile)
open Files (Node Path Store)
open Project (Configures Unconfigured checkRoot configure)

variable {surroundings : Surroundings} {root : Path} {row : List String} {content : List Nat}
  {settings : Settings} {inFile asFlags : Options}

/-! ## Options -/

/-- All settings, where some are in the file and the others are flags. -/
def joined (inFile asFlags : Options) : Options :=
  ⟨asFlags.workers.or inFile.workers, inFile.exclude ++ asFlags.exclude,
    inFile.gitignore || asFlags.gitignore⟩

theorem valid_joined (first : inFile.Valid) (second : asFlags.Valid) :
    (joined inFile asFlags).Valid := by
  intro n given
  rcases Option.or_eq_some_iff.1 given with flag | ⟨_, file⟩
  · exact second n flag
  · exact first n file

theorem told_joined {limits : Limits} (first : inFile.Told limits) (second : asFlags.Told limits) :
    (joined inFile asFlags).Told limits := by
  intro n given
  rcases Option.or_eq_some_iff.1 given with flag | ⟨_, file⟩
  · exact second n flag
  · exact first n file

/-- The options are the same in the end, or the flags are refused for the same number of
workers. -/
theorem merge_joined (limits : Limits) (valid : inFile.Valid) (settings : Settings) (asFlags : Options) :
    Options.default.merge limits (settings.over (changesOf (joined inFile asFlags))).overrides =
      inFile.merge limits (settings.over (changesOf asFlags)).overrides := by
  have patterns : [] ++ (inFile.exclude ++ asFlags.exclude ++ settings.exclude) =
      inFile.exclude ++ (asFlags.exclude ++ settings.exclude) := by
    rw [List.nil_append, List.append_assoc]
  have ignored : (settings.gitignore.or
      (if (inFile.gitignore || asFlags.gitignore) = true then some true else none)).getD false =
        (settings.gitignore.or (if asFlags.gitignore = true then some true else none)).getD
          inFile.gitignore := by
    cases settings.gitignore <;> cases inFile.gitignore <;> cases asFlags.gitignore <;> rfl
  unfold Options.merge
  congr 1
  unfold Options.override Settings.overrides Settings.over changesOf joined Options.default
  dsimp only
  rw [patterns, ignored, ← Option.or_assoc]
  cases settings.workers.or asFlags.workers with
  | some n => rfl
  | none =>
      rw [Option.none_or]
      cases workers : inFile.workers with
      | none => rfl
      | some n =>
          have positive := valid n workers
          exact if_neg (by omega)

/-! ## Replies -/

/-- What is told to the caller of the command, or the failure that is handed on: all of a
reply but what it writes to the error stream. -/
def Reply.told (reply : Reply) : Nat × Output × Bool := (reply.code, reply.output, reply.sorted)

/-- Two outcomes have the same exit code and write the same to the output stream, or the same
failure is handed on. -/
def SameOutcome (first second : Except Failure Reply) : Prop :=
  first.map Reply.code = second.map Reply.code ∧
    ∀ elapsed handedOut, written elapsed handedOut first = written elapsed handedOut second

theorem sameOutcome_of_told {first second : Except Failure Reply}
    (same : first.map Reply.told = second.map Reply.told) : SameOutcome first second := by
  cases first with
  | error failure =>
      cases second with
      | error other =>
          cases same
          exact ⟨rfl, fun _ _ => rfl⟩
      | ok other => cases same
  | ok reply =>
      cases second with
      | error other => cases same
      | ok other =>
          have parts : reply.told = other.told := Except.ok.inj same
          rcases reply with ⟨code, output, sorted, errors⟩
          rcases other with ⟨otherCode, otherOutput, otherSorted, otherErrors⟩
          cases parts
          exact ⟨rfl, fun _ _ => rfl⟩

/-- The scope of a command with a root. -/
def Surroundings.scope (surroundings : Surroundings) (root : Path) : Scope :=
  ⟨surroundings.store, root, surroundings.registry⟩

/-- What is told once the options have been merged, if they could be. -/
def toldOf (surroundings : Surroundings) (root : Path) (settings : Settings) :
    Except Config.Refusal Options -> Except Failure (Nat × Output × Bool)
  | .error (.config _) => .ok (mendableCode, .fixed "", false)
  | .error (.untold excess) => .error (.untold excess)
  | .ok options =>
    match Census.run (surroundings.scope root) options surroundings.processors with
    | .error error => .error (.project error)
    | .ok result => .ok (0, if settings.json then .json result else .listing result, settings.sort)

theorem told_report {isLogged : Bool} {log : List String} {options : Options}
    (checked : checkRoot surroundings.store root = .ok root) :
    (report surroundings root settings isLogged log options).map Reply.told =
      toldOf surroundings root settings (.ok options) := by
  unfold toldOf
  dsimp only
  cases ran : Census.run (surroundings.scope root) options surroundings.processors with
  | error error =>
      rcases bind_eq_error.1 ran with surveyed | ⟨_, _, made⟩
      · rw [report_of_error checked surveyed]
        rfl
      · cases made
  | ok result =>
      have completed : ∃ errors, report surroundings root settings isLogged log options =
          .ok ⟨0, if settings.json then .json result else .listing result, settings.sort, errors⟩ :=
        report_of_run ran
      rcases completed with ⟨errors, reported⟩
      rw [reported]
      rfl

theorem told_carryOut (request : Request) {found : Option Options}
    (checked : checkRoot surroundings.store request.path = .ok request.path)
    (loaded : Config.loadFile surroundings.limits surroundings.store request.path = .ok found) :
    (carryOut surroundings request).map Reply.told =
      toldOf surroundings request.path request.settings
        ((found.getD .default).merge surroundings.limits request.settings.overrides) := by
  rw [carryOut_loaded checked loaded]
  cases (found.getD .default).merge surroundings.limits request.settings.overrides with
  | error refused => cases refused <;> rfl
  | ok options => exact told_report checked

/-- The same surroundings with other files. -/
def Surroundings.inStore (surroundings : Surroundings) (store : Store) : Surroundings :=
  { surroundings with store := store }

@[simp] theorem Surroundings.scope_inStore (surroundings : Surroundings) (store : Store)
    (root : Path) :
    (surroundings.inStore store).scope root = (surroundings.scope root).inStore store := rfl

@[simp] theorem Surroundings.limits_inStore (surroundings : Surroundings) (store : Store) :
    (surroundings.inStore store).limits = surroundings.limits := rfl

@[simp] theorem Surroundings.processors_inStore (surroundings : Surroundings) (store : Store) :
    (surroundings.inStore store).processors = surroundings.processors := rfl

/-- The surroundings with a configuration file in a root. -/
def Surroundings.configured (surroundings : Surroundings) (root : Path) (content : List Nat) :
    Surroundings := surroundings.inStore (configure surroundings.store root content)

@[simp] theorem Surroundings.limits_configured (surroundings : Surroundings) (root : Path)
    (content : List Nat) : (surroundings.configured root content).limits = surroundings.limits :=
  surroundings.limits_inStore _

/-- What is told does not depend on settings that have been merged. -/
theorem toldOf_over (before : Config.Overrides) (merged : Except Config.Refusal Options) :
    toldOf surroundings root (settings.over before) merged =
      toldOf surroundings root settings merged := by
  cases merged with
  | error refused => cases refused <;> rfl
  | ok options => rfl

/-- It depends on the surroundings through the runs in them. -/
theorem toldOf_congr {others : Surroundings}
    (runs : ∀ options, Census.run (others.scope root) options others.processors =
      Census.run (surroundings.scope root) options surroundings.processors)
    (merged : Except Config.Refusal Options) :
    toldOf others root settings merged = toldOf surroundings root settings merged := by
  cases merged with
  | error refused => cases refused <;> rfl
  | ok options =>
      unfold toldOf
      dsimp only
      rw [runs]

@[simp] theorem Request.path_over (request : Request) (before : Config.Overrides) :
    (request.over before).path = request.path := rfl

/-- What is asked for with all settings as flags is replied to as if some of them stood in
the file. -/
theorem told_carryOut_configured (request : Request)
    (configures : Configures surroundings.store request.path row content)
    (spellsOut : SpellsOut surroundings.stack content inFile) (valid : inFile.Valid)
    (told : inFile.Told surroundings.limits) (asFlags : Options) :
    (carryOut surroundings (request.over (changesOf (joined inFile asFlags)))).map Reply.told =
      (carryOut (surroundings.configured request.path content) (request.over (changesOf asFlags))).map
        Reply.told := by
  have checked := Census.checkRoot_of_holds configures.isDirectory
  have checkedAfter : checkRoot (surroundings.configured request.path content).store request.path =
      .ok request.path := Census.checkRoot_of_holds configures.isDirectory_after
  have runs : ∀ options, Census.run ((surroundings.configured request.path content).scope request.path)
        options (surroundings.configured request.path content).processors =
      Census.run (surroundings.scope request.path) options surroundings.processors := by
    intro options
    have within : Configures (surroundings.scope request.path).store
        (surroundings.scope request.path).root row content := configures
    rw [Surroundings.configured, Surroundings.scope_inStore, Surroundings.processors_inStore]
    exact Census.run_configured within options surroundings.processors
  -- Both have the same limits, which are rewritten one into the other here: taken for each other
  -- silently, they would be compared by way of the stores.
  have limits := surroundings.limits_configured request.path content
  rcases configures.loadFile_after surroundings.limits with
    ⟨loaded, loadedAfter⟩ | ⟨error, unloaded, unloadedAfter⟩
  · rw [Config.ofContent_of_spellsOut spellsOut valid told, ← limits] at loadedAfter
    have before := told_carryOut (request.over (changesOf (joined inFile asFlags))) checked loaded
    have after := told_carryOut (request.over (changesOf asFlags)) checkedAfter loadedAfter
    rw [before, after, limits, Request.settings_over, Request.settings_over, Request.path_over,
      Request.path_over, toldOf_over, toldOf_over, toldOf_congr runs, Option.getD_none, Option.getD_some,
      merge_joined _ valid]
  · rw [← limits] at unloadedAfter
    have before : carryOut surroundings (request.over (changesOf (joined inFile asFlags))) =
        ofLoadFault (.file error) := carryOut_unloaded checked unloaded
    have after : carryOut (surroundings.configured request.path content) (request.over (changesOf asFlags)) =
        ofLoadFault (.file error) := carryOut_unloaded checkedAfter unloadedAfter
    rw [before, after]

/-! ## The main result -/

/-- A setting means the same in the configuration file and as a flag.  Let a project have no
configuration file, and let one be added that spells out some options and that no link of the
project leads to, with no number of workers that has more digits than can be written and read (such
numbers are told apart by `long_workers_tell_apart`).  The command then has the same outcome as it
had before with these options as further flags in front of the others: the same exit code and the
same output, or the same failure that is handed on.  That goes for any two lists of arguments that
ask for the options in this way, and for the flags themselves, whatever arguments come behind
them. -/
theorem file_means_same_as_flags (surroundings : Surroundings) (root : Path) (row : List String)
    (content : List Nat) (inFile asFlags : Options)
    (unconfigured : Unconfigured surroundings.store root row)
    (unlinked : (configure surroundings.store root content).UnlinkedBelow row (row ++ [configFile]))
    (spellsOut : SpellsOut surroundings.stack content inFile) (validFile : inFile.Valid)
    (validFlags : asFlags.Valid) (toldFile : inFile.Told surroundings.limits)
    (toldFlags : asFlags.Told surroundings.limits) :
    (∀ before after (request : Request), request.path = root ->
        readArguments before = .ok (request.over (changesOf (joined inFile asFlags))) ->
        readArguments after = .ok (request.over (changesOf asFlags)) ->
        SameOutcome (command surroundings before)
          (command (surroundings.configured root content) after)) ∧
      ∀ rest, (∀ request, readArguments rest = .ok request -> request.path = root) ->
        SameOutcome (command surroundings (flagsOf (joined inFile asFlags) ++ rest))
          (command (surroundings.configured root content)
            (flagsOf asFlags ++ rest)) := by
  have configures : Configures surroundings.store root row content := ⟨unconfigured, unlinked⟩
  have outcomes : ∀ request : Request, request.path = root ->
      SameOutcome (carryOut surroundings (request.over (changesOf (joined inFile asFlags))))
        (carryOut (surroundings.configured root content)
          (request.over (changesOf asFlags))) := by
    rintro request rfl
    exact sameOutcome_of_told (told_carryOut_configured request configures spellsOut validFile toldFile asFlags)
  constructor
  · intro before after request path readBefore readAfter
    unfold command
    rw [readBefore, readAfter]
    exact outcomes request path
  · intro rest asked
    unfold command
    rw [readArguments_flagsOf _ (valid_joined validFile validFlags) (told_joined toldFile toldFlags),
      readArguments_flagsOf _ validFlags toldFlags]
    cases read : readArguments rest with
    | error stop => cases stop <;> exact ⟨rfl, fun _ _ => rfl⟩
    | ok request => exact outcomes request (asked request read)

/-- A number of workers with more digits than can be written and read ends the command in either
way, but not in the same.  As a flag it is no number, which the user is told with the exit code
two.  In the file it is read, and what is handed on is that it cannot be logged, unless it cannot
even be told whether there is a file. -/
theorem long_workers_tell_apart (surroundings : Surroundings) (root : Path) (row : List String)
    (content : List Nat) (inFile : Options) {n : Nat}
    (configures : Configures surroundings.store root row content)
    (spellsOut : SpellsOut surroundings.stack content inFile) (validFile : inFile.Valid)
    (asked : inFile.workers = some (n : Int)) (long : 10 ^ Number.mostDigits ≤ n) (rest : List String)
    (request : Request) (read : readArguments rest = .ok request) (path : request.path = root) :
    (∃ error : UsageError, command surroundings (flagsOf inFile ++ rest) =
        .ok ⟨mendableCode, .fixed "", false, error.complaint⟩) ∧
      ∃ fault, command (surroundings.configured root content) rest = .error (.load fault) ∧
        (fault = .untold (.digits Number.mostDigits) ∨ ∃ error, fault = .file error) := by
  subst path
  constructor
  · rcases readArguments_of_long asked long rest with ⟨error, stopped⟩
    refine ⟨error, ?_⟩
    unfold command
    rw [stopped]
  · have checked : checkRoot (surroundings.configured request.path content).store request.path =
        .ok request.path := Census.checkRoot_of_holds configures.isDirectory_after
    have carried : command (surroundings.configured request.path content) rest =
        carryOut (surroundings.configured request.path content) request := by
      unfold command
      rw [read]
    rw [carried]
    rcases configures.loadFile_after (surroundings.configured request.path content).limits with
      ⟨_, loaded⟩ | ⟨error, _, unloaded⟩
    · rw [Config.ofContent_of_long spellsOut validFile asked rfl long] at loaded
      exact ⟨_, carryOut_unloaded checked loaded, .inl rfl⟩
    · exact ⟨_, carryOut_unloaded checked unloaded, .inr ⟨error, rfl⟩⟩

/-- A pattern in a configuration file. -/
def excludingOne : List Nat := [101, 120, 99, 108, 117, 100, 101, 58, 32, 91, 100, 93, 10]

/-- What is read is one key with a list of one pattern. -/
def readsAsPattern (key pattern : String) : Except Yaml.Fault Datum -> Bool
  | .ok (.mapping [(.text named, .list [.text found])]) => named == key && found == pattern
  | _ => false

theorem eq_of_readsAsPattern {key pattern : String} {read : Except Yaml.Fault Datum}
    (reads : readsAsPattern key pattern read = true) :
    read = .ok (.mapping [(.text key, .list [.text pattern])]) := by
  unfold readsAsPattern at reads
  split at reads
  · rw [Bool.and_eq_true, beq_iff_eq, beq_iff_eq] at reads
    rw [reads.1, reads.2]
  · cases reads

/-- A number of workers in a configuration file. -/
def sharingTwo : List Nat := [119, 111, 114, 107, 101, 114, 115, 58, 32, 50, 10]

/-- What is read is one key with a whole number. -/
def readsAsInteger (key : String) (n : Int) : Except Yaml.Fault Datum -> Bool
  | .ok (.mapping [(.text named, .integer found)]) => named == key && found == n
  | _ => false

theorem eq_of_readsAsInteger {key : String} {n : Int} {read : Except Yaml.Fault Datum}
    (reads : readsAsInteger key n read = true) :
    read = .ok (.mapping [(.text key, .integer n)]) := by
  unfold readsAsInteger at reads
  split at reads
  · rw [Bool.and_eq_true, beq_iff_eq, beq_iff_eq] at reads
    rw [reads.1, reads.2]
  · cases reads

theorem reads_each :
    readsAsPattern "exclude" "d" (Yaml.read "exclude: [d]\n".toList) = true ∧
      readsAsInteger "workers" 2 (Yaml.read "workers: 2\n".toList) = true := by
  decide +kernel

theorem spellsOut_excludingOne : SpellsOut .unbounded excludingOne ⟨none, ["d"], false⟩ := by
  have decoded : Text.decode excludingOne = .ok "exclude: [d]\n".toList := by cbv
  have folded : Text.foldNewlines "exclude: [d]\n".toList = "exclude: [d]\n".toList := by cbv
  refine ⟨_, _, decoded, rfl, folded ▸ eq_of_readsAsPattern reads_each.1, ?_⟩
  refine ⟨?_, .absent, .list ["d"], .absent⟩
  intro entry member
  rw [List.mem_singleton.1 member]
  exact ⟨"exclude", by decide, rfl⟩

theorem unconfigured_aroundOne : Unconfigured aroundOne.store (.ofText "/") [] where
  formed := Census.importingOne_wellFormed
  finds := by
    have root : Path.ofText "/" = ⟨1, []⟩ := by cbv
    exact root ▸ Census.finds_importingOne
  vacant := rfl

theorem told_sharingTwo {stack : Stack} {patterns : List String} {gitignore : Bool} :
    Options.Told (.usual stack) ⟨some 2, patterns, gitignore⟩ := by
  rintro _ ⟨⟩
  exact Limits.admits_usual (by decide)

/-- The same pattern is given as a flag and in the file; the other settings are flags both
times. -/
theorem aroundOne_means_same :
    SameOutcome (command aroundOne ["--workers", "2", "--exclude=d", "--gitignore", "/"])
      (command (aroundOne.configured (.ofText "/") excludingOne)
        ["--workers", "2", "--gitignore", "/"]) := by
  have unlinked : (configure aroundOne.store (.ofText "/") excludingOne).UnlinkedBelow []
      ([] ++ [configFile]) := by
    intro below target stands
    have link : (configure aroundOne.store (.ofText "/") excludingOne).root.kindAt ([] ++ below) =
        some (.link target) ↔ aroundOne.store.root.kindAt ([] ++ below) = some (.link target) :=
      (unconfigured_aroundOne.writes excludingOne).kindAt_iff nofun
    exact absurd (link.1 stands) (Node.kindAt_ne_link rfl _ _)
  have claim := file_means_same_as_flags aroundOne (.ofText "/") [] excludingOne ⟨none, ["d"], false⟩
    ⟨some 2, [], true⟩ unconfigured_aroundOne unlinked spellsOut_excludingOne nofun
    (by rintro n ⟨⟩; decide) nofun told_sharingTwo
  have path : ∀ request, readArguments ["/"] = .ok request -> request.path = .ofText "/" := by
    intro request read
    have known : readArguments ["/"] = .ok ⟨"/", { Settings.none with root := some "/" }⟩ := by
      cbv
    cases known.symm.trans read
    rfl
  exact claim.2 ["/"] path

theorem spellsOut_sharingTwo : SpellsOut .unbounded sharingTwo ⟨some 2, [], false⟩ := by
  have decoded : Text.decode sharingTwo = .ok "workers: 2\n".toList := by cbv
  have folded : Text.foldNewlines "workers: 2\n".toList = "workers: 2\n".toList := by cbv
  refine ⟨_, _, decoded, rfl, folded ▸ eq_of_readsAsInteger reads_each.2, ?_⟩
  refine ⟨?_, .integer 2, .absent, .absent⟩
  intro entry member
  rw [List.mem_singleton.1 member]
  exact ⟨"workers", by decide, rfl⟩

/-- A project of one source, which imports one module, and of a link of the name of this module
that leads to where the configuration file will be. -/
def aroundLink : Surroundings where
  store := ⟨.directory [("b.py", .file [105, 109, 112, 111, 114, 116, 32, 99]),
    ("c.py", .link "tpi.yaml")], []⟩
  registry := ⟨"3.12", []⟩
  processors := some 4
  debug := false
  stack := .unbounded

/-- The same project with the file. -/
def configuredLink : Surroundings :=
  aroundLink.inStore ⟨.directory [("b.py", .file [105, 109, 112, 111, 114, 116, 32, 99]),
    ("c.py", .link "tpi.yaml"), ("tpi.yaml", .file sharingTwo)], []⟩

theorem unconfigured_aroundLink : Unconfigured aroundLink.store (.ofText "/") [] where
  formed := by
    have names : Files.IsEntryName "b.py" ∧ Files.IsEntryName "c.py" := by decide
    simp [aroundLink, Node.WellFormed, Node.AllWellFormed, names]
  finds := by
    refine ⟨?_, rfl⟩
    rw [Store.place_eq_follow (by cbv) (by cbv)]
    cbv
  vacant := rfl

theorem configured_aroundLink :
    aroundLink.configured (.ofText "/") sharingTwo = configuredLink := by
  have entry := unconfigured_aroundLink.entryPlace
  unfold Surroundings.configured configure Store.put
  rw [entry]
  rfl

/-! The files that are walked are the same, but the module is local afterwards. -/

def filesLink : List Path := [⟨1, ["b.py"]⟩, ⟨1, ["c.py"]⟩]

theorem walk_aroundLink :
    Project.walk aroundLink.store (.ofText "/") [] false = .ok filesLink := by
  simp only [Project.walk, Project.sourceFiles, Store.holds, Store.node, Store.place_eq_cond]
  cbv

theorem walk_configuredLink :
    Project.walk configuredLink.store (.ofText "/") [] false = .ok filesLink := by
  rw [← configured_aroundLink]
  exact (unconfigured_aroundLink.walk_after rfl).trans walk_aroundLink

def beforeLink : Census.Result := (aroundLink.scope (.ofText "/")).folded filesLink

def afterLink : Census.Result := (configuredLink.scope (.ofText "/")).folded filesLink

theorem classOfBase_aroundLink :
    (aroundLink.scope (.ofText "/")).classOfBase ⟨1, ["b.py"]⟩ "c" = .thirdParty := by
  have missing : ∀ name ∈ ["c", "c.py", "c.pyi"], ∀ property,
      aroundLink.store.holds property ((Path.ofText "/").child name) = false := by
    intro name looked property
    have placed : aroundLink.store.place ((Path.ofText "/").child name) = .error .missing := by
      simp only [List.mem_cons, List.not_mem_nil, or_false] at looked
      rcases looked with rfl | rfl | rfl <;> (rw [Store.place_eq_follow (by cbv) (by cbv)]; cbv)
    unfold Store.holds
    rw [Store.node_of_error placed]
  have parent : (⟨1, ["b.py"]⟩ : Path).parent = .ofText "/" := by cbv
  have unnamed : Project.isNamed aroundLink.store (.ofText "/") "c" = false := by cbv
  have inRoot : Project.hasModule aroundLink.store (.ofText "/") "c" = false :=
    Census.hasModule_eq_false.2 ⟨missing "c" (by decide) _, missing ("c" ++ ".py") (by decide) _,
      missing ("c" ++ ".pyi") (by decide) _⟩
  have foreign : Project.isLocal aroundLink.store (.ofText "/") ⟨1, ["b.py"]⟩ "c" = false := by
    rw [Project.isLocal, parent, unnamed, inRoot]
    rfl
  exact Census.classOfBase_eq_thirdParty_iff.2 ⟨rfl, foreign⟩

theorem reported_beforeLink : "c" ∈ beforeLink.packages := by
  have opened : aroundLink.store.content ⟨1, ["b.py"]⟩ =
      Census.linkedOne.store.content ⟨1, ["b.py"]⟩ := by
    simp only [Store.content, Store.node, Store.place_eq_cond]
    cbv
  have known := Census.readReferences_linkedOne
  rw [← Census.readReferences_congr opened] at known
  cases read : Census.readReferences aroundLink.store ⟨1, ["b.py"]⟩ with
  | error fault =>
      rw [read] at known
      cases known
  | ok references =>
      rw [read] at known
      have contributes : (aroundLink.scope (.ofText "/")).contribution ⟨1, ["b.py"]⟩ =
          .ok ((aroundLink.scope (.ofText "/")).thirdParty ⟨1, ["b.py"]⟩
            (Imports.absoluteBases references)) := by
        unfold Scope.contribution
        rw [show Census.readReferences (aroundLink.scope (.ofText "/")).store _ = _ from read]
        rfl
      have imported : "c" ∈ Imports.absoluteBases references := by
        have modules : Imports.absoluteBases [.direct "c" none] = ["c"] := by cbv
        rw [Option.some.inj known, modules]
        exact List.mem_singleton.2 rfl
      have base : Imports.moduleBase "c" = "c" := by cbv
      refine (Scope.mem_packages_folded _ filesLink "c").2
        ⟨_, List.mem_cons_self, _, contributes, ?_⟩
      exact Census.mem_thirdParty_iff.2 ⟨⟨"c", imported, base⟩, classOfBase_aroundLink⟩

theorem notReported_afterLink : "c" ∉ afterLink.packages := by
  intro reported
  rcases (Scope.mem_packages_folded _ filesLink "c").1 reported with
    ⟨file, _, packages, contributes, member⟩
  have foreign := (Census.foreign_of_contribution contributes member).2
  have placed : configuredLink.store.place ((Path.ofText "/").child ("c" ++ ".py")) =
      .ok ["tpi.yaml"] := by
    rw [Store.place_eq_follow (by cbv) (by cbv)]
    cbv
  have isFile := Store.holds_isFile.2 ⟨_, placed, rfl⟩
  have inRoot : Project.hasModule configuredLink.store (.ofText "/") "c" = true := by
    rw [Project.hasModule, Bool.or_eq_true]
    exact .inr (List.any_eq_true.2 ⟨".py", List.mem_cons_self, isFile⟩)
  have isLocal : Project.isLocal configuredLink.store (.ofText "/") file "c" = true := by
    rw [Project.isLocal, inRoot, Bool.or_true, Bool.true_or]
  cases foreign.symm.trans isLocal

theorem completes_aroundLink :
    Completes aroundLink (.ofText "/") ⟨some 2, [], none⟩ ⟨some 2, [], false⟩ beforeLink where
  checked := by cbv
  merged := by
    refine ⟨.default, ?_, rfl⟩
    rw [Config.load_eq, Config.loadFile_of_missing]
    · rfl
    · rw [Store.place_eq_follow (by cbv) (by cbv)]
      cbv
  ran := by
    rw [Census.run_eq_bind (by cbv), walk_aroundLink]
    rfl

theorem completes_configuredLink :
    Completes configuredLink (.ofText "/") ⟨none, [], none⟩ ⟨some 2, [], false⟩ afterLink where
  checked := by cbv
  merged := by
    have placed : configuredLink.store.place ((Path.ofText "/").child configFile) =
        .ok ["tpi.yaml"] := by
      rw [Store.place_eq_follow (by cbv) (by cbv)]
      cbv
    have valid : Options.Valid ⟨some 2, [], false⟩ := by
      rintro n ⟨⟩
      decide
    have told : Options.Told configuredLink.limits ⟨some 2, [], false⟩ := told_sharingTwo
    refine ⟨⟨some 2, [], false⟩, ?_, rfl⟩
    rw [Config.load_eq, Config.loadFile_of_content (Store.test_isFile placed)
      (Store.content_of_place placed), Config.ofContent_of_spellsOut spellsOut_sharingTwo valid told]
    rfl
  ran := by
    rw [Census.run_eq_bind (by cbv), walk_configuredLink]
    rfl

/-- Where a link of the project leads to the file, the file is a module under another name.
The import of this module is local then, and no longer reported. -/
theorem link_to_file_tells_apart :
    Unconfigured aroundLink.store (.ofText "/") [] ∧
      SpellsOut aroundLink.stack sharingTwo ⟨some 2, [], false⟩ ∧
      Options.Valid ⟨some 2, [], false⟩ ∧
      ¬SameOutcome
        (command aroundLink (flagsOf (joined ⟨some 2, [], false⟩ .default) ++ ["/", "--json"]))
        (command (aroundLink.configured (.ofText "/") sharingTwo)
          (flagsOf .default ++ ["/", "--json"])) := by
  have validFile : Options.Valid ⟨some 2, [], false⟩ := by
    rintro n ⟨⟩
    decide
  have validFlags : Options.default.Valid := by rintro n ⟨⟩
  have toldFlags : Options.default.Told (.usual .unbounded) := by rintro n ⟨⟩
  refine ⟨unconfigured_aroundLink, spellsOut_sharingTwo, validFile, ?_⟩
  rintro ⟨_, same⟩
  have asked : readArguments ["/", "--json"] =
      .ok ⟨"/", some "/", false, true, none, [], none, false⟩ := by cbv
  have first : readArguments (flagsOf (joined ⟨some 2, [], false⟩ .default) ++ ["/", "--json"]) =
      .ok ⟨"/", some "/", false, true, some 2, [], none, false⟩ := by
    rw [readArguments_flagsOf _ (valid_joined validFile validFlags) (told_joined told_sharingTwo toldFlags), asked]
    rfl
  have second : readArguments (flagsOf .default ++ ["/", "--json"]) =
      .ok ⟨"/", some "/", false, true, none, [], none, false⟩ := by
    rw [readArguments_flagsOf .default validFlags toldFlags, asked]
    rfl
  have before : written (.finite false 1 0) Census.PackageSet.members
      (command aroundLink (flagsOf (joined ⟨some 2, [], false⟩ .default) ++ ["/", "--json"])) =
        (Report.Record.ofResult beforeLink (.finite false 1 0)).toJson.text ++ "\n" := by
    unfold command
    rw [first]
    exact written_of_completes completes_aroundLink _ _
  have after : written (.finite false 1 0) Census.PackageSet.members
      (command configuredLink (flagsOf .default ++ ["/", "--json"])) =
        (Report.Record.ofResult afterLink (.finite false 1 0)).toJson.text ++ "\n" := by
    unfold command
    rw [second]
    exact written_of_completes completes_configuredLink _ _
  have texts := same (.finite false 1 0) Census.PackageSet.members
  rw [configured_aroundLink, before, after] at texts
  have read := congrArg readReport? texts
  rw [readReport?_toJson beforeLink isTime_second, readReport?_toJson afterLink isTime_second] at read
  have packages : beforeLink.packages = afterLink.packages := (Prod.mk.inj (Option.some.inj read)).2
  exact notReported_afterLink (packages ▸ reported_beforeLink)

end CommandLine
end ImportCensus
