import ImportCensus.CommandLine.Command
import ImportCensus.Proofs.Census.Interference
import ImportCensus.Proofs.Config.Merging

namespace ImportCensus
namespace CommandLine

open Files (Node Path Store)
open Project (ProjectError checkRoot)

/-!
# Stages of the command

The command goes through stages: the root is checked, the configuration file is loaded, the
flags are laid over it, and the project is surveyed.  What a user can mend comes up in the
first three, and the first of them that fails is the one that is told (`Refuses`).  Where
all of them are passed and the survey has a result (`Completes`), this result is reported.
There is nothing in between: whatever the outcome, either a whole report is written to the
output stream or nothing is.
-/

variable {surroundings others : Surroundings} {request : Request} {arguments : List String}
  {limits : Limits} {store other : Store} {root : Path} {changes : Config.Overrides} {message : String}

/-- The first stage that fails, in the order of the stages, with the message of its error. -/
inductive Refuses (limits : Limits) (store : Store) (root : Path) (changes : Config.Overrides) :
    String -> Prop
  | missingRoot (checked : checkRoot store root = .error (.missingRoot root)) :
      Refuses limits store root changes (ProjectError.missingRoot root).message
  | rootNoDirectory (checked : checkRoot store root = .error (.rootNoDirectory root)) :
      Refuses limits store root changes (ProjectError.rootNoDirectory root).message
  | configuration {error : Config.ConfigError} (checked : checkRoot store root = .ok root)
      (loaded : Config.loadFile limits store root = .error (.config error)) :
      Refuses limits store root changes error.message
  | flags {found : Option Config.Options} {error : Config.ConfigError}
      (checked : checkRoot store root = .ok root) (loaded : Config.loadFile limits store root = .ok found)
      (merged : (found.getD .default).merge limits changes = .error (.config error)) :
      Refuses limits store root changes error.message

/-- All stages are passed: the options are merged from the configuration file and the
flags, and a run with them has a result. -/
structure Completes (surroundings : Surroundings) (root : Path) (changes : Config.Overrides)
    (options : Config.Options) (result : Census.Result) : Prop where
  checked : checkRoot surroundings.store root = .ok root
  merged : ∃ base, Config.load surroundings.limits surroundings.store root = .ok base ∧
    base.merge surroundings.limits changes = .ok options
  ran : Census.run ⟨surroundings.store, root, surroundings.registry⟩ options
    surroundings.processors = .ok result

/-- The whole report of a result, as the settings ask for it. -/
def Settings.reportOf (settings : Settings) (elapsed : Number.Binary64)
    (handedOut : Census.PackageSet -> List String) (result : Census.Result) : String :=
  if settings.json then (Report.Record.ofResult result elapsed).toJson.text ++ "\n"
  else Report.listing result
    (if settings.sort then result.packages.members else handedOut result.packages)
    (Report.elapsedText elapsed)

/-- The path of the root that is asked for. -/
def Request.path (request : Request) : Path := .ofText request.root

/-! ## What the check of the root says -/

/-- The check of a root names the root that was checked, or passes on a failed look-up. -/
theorem checkRoot_cases (store : Store) (root : Path) :
    checkRoot store root = .ok root ∨ checkRoot store root = .error (.missingRoot root) ∨
      checkRoot store root = .error (.rootNoDirectory root) ∨
      ∃ fault, checkRoot store root = .error (.file fault) := by
  unfold checkRoot
  split
  · exact .inr (.inr (.inr ⟨_, rfl⟩))
  · exact .inr (.inr (.inr ⟨_, rfl⟩))
  · exact .inr (.inl rfl)
  · exact .inr (.inr (.inl rfl))
  · exact .inl rfl

/-! ## Errors behind the check of the root -/

/-- An error that says that the root is wrong, which a user can mend. -/
def BlamesRoot : ProjectError -> Prop
  | .missingRoot _ | .rootNoDirectory _ => True
  | _ => False

theorem ofProjectError_of_not_blames {error : ProjectError} (log : List String)
    (blameless : ¬BlamesRoot error) : ofProjectError log error = .error (.project error) := by
  cases error with
  | missingRoot root => exact absurd trivial blameless
  | rootNoDirectory root => exact absurd trivial blameless
  | _ => rfl

theorem bind_eq_error {ε α β : Type} {first : Except ε α} {next : α -> Except ε β} {error : ε} :
    first.bind next = .error error ↔
      first = .error error ∨ ∃ middle, first = .ok middle ∧ next middle = .error error := by
  cases first <;> simp [Except.bind]

theorem not_blames_readPatterns {lines : List (List Char)} {error : ProjectError}
    (failed : Project.readPatterns lines = .error error) : ¬BlamesRoot error := by
  unfold Project.readPatterns at failed
  split at failed
  · cases failed
  · cases failed
    exact id

theorem not_blames_ignoreFileSpec {error : ProjectError}
    (failed : Project.ignoreFileSpec store root = .error error) : ¬BlamesRoot error := by
  unfold Project.ignoreFileSpec at failed
  dsimp only at failed
  split at failed
  · cases failed
    exact id
  · cases failed
  · split at failed
    · cases failed
      exact id
    · exact not_blames_readPatterns failed

theorem not_blames_ofOptions {exclude : List String} {gitignore : Bool} {error : ProjectError}
    (failed : Project.Ignore.ofOptions store root exclude gitignore = .error error) :
    ¬BlamesRoot error := by
  rcases bind_eq_error.1 failed with excluded | ⟨spec, _, failed⟩
  · exact not_blames_readPatterns excluded
  · cases gitignore with
    | false => cases failed
    | true =>
        rcases bind_eq_error.1 failed with ignored | ⟨_, _, both⟩
        · exact not_blames_ignoreFileSpec ignored
        · cases both

theorem not_blames_walk {exclude : List String} {gitignore : Bool} {error : ProjectError}
    (failed : Project.walk store root exclude gitignore = .error error) : ¬BlamesRoot error := by
  rcases bind_eq_error.1 failed with unresolved | ⟨real, resolved, failed⟩
  · unfold Project.realRoot at unresolved
    split at unresolved
    · cases unresolved
    · cases unresolved
      exact id
    · cases unresolved
      exact id
  · rcases bind_eq_error.1 failed with unread | ⟨ignore, _, listed⟩
    · exact not_blames_ofOptions unread
    · cases listed

/-- A survey checks the root once more and never finds fault with it where the command did
not. -/
theorem not_blames_survey (scope : Census.Scope) {options : Config.Options}
    {processors : Option Nat} {error : ProjectError}
    (checked : checkRoot scope.store scope.root = .ok scope.root)
    (failed : Census.survey scope options processors = .error error) : ¬BlamesRoot error := by
  rcases bind_eq_error.1 failed with unchecked | ⟨root, _, failed⟩
  · cases checked.symm.trans unchecked
  · rcases bind_eq_error.1 failed with unlisted | ⟨files, _, failed⟩
    · exact not_blames_walk unlisted
    · split at failed
      · cases failed
      · dsimp only at failed
        split at failed
        · cases failed
          exact id
        · cases failed

/-! ## Outcomes stage by stage -/

/-- The log lines of a command that has loaded its configuration. -/
def loadedLog (surroundings : Surroundings) (request : Request) (found : Option Config.Options) :
    List String :=
  if request.settings.verbose || surroundings.debug then
    found.toList.map (loadedLine request.path)
  else []

theorem carryOut_unchecked {error : ProjectError}
    (unchecked : checkRoot surroundings.store request.path = .error error) :
    carryOut surroundings request = ofProjectError [] error := by
  unfold carryOut
  rw [show checkRoot surroundings.store (.ofText request.root) = _ from unchecked]

/-- What becomes of a configuration file that gives no options. -/
def ofLoadFault : Config.LoadFault -> Except Failure Reply
  | .config error => .ok (refusal [] error.message)
  | fault => .error (.load fault)

theorem carryOut_unloaded {fault : Config.LoadFault}
    (checked : checkRoot surroundings.store request.path = .ok request.path)
    (unloaded : Config.loadFile surroundings.limits surroundings.store request.path = .error fault) :
    carryOut surroundings request = ofLoadFault fault := by
  unfold carryOut
  rw [show checkRoot surroundings.store (.ofText request.root) = _ from checked]
  dsimp only
  rw [unloaded]
  cases fault <;> rfl

theorem carryOut_loaded {found : Option Config.Options}
    (checked : checkRoot surroundings.store request.path = .ok request.path)
    (loaded : Config.loadFile surroundings.limits surroundings.store request.path = .ok found) :
    carryOut surroundings request =
      match (found.getD .default).merge surroundings.limits request.settings.overrides with
      | .error (.config error) => .ok (refusal (loadedLog surroundings request found) error.message)
      | .error (.untold excess) => .error (.untold excess)
      | .ok options => report surroundings request.path request.settings
          (request.settings.verbose || surroundings.debug) (loadedLog surroundings request found)
          options := by
  unfold carryOut
  rw [show checkRoot surroundings.store (.ofText request.root) = _ from checked]
  dsimp only
  rw [loaded]
  rfl

/-- A survey that fails behind the check of the root is a failure of the command. -/
theorem report_of_error {settings : Settings} {isLogged : Bool} {log : List String}
    {options : Config.Options} {error : ProjectError}
    (checked : checkRoot surroundings.store root = .ok root)
    (failed : Census.survey ⟨surroundings.store, root, surroundings.registry⟩ options
      surroundings.processors = .error error) :
    report surroundings root settings isLogged log options = .error (.project error) := by
  have blameless : ¬BlamesRoot error :=
    not_blames_survey ⟨surroundings.store, root, surroundings.registry⟩ checked failed
  unfold report
  dsimp only
  rw [failed]
  exact ofProjectError_of_not_blames log blameless

/-- The reply to a run that has a result. -/
theorem report_of_run {settings : Settings} {isLogged : Bool} {log : List String}
    {options : Config.Options} {result : Census.Result}
    (ran : Census.run ⟨surroundings.store, root, surroundings.registry⟩ options
      surroundings.processors = .ok result) :
    ∃ errors, report surroundings root settings isLogged log options =
      .ok ⟨0, if settings.json then .json result else .listing result, settings.sort, errors⟩ := by
  rcases bind_eq_ok.1 ran with ⟨survey, surveyed, same⟩
  cases same
  refine ⟨String.join ((if isLogged then log ++ surveyLines root survey else []).map logged), ?_⟩
  unfold report
  dsimp only
  rw [surveyed]

/-- The outcome of the command where it refuses: the error is told behind the log lines, and
nothing is reported. -/
theorem carryOut_of_refuses
    (refuses : Refuses surroundings.limits surroundings.store request.path request.settings.overrides message) :
    ∃ log, carryOut surroundings request = .ok (refusal log message) := by
  cases refuses with
  | missingRoot checked => exact ⟨[], carryOut_unchecked checked⟩
  | rootNoDirectory checked => exact ⟨[], carryOut_unchecked checked⟩
  | configuration checked loaded => exact ⟨[], carryOut_unloaded checked loaded⟩
  | flags checked loaded merged =>
      rw [carryOut_loaded checked loaded, merged]
      exact ⟨_, rfl⟩

/-- The outcome of the command where it completes. -/
theorem carryOut_of_completes {options : Config.Options} {result : Census.Result}
    (completes : Completes surroundings request.path request.settings.overrides options result) :
    ∃ errors, carryOut surroundings request =
      .ok ⟨0, if request.settings.json then .json result else .listing result,
        request.settings.sort, errors⟩ := by
  rcases completes.merged with ⟨base, loaded, merged⟩
  rw [Config.load_eq] at loaded
  cases found : Config.loadFile surroundings.limits surroundings.store request.path with
  | error fault =>
      rw [found] at loaded
      cases loaded
  | ok options =>
      rw [found] at loaded
      cases loaded
      rw [carryOut_loaded completes.checked found, merged]
      exact report_of_run completes.ran

/-- The command refuses, completes, or hands a failure on. -/
theorem carryOut_cases (surroundings : Surroundings) (request : Request) :
    (∃ message, Refuses surroundings.limits surroundings.store request.path request.settings.overrides message) ∨
      (∃ options result,
        Completes surroundings request.path request.settings.overrides options result) ∨
      ∃ failure, carryOut surroundings request = .error failure := by
  rcases checkRoot_cases surroundings.store request.path with
    checked | missing | noDirectory | ⟨fault, unchecked⟩
  · cases loaded : Config.loadFile surroundings.limits surroundings.store request.path with
    | error fault =>
        have outcome := carryOut_unloaded checked loaded
        cases fault with
        | config error => exact .inl ⟨_, .configuration checked loaded⟩
        | value fault => exact .inr (.inr ⟨_, outcome⟩)
        | file error => exact .inr (.inr ⟨_, outcome⟩)
        | untold excess => exact .inr (.inr ⟨_, outcome⟩)
    | ok found =>
        have base : Config.load surroundings.limits surroundings.store request.path = .ok (found.getD .default) := by
          rw [Config.load_eq, loaded]
          rfl
        cases merged : (found.getD .default).merge surroundings.limits request.settings.overrides with
        | error refused =>
            cases refused with
            | config error => exact .inl ⟨_, .flags checked loaded merged⟩
            | untold excess =>
                refine .inr (.inr ⟨.untold excess, ?_⟩)
                rw [carryOut_loaded checked loaded, merged]
        | ok options =>
            cases surveyed : Census.survey ⟨surroundings.store, request.path,
                surroundings.registry⟩ options surroundings.processors with
            | error error =>
                refine .inr (.inr ⟨.project error, ?_⟩)
                rw [carryOut_loaded checked loaded, merged]
                exact report_of_error checked surveyed
            | ok survey =>
                have ran : Census.run ⟨surroundings.store, request.path, surroundings.registry⟩
                    options surroundings.processors = .ok survey.result :=
                  bind_eq_ok.2 ⟨survey, surveyed, rfl⟩
                exact .inr (.inl ⟨options, survey.result, checked, ⟨_, base, merged⟩, ran⟩)
  · exact .inl ⟨_, .missingRoot missing⟩
  · exact .inl ⟨_, .rootNoDirectory noDirectory⟩
  · exact .inr (.inr ⟨_, carryOut_unchecked unchecked⟩)

/-- What is written in the end where the command completes. -/
theorem written_of_completes {options : Config.Options} {result : Census.Result}
    (completes : Completes surroundings request.path request.settings.overrides options result)
    (elapsed : Number.Binary64) (handedOut : Census.PackageSet -> List String) :
    written elapsed handedOut (carryOut surroundings request) =
      request.settings.reportOf elapsed handedOut result := by
  rcases carryOut_of_completes completes with ⟨errors, outcome⟩
  rw [outcome]
  show Output.render elapsed _ (if request.settings.json then .json result else .listing result) = _
  unfold Settings.reportOf
  cases request.settings.json with
  | true => rfl
  | false => cases request.settings.sort <;> rfl

/-! ## What a refusal has read -/

/-- A refusal rests on where things stand and on what the configuration file holds.  No
other file has been read. -/
theorem carryOut_alike
    (refuses : Refuses surroundings.limits surroundings.store request.path request.settings.overrides message)
    (alike : surroundings.store.Alike others.store) (debug : others.debug = surroundings.debug)
    (stack : others.stack = surroundings.stack)
    (content : others.store.content (request.path.child Config.configFile) =
      surroundings.store.content (request.path.child Config.configFile)) :
    carryOut others request = carryOut surroundings request := by
  have checks : checkRoot others.store request.path = checkRoot surroundings.store request.path :=
    Project.checkRoot_alike alike _
  have limits : others.limits = surroundings.limits := congrArg Limits.usual stack
  have loads : Config.loadFile others.limits others.store request.path =
      Config.loadFile surroundings.limits surroundings.store request.path := by
    unfold Config.loadFile
    dsimp only
    rw [limits, alike.test_isFile, content]
  cases refuses with
  | missingRoot checked =>
      rw [carryOut_unchecked checked, carryOut_unchecked (checks.trans checked)]
  | rootNoDirectory checked =>
      rw [carryOut_unchecked checked, carryOut_unchecked (checks.trans checked)]
  | configuration checked loaded =>
      rw [carryOut_unloaded checked loaded,
        carryOut_unloaded (checks.trans checked) (loads.trans loaded)]
  | flags checked loaded merged =>
      rw [carryOut_loaded checked loaded,
        carryOut_loaded (checks.trans checked) (loads.trans loaded), limits, merged]
      dsimp only
      rw [loadedLog, loadedLog, debug]

/-! ## The main result -/

/-- Nothing is reported in part.  With the exit code zero the whole report of a run with the
merged options is written.  Where the root, the configuration file or the flags are refused,
in this order, the exit code is two, nothing is written, the error stream ends with the
message, and no file but the configuration file has been read: whatever the others hold,
the reply is the same.  A failure that is handed on leaves nothing written, and there is no
other exit code. -/
theorem command_reports_or_refuses (surroundings : Surroundings) (arguments : List String)
    (request : Request) (accepted : readArguments arguments = .ok request) :
    (∀ reply, command surroundings arguments = .ok reply -> reply.code = 0 ->
        ∃ options result,
          Completes surroundings request.path request.settings.overrides options result ∧
          ∀ elapsed handedOut, written elapsed handedOut (command surroundings arguments) =
            request.settings.reportOf elapsed handedOut result) ∧
      (∀ message, Refuses surroundings.limits surroundings.store request.path request.settings.overrides message ->
        (∃ reply log, command surroundings arguments = .ok reply ∧ reply.code = 2 ∧
          reply.errors = log ++ (String.ofList (Text.trimEnd message.toList) ++ "\n")) ∧
        (∀ elapsed handedOut, written elapsed handedOut (command surroundings arguments) = "") ∧
        ∀ others : Surroundings, surroundings.store.Alike others.store ->
          others.debug = surroundings.debug -> others.stack = surroundings.stack ->
          others.store.content (request.path.child Config.configFile) =
            surroundings.store.content (request.path.child Config.configFile) ->
          command others arguments = command surroundings arguments) ∧
      (∀ failure, command surroundings arguments = .error failure ->
        ∀ elapsed handedOut, written elapsed handedOut (command surroundings arguments) = "") ∧
      ∀ reply, command surroundings arguments = .ok reply ->
        reply.code = 0 ∨ reply.code = 2 ∧
          ∃ message, Refuses surroundings.limits surroundings.store request.path request.settings.overrides message := by
  have carried : ∀ any, command any arguments = carryOut any request := by
    intro any
    unfold command
    rw [accepted]
  rw [carried]
  refine ⟨?_, ?_, ?_, ?_⟩
  · intro reply outcome code
    rcases carryOut_cases surroundings request with ⟨message, refuses⟩ | ⟨options, result, completes⟩ |
      ⟨failure, failed⟩
    · rcases carryOut_of_refuses refuses with ⟨log, refused⟩
      cases outcome.symm.trans refused
      cases code
    · exact ⟨options, result, completes, written_of_completes completes⟩
    · cases outcome.symm.trans failed
  · intro message refuses
    rcases carryOut_of_refuses refuses with ⟨log, refused⟩
    refine ⟨⟨_, _, refused, rfl, rfl⟩, ?_, ?_⟩
    · intro elapsed handedOut
      rw [refused]
      rfl
    · intro others alike debug stack content
      rw [carried]
      exact carryOut_alike refuses alike debug stack content
  · intro failure failed elapsed handedOut
    rw [failed]
    rfl
  · intro reply outcome
    rcases carryOut_cases surroundings request with ⟨message, refuses⟩ | ⟨options, result, completes⟩ |
      ⟨failure, failed⟩
    · rcases carryOut_of_refuses refuses with ⟨log, refused⟩
      cases outcome.symm.trans refused
      exact .inr ⟨rfl, message, refuses⟩
    · rcases carryOut_of_completes completes with ⟨errors, reported⟩
      cases outcome.symm.trans reported
      exact .inl rfl
    · cases outcome.symm.trans failed

/-- The surroundings of a project that can be surveyed. -/
def aroundOne : Surroundings :=
  ⟨Census.importingOne.store, Census.importingOne.registry, some 4, false, .unbounded⟩

theorem checked_aroundOne : checkRoot aroundOne.store (.ofText "/") = .ok (.ofText "/") := by cbv

theorem loaded_aroundOne :
    Config.loadFile aroundOne.limits aroundOne.store (.ofText "/") = .ok none := by
  apply Config.loadFile_of_missing
  rw [Store.place_eq_follow (by cbv) (by cbv)]
  cbv

theorem refuses_aroundOne : Refuses aroundOne.limits aroundOne.store (.ofText "/") ⟨some 0, [], none⟩
    "--workers: expected positive integer, got 0" := by
  have message : (Config.ConfigError.workersOption 0).message =
      "--workers: expected positive integer, got 0" := rfl
  have merged : Config.Options.default.merge aroundOne.limits ⟨some 0, [], none⟩ =
      .error (.config (.workersOption 0)) := by
    rw [Config.merge_of_illegal rfl (by decide), Config.refusal_workersOption Limits.admits_zero]
  exact message ▸ Refuses.flags checked_aroundOne loaded_aroundOne merged

/-- That no worker at all is asked for is seen once the configuration file is loaded. -/
theorem aroundOne_refuses_no_workers :
    (∃ reply log, command aroundOne ["/", "--workers", "0"] = .ok reply ∧ reply.code = 2 ∧
        reply.errors = log ++ "--workers: expected positive integer, got 0\n") ∧
      ∀ elapsed handedOut,
        written elapsed handedOut (command aroundOne ["/", "--workers", "0"]) = "" := by
  have accepted : readArguments ["/", "--workers", "0"] =
      .ok ⟨"/", some "/", false, false, some 0, [], none, false⟩ := by cbv
  rcases command_reports_or_refuses aroundOne _ _ accepted with ⟨_, refused, _, _⟩
  rcases refused _ refuses_aroundOne with ⟨⟨reply, log, outcome, code, errors⟩, written, _⟩
  refine ⟨⟨reply, log, outcome, code, ?_⟩, written⟩
  have line : String.ofList (Text.trimEnd "--workers: expected positive integer, got 0".toList) ++
      "\n" = "--workers: expected positive integer, got 0\n" := by cbv
  rw [errors, line]

end CommandLine
end ImportCensus
