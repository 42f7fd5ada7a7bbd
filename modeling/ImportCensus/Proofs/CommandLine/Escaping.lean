import ImportCensus.Proofs.CommandLine.Rejection
import ImportCensus.Proofs.Config.Escaping

namespace ImportCensus
namespace CommandLine

open Config (LoadFault LoadVerdict Untellable configFile load)
open Files (Node Path Store)
open Project (checkRoot)

/-!
# Broken configuration files

A project whose configuration file is broken is refused with a message that names the file.
That is the promise, and it is kept for every fault but two kinds: a value in the file that cannot
be made, and data that are too long or too deep for what there is to tell, end the command with a
failure of its own.
-/

variable {surroundings : Surroundings} {root : Path}

/-- What the command makes of a fault in the configuration. -/
theorem command_of_unloaded {arguments : List String} {request : Request} {error : LoadFault}
    (accepted : readArguments arguments = .ok request)
    (checked : checkRoot surroundings.store request.path = .ok request.path)
    (unloaded : load surroundings.limits surroundings.store request.path = .error error) :
    command surroundings arguments = ofLoadFault error := by
  have unloadedFile : Config.loadFile surroundings.limits surroundings.store request.path = .error error := by
    rw [Config.load_eq] at unloaded
    cases found : Config.loadFile surroundings.limits surroundings.store request.path with
    | error other =>
        rw [found] at unloaded
        cases unloaded
        rfl
    | ok options =>
        rw [found] at unloaded
        cases unloaded
  unfold command
  rw [accepted]
  exact carryOut_unloaded checked unloadedFile

/-- Loading the configuration of a root gives options, an error that names the file, or one of
the three faults that escape: the path is too long to be asked for, a value in the file cannot
be made, or the file ends in an excess, which it does wherever there is one (`Untellable`).  Where
the file is a list of names with scalars and is not too deep to be read, it is a value exactly if one
of the scalars has no value and those in front of it have theirs.  The command refuses an error with
the exit code two and its message, and hands what escapes on. -/
theorem broken_file_refused_or_escapes (limits : Limits) (store : Store) (root : Path) :
    LoadVerdict limits store root (load limits store root) ∧
      (∀ content decoded excess,
        store.content (root.child configFile) = .ok content -> Text.decode content = .ok decoded ->
        Untellable limits (Text.foldNewlines decoded) excess ->
        ∃ first, load limits store root = .error (.untold first)) ∧
      (∀ content decoded fields start isOld fault,
        store.content (root.child configFile) = .ok content -> Text.decode content = .ok decoded ->
        Yaml.readNode (Text.foldNewlines decoded) = .ok (some (Yaml.rootOf fields start), isOld) ->
        Yaml.AreFields fields ->
        (load limits store root = .error (.value fault) ↔
          limits.reads (Text.foldNewlines decoded) = true ∧ Yaml.FirstLacking isOld fields (.value fault))) ∧
      ∀ error, load limits store root = .error error -> checkRoot store root = .ok root ->
        ∀ surroundings : Surroundings, surroundings.store = store -> surroundings.limits = limits ->
          ∀ arguments request, readArguments arguments = .ok request -> request.path = root ->
          command surroundings arguments = match error with
            | .config error => .ok ⟨2, .fixed "", false, lineOf error.message⟩
            | escaping => .error (.load escaping) := by
  refine ⟨Config.loadVerdict_load limits store root, ?_, ?_, ?_⟩
  · intro content decoded excess opened decodes untellable
    rw [Config.load_of_file opened]
    exact Config.ofContent_of_untellable decodes untellable
  · intro content decoded fields start isOld fault opened decodes isRoot areFields
    exact Config.load_eq_value_of_fields opened decodes isRoot areFields
  · rintro error unloaded checked surroundings rfl rfl arguments request accepted rfl
    rw [command_of_unloaded accepted checked unloaded]
    cases error with
    | config error => exact congrArg Except.ok (refusal_nil error.message)
    | _ => rfl

/-- A project with a configuration file of one line, whose value is marked as an integer and is
none. -/
def misspelt : Store where
  root := .directory [("tpi.yaml", .file ("workers: !!int 'x'\n".toList.map Char.toNat))]
  working := []

/-- The fault about a value that a result has. -/
def valueFault? {α : Type} : Except Yaml.Fault α -> Option Yaml.ValueFault
  | .error (.value fault) => some fault
  | _ => none

theorem eq_error_of_valueFault {α : Type} {result : Except Yaml.Fault α} {fault : Yaml.ValueFault}
    (found : valueFault? result = some fault) : result = .error (.value fault) := by
  unfold valueFault? at found
  split at found
  · cases found
    rfl
  · cases found

theorem checkRoot_misspelt : checkRoot misspelt ⟨1, []⟩ = .ok ⟨1, []⟩ := by
  have place : misspelt.place ⟨1, []⟩ = .ok [] := by
    rw [Store.place_eq_follow (by cbv) (by cbv)]
    cbv
  have found : misspelt.node ⟨1, []⟩ = .ok misspelt.root := by
    rw [Store.node, place]
    rfl
  exact Project.checkRoot_of_node found

theorem content_misspelt : misspelt.content ((⟨1, []⟩ : Path).child configFile) =
    .ok ("workers: !!int 'x'\n".toList.map Char.toNat) := by
  have path : (⟨1, []⟩ : Path).child configFile = ⟨1, ["tpi.yaml"]⟩ := by cbv
  have place : misspelt.place ⟨1, ["tpi.yaml"]⟩ = .ok ["tpi.yaml"] := by
    rw [Store.place_eq_follow (by cbv) (by cbv)]
    cbv
  rw [path, Store.content, Store.node, place]
  rfl

theorem load_misspelt :
    load (.usual .unbounded) misspelt ⟨1, []⟩ = .error (.value (.integer 10 "x")) := by
  have decodes : Text.decode ("workers: !!int 'x'\n".toList.map Char.toNat) =
      .ok "workers: !!int 'x'\n".toList := by cbv
  rw [Config.load_of_file content_misspelt, Config.ofContent_eq_value decodes]
  exact ⟨rfl, eq_error_of_valueFault (by decide +kernel)⟩

/-- Not every file that is there is loaded or told as an error of the configuration. -/
theorem misspelt_escapes :
    ¬∀ (store : Store) (root : Path), checkRoot store root = .ok root ->
      (∃ options, load (.usual .unbounded) store root = .ok options) ∨
        ∃ error, load (.usual .unbounded) store root = .error (.config error) := by
  intro handled
  rcases handled misspelt ⟨1, []⟩ checkRoot_misspelt with ⟨options, loaded⟩ | ⟨error, failed⟩
  · rw [load_misspelt] at loaded
    cases loaded
  · rw [load_misspelt] at failed
    cases failed

end CommandLine
end ImportCensus
