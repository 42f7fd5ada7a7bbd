import ImportCensus.Files.Error
import ImportCensus.Glob.Pattern

namespace ImportCensus
namespace Project

/-!
# Errors of a project

What can be wrong with a project before any of its files is looked at: its root,
its patterns, or the number of workers that is asked for.  What is wrong with a
single file never stops a scan and is no error of this kind.
-/

inductive ProjectError where
  | missingRoot (root : Files.Path)
  | rootNoDirectory (root : Files.Path)
  /-- The links of the root lead round in a circle. -/
  | circularRoot (root : Files.Path)
  | file (error : Files.FileError)
  | pattern (error : Glob.PatternError)
  /-- A negative number of workers cannot do any work. -/
  | negativeWorkers
  deriving Repr

def ProjectError.message : ProjectError -> String
  | .missingRoot root => root.text ++ ": Path does not exist"
  | .rootNoDirectory root => root.text ++ ": Path must be a directory"
  | .circularRoot root => "Symlink loop from " ++ Text.quoted root.text
  | .file error => error.message
  | .pattern error => error.message
  | .negativeWorkers => "max_workers must be greater than 0"

/-- The root of a project, checked to be a directory that is there. -/
def checkRoot (store : Files.Store) (root : Files.Path) :
    Except ProjectError Files.Path :=
  match store.test (fun _ => true) root, store.test Files.Node.isDirectory root with
  | .error fault, _ | _, .error fault => .error (.file ⟨fault, root⟩)
  | .ok false, _ => .error (.missingRoot root)
  | .ok true, .ok false => .error (.rootNoDirectory root)
  | .ok true, .ok true => .ok root

end Project
end ImportCensus
