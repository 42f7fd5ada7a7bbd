import ImportCensus.Census.Classify
import ImportCensus.Files.Error
import ImportCensus.Imports.Collect
import ImportCensus.Text.Utf8

namespace ImportCensus
namespace Census

/-!
# What a file contributes

A file either contributes the third-party packages that it imports, or it cannot
be used: it cannot be opened, is no text, or is no source.
-/

/-- Why a file cannot be used. -/
inductive FileFault where
  | unopened (error : Files.FileError)
  | undecodable (fault : Text.DecodeFault)
  | noSource (file : Files.Path) (error : Source.SourceError)
  deriving Repr

/-- The message of an error in a source, after the path of its file if it is known. -/
def sourceMessage (file : Option Files.Path) (error : Source.SourceError) : String :=
  match file with
  | some path => path.text ++ ": " ++ error.message
  | none => error.message

def FileFault.message : FileFault -> String
  | .unopened error => error.message
  | .undecodable fault => fault.message
  | .noSource file error => sourceMessage (some file) error

/-- The text of a file: without a byte order mark and with line feeds only. -/
def readText (store : Files.Store) (file : Files.Path) : Except FileFault (List Char) :=
  match store.content file with
  | .error fault => .error (.unopened ⟨fault, file⟩)
  | .ok content =>
    match Text.decodeMarked content with
    | .error fault => .error (.undecodable fault)
    | .ok text => .ok (Text.foldNewlines text)

/-- The references in a file. -/
def readReferences (store : Files.Store) (file : Files.Path) :
    Except FileFault (List Imports.Reference) := do
  let text ← readText store file
  match Source.readSource text with
  | .error error => .error (.noSource file error)
  | .ok document => .ok (Imports.collect document)

/-- What a file contributes. -/
abbrev Contribution := Except FileFault PackageSet

namespace Scope

/-- The third-party packages that a file imports. -/
def contribution (scope : Scope) (file : Files.Path) : Contribution := do
  let references ← readReferences scope.store file
  return scope.thirdParty file (Imports.absoluteBases references)

/-- What a file contributes, or what is no reason to pass over the file: a path with a
null character, which is refused before it is looked up. -/
def askContribution (scope : Scope) (file : Files.Path) : Except Files.FileError Contribution :=
  match readReferences scope.store file with
  | .error (.unopened ⟨.nullCharacter, path⟩) => .error ⟨.nullCharacter, path⟩
  | .error fault => .ok (.error fault)
  | .ok references =>
    (scope.askThirdParty file (Imports.absoluteBases references)).map Except.ok

end Scope

end Census
end ImportCensus
