import ImportCensus.Files.Store
import ImportCensus.Text.Quoted

namespace ImportCensus
namespace Files

/-!
# Texts of failed look-ups

A failed look-up is told by the number that systems give to its cause, the
cause, and the path in quotes.  A null character is refused before any look-up.
-/

/-- The number and the text of a cause. -/
def LookupFault.cause : LookupFault -> Nat × String
  | .missing => (2, "No such file or directory")
  | .notDirectory => (20, "Not a directory")
  | .isDirectory => (21, "Is a directory")
  | .nameTooLong => (36, "File name too long")
  | .tooManyLinks => (40, "Too many levels of symbolic links")
  | .nullCharacter => (22, "embedded null byte")

def FileError.message (e : FileError) : String :=
  match e.fault with
  | .nullCharacter => e.fault.cause.2
  | fault =>
    "[Errno " ++ toString fault.cause.1 ++ "] " ++ fault.cause.2 ++ ": " ++
      Text.quoted e.path.text

end Files
end ImportCensus
