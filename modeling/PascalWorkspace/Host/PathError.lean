import PascalWorkspace.FileTree.Basic
import PascalWorkspace.Text.Quoted

/-! The ways in which a path cannot be used, and how each is reported. -/
namespace PascalWorkspace

inductive PathError where
  /-- The operating system refuses the path. -/
  | refused (error : FileError) (path : String)
  /-- A link leads back to itself. -/
  | linkLoop (path : String)
  /-- The path begins with a home directory that is not known. -/
  | homeUnknown
  /-- The path holds a NUL character. -/
  | holdsNul
  /-- The path holds half of a surrogate pair, for which there are no bytes. -/
  | unencodable
  deriving DecidableEq, Repr

def FileError.code : FileError → Nat
  | .notFound => 2
  | .denied => 13
  | .notDirectory => 20
  | .isDirectory => 21
  | .nameTooLong => 36
  | .tooManyLinks => 40

def FileError.text : FileError → String
  | .notFound => "No such file or directory"
  | .denied => "Permission denied"
  | .notDirectory => "Not a directory"
  | .isDirectory => "Is a directory"
  | .nameTooLong => "File name too long"
  | .tooManyLinks => "Too many levels of symbolic links"

/-- A path that names nothing is an ordinary answer, not a fault. -/
def FileError.meansAbsent : FileError → Bool
  | .notFound | .notDirectory | .tooManyLinks => true
  | .isDirectory | .nameTooLong | .denied => false

def PathError.message : PathError → String
  | .refused e path => s!"[Errno {e.code}] {e.text}: {Text.quoted path}"
  | .linkLoop path => s!"Symlink loop from {Text.quoted path}"
  | .homeUnknown => "Could not determine home directory."
  | .holdsNul => "embedded null byte"
  | .unencodable => "surrogates not allowed"

end PascalWorkspace
