import PascalWorkspace.FileTree.Basic
import PascalWorkspace.Uri.FileUri

/-! A file tree as text: one entry on a line, of a letter for its kind, its path and its content or
the target of a link, with one blank between them. Paths, contents and targets are percent-encoded.
-/
namespace PascalWorkspace

namespace FileTree

/-- The entry that a line stands for. -/
def entryOfLine? (line : List Char) : Option (Location × Entry) :=
  match Path.splitChars ' ' line with
  | [['d'], path] => some (location path, .directory)
  | [['f'], path, content] =>
    some (location path, .file (Uri.percentDecode (Text.Utf8.encode content)))
  | [['l'], path, target] => some (location path, .link (Uri.unescape target))
  | _ => none
where
  location (path : List Char) : Location := (Path.ofString (Uri.unescape path)).parts

/-- The directories above a location that are not in the tree. -/
def missingParents (t : FileTree) (loc : Location) : List Location :=
  ((List.range loc.length).map loc.take).filter fun parent => (t.entryAt parent).isNone

/-- Adds an entry below directories, which are added as far as they are missing. -/
def putBelow (t : FileTree) (entry : Location × Entry) : FileTree :=
  ((t.missingParents entry.1).foldl (fun t parent => t.put parent .directory) t).put entry.1 entry.2

/-- The tree that a text lists. Lines that are no entries are passed over. -/
def ofListing (text : String) : FileTree :=
  ((Path.splitChars '\n' text.toList).filterMap entryOfLine?).foldl putBelow empty

end FileTree

end PascalWorkspace
