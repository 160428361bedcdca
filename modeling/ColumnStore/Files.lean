import ColumnStore.Text.Utf8

/-!
# Files

What resource files are read with. Any path can hold anything: where a path leads, and why there may be
nothing to read, is decided outside. So are the words in which a text that is no document is turned down.
-/

namespace ColumnStore

/-- What is read under each path, and what is said about a text that is no document. -/
structure Files where
  read : String → Except String Bytes
  explain : List Char → String

namespace Files

/-- No files at all, so that no text has to be explained. -/
instance : EmptyCollection Files where
  emptyCollection := {
    read := fun _ ↦ .error "No such file or directory (os error 2)"
    explain := fun _ ↦ "" }

def readText (files : Files) (path : String) : Except String (List Char) :=
  match files.read path with
  | .error reason => .error reason
  | .ok bytes =>
    match Utf8.decode? bytes with
    | none => .error "stream did not contain valid UTF-8"
    | some cs => .ok cs

end Files

end ColumnStore
