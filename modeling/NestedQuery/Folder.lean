/-
A folder with files in it, and what a path from the folder leads to. Nothing is known of what lies outside
of the folder but the folders above it.
-/
import NestedQuery.FileText

namespace NestedQuery

/-- The files below a folder, each under its path. -/
structure Folder where
  files : List (List String × FileText) := []

namespace Folder

/-- The names on a path. Empty ones and single dots stay in the same folder. -/
def names (path : String) : List String := (path.splitOn "/").filter fun name => name != "" && name != "."

def ofFiles (files : List (String × FileText)) : Folder := ⟨files.map fun (path, file) => (names path, file)⟩

/-- The greatest number of bytes of a name. -/
def longestName : Nat := 255

/-- The greatest number of bytes of a path. -/
def longestPath : Nat := 4095

/-- What is found at a place below the folder. A place that files lie below is a folder, and so is the folder
itself. -/
def found? (f : Folder) (place : List String) : Option FileText :=
  match f.files.find? (·.1 == place) with
  | some (_, file) => some file
  | none => if place.isEmpty || f.files.any (place.isPrefixOf ·.1) then some .folder else none

/-- Follows the parts of a path from a place below the folder. -/
def walk (f : Folder) (place : List String) : List String → FileText
  | [] => (f.found? place).getD .missing
  | part :: parts =>
    match f.found? place with
    | none => .missing
    | some .folder =>
      if part == "" || part == "." then walk f place parts
      else if part == ".." then
        if place.isEmpty then
          if parts.all (["", ".", ".."].contains ·) then .folder else .missing
        else walk f place.dropLast parts
      else if longestName < part.utf8ByteSize then .nameTooLong
      else walk f (place ++ [part]) parts
    | some _ => .throughFile

/-- What a path leads to. -/
def read (f : Folder) (path : String) : FileText :=
  let parts := path.splitOn "/"
  if path.isEmpty then .missing
  else if longestPath < path.utf8ByteSize then .nameTooLong
  else if parts.head? == some "" then
    if parts.all (["", ".", ".."].contains ·) then .folder else .missing
  else f.walk [] parts

end Folder

end NestedQuery
