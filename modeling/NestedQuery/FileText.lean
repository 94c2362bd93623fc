/-
What reading a file gives: its text, or why there is none.
-/
namespace NestedQuery

inductive FileText where
  | content (text : String)
  /-- The bytes of the file are no text. -/
  | undecodable
  /-- There is no such file. -/
  | missing
  /-- The file may not be read. -/
  | forbidden
  /-- The path leads through a file as if it were a folder. -/
  | throughFile
  /-- The path leads to a folder. -/
  | folder
  | nameTooLong
  /-- Reading failed for another reason. -/
  | failed (reason : String)
  deriving DecidableEq

namespace FileText

/-- What the bytes of a file are. -/
def ofBytes (bytes : ByteArray) : FileText :=
  match String.fromUTF8? bytes with
  | some text => .content text
  | none => .undecodable

/-- The failure with a number of the operating system. -/
def ofCode (code : Nat) (reason : String) : FileText :=
  if code = 2 then .missing
  else if code = 13 then .forbidden
  else if code = 20 then .throughFile
  else if code = 21 then .folder
  else if code = 36 then .nameTooLong
  else .failed reason

/-- The text, or the reason why there is none. -/
def read : FileText → Except String String
  | .content text => .ok text
  | .undecodable => .error "stream did not contain valid UTF-8"
  | .missing => .error "No such file or directory (os error 2)"
  | .forbidden => .error "Permission denied (os error 13)"
  | .throughFile => .error "Not a directory (os error 20)"
  | .folder => .error "Is a directory (os error 21)"
  | .nameTooLong => .error "File name too long (os error 36)"
  | .failed reason => .error reason

end FileText

end NestedQuery
