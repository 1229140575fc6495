import IntcodeMachine.Text.Place

/-!
# Directories

What opening a path gives in a directory that holds files only.  A path is followed name by
name.  Empty names and `.` stay in the directory, `..` leaves it, and a path that starts with
`/` starts outside.  Nothing is known of what lies outside, so no name is found there.  A name
may have at most 255 bytes and a path at most 4095.
-/

namespace IntcodeMachine

/-- Why a file cannot be read. -/
inductive FileError where
  /-- There is nothing at the path. -/
  | notFound
  /-- The path goes on after the name of a file. -/
  | notDirectory
  /-- The path leads to a directory. -/
  | isDirectory
  /-- The path has too many bytes, or a name in it has. -/
  | nameTooLong
  /-- The file is not valid UTF-8. -/
  | invalidText
  /-- Any other reason, in words. -/
  | other (details : String)
  deriving DecidableEq, Repr

/-- The wording of a file error. -/
def FileError.message : FileError → String
  | .notFound => "No such file or directory (os error 2)"
  | .notDirectory => "Not a directory (os error 20)"
  | .isDirectory => "Is a directory (os error 21)"
  | .nameTooLong => "File name too long (os error 36)"
  | .invalidText => "stream did not contain valid UTF-8"
  | .other details => details

/-- A file. -/
structure File where
  /-- Its name in its directory. -/
  name : String
  /-- Its bytes. -/
  content : List UInt8
  deriving DecidableEq, Repr

/-- A directory without directories in it. -/
structure Directory where
  /-- What is in it. -/
  files : List File := []
  deriving DecidableEq, Repr

namespace Directory

/-- The largest number of bytes in a name. -/
def nameLimit : Nat := 255

/-- The largest number of bytes in a path. -/
def pathLimit : Nat := 4095

/-- Why there is no file of a name that is not found. -/
def absence (name : List Char) : FileError :=
  if nameLimit < Text.byteLength name then .nameTooLong else .notFound

/-- Follows names outside the directory. -/
def openOutside : List (List Char) → Except FileError (List UInt8)
  | [] => .error .isDirectory
  | name :: rest =>
      if name = [] ∨ name = ['.'] ∨ name = ['.', '.'] then openOutside rest
      else .error (absence name)

/-- Follows names inside the directory. -/
def openInside (d : Directory) : List (List Char) → Except FileError (List UInt8)
  | [] => .error .isDirectory
  | name :: rest =>
      if name = [] ∨ name = ['.'] then d.openInside rest
      else if name = ['.', '.'] then openOutside rest
      else
        match d.files.find? fun file => file.name.toList = name with
        | none => .error (absence name)
        | some file => if rest.isEmpty then .ok file.content else .error .notDirectory

/-- The bytes of the file at a path. -/
def openFile (d : Directory) (path : String) : Except FileError (List UInt8) :=
  if pathLimit < Text.byteLength path.toList then .error .nameTooLong
  else
    match path.toList with
    | [] => .error .notFound
    | '/' :: rest => openOutside (rest.splitOn '/')
    | names => d.openInside (names.splitOn '/')

end Directory

end IntcodeMachine
