import ClusterSchema.Text.Pieces

/-!
# Files

A directory of text files in memory, and why a path cannot be read.  It stands in for the working
directory where there is no disk; a program on a disk reports its failures in the same words.
-/

namespace ClusterSchema

/-- Why an input cannot be read. -/
inductive InputError where
  | notFound
  | isDirectory
  | notDirectory
  | nameTooLong
  | nulInName
  | notUtf8
  /-- Any other failure, in the words of the system. -/
  | other (message : String)
deriving DecidableEq, Repr

namespace InputError

/-- The failure in the words of the system. -/
def message : InputError → String
  | notFound => "No such file or directory (os error 2)"
  | isDirectory => "Is a directory (os error 21)"
  | notDirectory => "Not a directory (os error 20)"
  | nameTooLong => "File name too long (os error 36)"
  | nulInName => "file name contained an unexpected NUL byte"
  | notUtf8 => "stream did not contain valid UTF-8"
  | other message => message

end InputError

/-- The text that bytes encode. -/
def textOfBytes (bytes : ByteArray) : Except InputError String :=
  match String.fromUTF8? bytes with
  | some text => .ok text
  | none => .error .notUtf8

/-- A directory of text files without directories of its own, on a system with a standard input. -/
structure Directory where
  files : List (String × String)
  /-- What the standard input holds, which is also the file `/dev/stdin`. -/
  input : Except InputError String := .ok ""

namespace Directory

/-- Reads the rest of a path that has come to a file. -/
def readFile (content : Except InputError String) : List String → Except InputError String
  | [] => content
  | _ :: _ => .error .notDirectory

/-- Reads the parts of a path that starts in the directory.  A part may have at most 255 bytes. -/
def readParts (directory : Directory) : List String → Except InputError String
  | [] => .error .isDirectory
  | part :: rest =>
    if part = "." ∨ part = "" then directory.readParts rest
    else if 255 < part.utf8ByteSize then .error .nameTooLong
    else
      match directory.files.find? (·.1 == part) with
      | some file => readFile (.ok file.2) rest
      | none =>
        if part = ".." ∧ rest.all (fun later => later == "" || later == "." || later == "..") then
          .error .isDirectory
        else .error .notFound

/-- The directories that every system has at its root. -/
def systemDirectories : List String :=
  ["bin", "boot", "dev", "etc", "home", "lib", "media", "mnt", "opt", "proc", "root", "run", "sbin",
   "srv", "sys", "tmp", "usr", "var"]

/-- Reads the parts of a path that starts at the root or, with `inside`, in one of the system's
directories.  Of what they hold only the empty device and the standard input are known. -/
def readRooted (directory : Directory) (inside : Option String) :
    List String → Except InputError String
  | [] => .error .isDirectory
  | part :: rest =>
    if part = "." ∨ part = "" then directory.readRooted inside rest
    else if part = ".." then directory.readRooted none rest
    else if 255 < part.utf8ByteSize then .error .nameTooLong
    else if inside = none ∧ systemDirectories.contains part then
      directory.readRooted (some part) rest
    else if inside = some "dev" ∧ part = "null" then readFile (.ok "") rest
    else if inside = some "dev" ∧ part = "stdin" then readFile directory.input rest
    else .error .notFound

/-- The text of the file at a path. -/
def read (directory : Directory) (path : String) : Except InputError String :=
  let parts := (Text.pieces '/' path.toList).map String.ofList
  if path.toList.contains '\x00' then .error .nulInName
  else if path = "" then .error .notFound
  else if 4096 ≤ path.utf8ByteSize then .error .nameTooLong
  else if path.startsWith "/" then directory.readRooted none parts
  else directory.readParts parts

end Directory

end ClusterSchema
