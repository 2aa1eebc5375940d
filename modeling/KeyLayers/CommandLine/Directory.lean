import KeyLayers.Text.Quoted

/-!
# Paths and directories

The program reads one file and writes one.  Its paths are brought to a normal form first: without
empty parts and without parts that are a single point.  The directory that it works in is a list of
files; there are no directories in it, and nothing is known about what lies outside.

## Main definitions

* `FilePath` — paths in normal form.
* `FileError` — why a path cannot be opened.
* `Files`, `Directory` — the files of the directory.
* `Directory.put` — the files with another content of one of them.
* `Directory.locate` — where a path leads.
* `Directory.read` — reading a file.
-/

namespace KeyLayers.CommandLine

/-- A path in normal form. -/
structure FilePath where
  /-- What an absolute path starts with; empty for a relative one. -/
  root : String
  /-- The names on the way. -/
  names : List String
  deriving DecidableEq, Repr

namespace FilePath

/-- The pieces of a text between slashes. -/
def pieces : List Char → List (List Char)
  | [] => [[]]
  | c :: s =>
    if c = '/' then [] :: pieces s
    else
      match pieces s with
      | [] => [[c]]
      | p :: ps => (c :: p) :: ps

/-- What an absolute path starts with: a slash, or exactly two. -/
def rootOf : List Char → String
  | '/' :: '/' :: '/' :: _ => "/"
  | '/' :: '/' :: _ => "//"
  | '/' :: _ => "/"
  | _ => ""

/-- The path that a text writes. -/
def ofString (s : String) : FilePath :=
  ⟨rootOf s.toList, ((pieces s.toList).map String.ofList).filter fun p => p ≠ "" ∧ p ≠ "."⟩

/-- The text of a path. -/
def text (p : FilePath) : String :=
  let way := p.root ++ "/".intercalate p.names
  if way = "" then "." else way

end FilePath

/-- Why a path cannot be opened. -/
inductive FileError
  /-- There is no such file. -/
  | notFound (path : String)
  /-- The path leads to a directory. -/
  | isDirectory (path : String)
  /-- The path leads through a file. -/
  | notDirectory (path : String)
  /-- A name on the way, or the whole path, is too long. -/
  | nameTooLong (path : String)
  /-- The path has a zero byte. -/
  | nullByte
  deriving DecidableEq, Repr

/-- The wording of an error. -/
def FileError.message : FileError → String
  | .notFound path => "[Errno 2] No such file or directory: " ++ Text.quoted path
  | .isDirectory path => "[Errno 21] Is a directory: " ++ Text.quoted path
  | .notDirectory path => "[Errno 20] Not a directory: " ++ Text.quoted path
  | .nameTooLong path => "[Errno 36] File name too long: " ++ Text.quoted path
  | .nullByte => "embedded null byte"

/-- Files: names and contents. -/
abbrev Files := List (String × List UInt8)

/-- The files of a directory. -/
structure Directory where
  /-- The files. -/
  files : Files
  deriving DecidableEq, Repr

namespace Directory

/-- The content of a file. -/
def content? (d : Directory) (name : String) : Option (List UInt8) := d.files.lookup name

/-- The files with another content of one of them, which is made if it is not there. -/
def put (name : String) (content : List UInt8) : Files → Files
  | [] => [(name, content)]
  | f :: fs => if f.1 = name then (name, content) :: fs else f :: put name content fs

/-- The name in the directory that a path leads to.  Names have at most 255 bytes, paths at most
4095. -/
def locate (d : Directory) (p : FilePath) : Except FileError String :=
  if p.text.contains '\x00' then .error .nullByte
  else if 4095 < p.text.utf8ByteSize then .error (.nameTooLong p.text)
  else
    match p.names.dropWhile (· = "..") with
    | [] => .error (.isDirectory p.text)
    | name :: rest =>
      if 255 < name.utf8ByteSize then .error (.nameTooLong p.text)
      else if p.root ≠ "" ∨ p.names.head? = some ".." then .error (.notFound p.text)
      else if rest.isEmpty then .ok name
      else if (d.content? name).isSome then .error (.notDirectory p.text)
      else .error (.notFound p.text)

/-- The content of the file behind a path. -/
def read (d : Directory) (p : FilePath) : Except FileError (List UInt8) :=
  match d.locate p with
  | .error e => .error e
  | .ok name =>
    match d.content? name with
    | some content => .ok content
    | none => .error (.notFound p.text)

end Directory

end KeyLayers.CommandLine
