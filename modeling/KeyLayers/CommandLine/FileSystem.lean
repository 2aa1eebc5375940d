import KeyLayers.CommandLine.Directory

/-!
# Files and where paths lead

A directory of files alone is not all that a run can meet.  A path may lead through directories and
links or out of the directory, two paths may lead to one file, and a file may not be open to
everyone.  All that a run depends on is where its paths lead, so this is left open here: names stand
for the files themselves, and the system says which file a path leads to, if it leads to one, when
it is opened for reading and when it is opened for writing.  Where paths lead may depend on the
files that are there at the time.

## Main definitions

* `FileSystem` — files, and where paths lead.
* `FileSystem.read` — reading a file.
* `FileSystem.create`, `FileSystem.append` — opening a file for writing, and adding to it.
* `Directory.fileSystem` — a directory as such a system.
-/

namespace KeyLayers.CommandLine

/-- The files of a system, and where paths lead. -/
structure FileSystem where
  /-- The files. -/
  files : Files
  /-- The file that a path leads to when it is opened for reading. -/
  reads : Files → FilePath → Except FileError String
  /-- The file that a path leads to when it is opened for writing; it need not be there yet. -/
  writes : Files → FilePath → Except FileError String

namespace FileSystem

/-- The content of the file behind a path. -/
def read (fs : FileSystem) (p : FilePath) : Except FileError (List UInt8) :=
  match fs.reads fs.files p with
  | .error e => .error e
  | .ok name =>
    match fs.files.lookup name with
    | some content => .ok content
    | none => .error (.notFound p.text)

/-- The system with another content of a file. -/
def put (fs : FileSystem) (name : String) (content : List UInt8) : FileSystem :=
  { fs with files := Directory.put name content fs.files }

/-- The file that a path leads to when it is opened for writing, and the system after opening it:
the file is empty then, whatever it has held before. -/
def create (fs : FileSystem) (p : FilePath) : Except FileError (String × FileSystem) :=
  (fs.writes fs.files p).map fun name => (name, fs.put name [])

/-- The system after adding bytes to the end of a file. -/
def append (fs : FileSystem) (name : String) (bytes : List UInt8) : FileSystem :=
  fs.put name ((fs.files.lookup name).getD [] ++ bytes)

end FileSystem

/-- A directory as a system of files. -/
def Directory.fileSystem (d : Directory) : FileSystem where
  files := d.files
  reads files := Directory.locate ⟨files⟩
  writes files := Directory.locate ⟨files⟩

end KeyLayers.CommandLine
