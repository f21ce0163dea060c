import VparFleet.Fault.Cause
import VparFleet.Text.Utf8

/-!
# Directories

The files below one directory, and what is found at a path there. A directory is there when a file
lies below it.

* `Directory.read`: the content of a file.
* `Directory.obstacle?`: what keeps directories from being made.
-/

namespace VparFleet

/-- The parts of a path. -/
def pathParts (path : String) : List String :=
  ((path.toList.splitOn '/').map String.ofList).filter fun part => part ≠ "" && part ≠ "."

/-- The text that the bytes of a file stand for. -/
def fileText (content : Except FileCause (List UInt8)) : Except FileCause String := do
  match Text.Utf8.decodeStrict? (← content) with
  | some text => return String.ofList text
  | none => throw .notText

/-- The files below a directory: the parts of their paths, and their contents. -/
structure Directory where
  files : List (List String × List UInt8)

namespace Directory

/-- A directory with files. -/
def ofFiles (files : List (String × String)) : Directory :=
  ⟨files.map fun (path, text) => (pathParts path, Text.Utf8.encode text)⟩

/-- The content of a file, if there is one at a path. -/
def content? (directory : Directory) (path : List String) : Option (List UInt8) :=
  directory.files.lookup path

/-- Whether there is a file at a path. -/
def isFile (directory : Directory) (path : List String) : Bool :=
  (directory.content? path).isSome

/-- Whether there is a directory at a path. -/
def isDirectory (directory : Directory) (path : List String) : Bool :=
  path.isEmpty || directory.files.any fun file => path.isPrefixOf file.1 && path ≠ file.1

/-- Whether a path leads through a file. -/
def leadsThroughFile (directory : Directory) (path : List String) : Bool :=
  (List.range path.length).any fun n => directory.isFile (path.take n)

/-- Why directories cannot be made at a path, if they cannot. -/
def obstacle? (directory : Directory) (path : List String) : Option FileCause :=
  if directory.leadsThroughFile path then some .notDirectory
  else if directory.isFile path then some .occupied
  else none

/-- Reads a file. -/
def read (directory : Directory) (path : List String) : Except FileCause (List UInt8) :=
  if directory.leadsThroughFile path then .error .notDirectory
  else if directory.isDirectory path then .error .isDirectory
  else
    match directory.content? path with
    | some bytes => .ok bytes
    | none => .error .missing

/-- Writes a file, in the place of the one before. -/
def write (directory : Directory) (path : List String) (bytes : List UInt8) : Directory :=
  ⟨(path, bytes) :: directory.files.filter (·.1 ≠ path)⟩

end Directory

end VparFleet
