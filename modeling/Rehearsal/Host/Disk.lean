import Rehearsal.Host.Failure
import Rehearsal.Host.Path
import Rehearsal.Text.Utf8

/-!
# A disk in memory

Directories and files by the names that lead to them from the root. The working directory lies in
the directory for temporary files. The other directories of the root are there, but of what they
hold only two devices, of which one is always full and the other one always empty. A path is walked
name by name, so the first obstacle is reported.
-/

namespace Rehearsal

structure Disk where
  /-- Directories below the working directory. -/
  directories : List (List String) := []
  files : List (List String × Text.Bytes) := []
deriving DecidableEq

/-- Where a path leads to. -/
inductive Place where
  | directory
  | file (contents : Text.Bytes)
  | fullDevice
  | emptyDevice
  /-- Nothing yet, in a directory that exists. -/
  | vacant
deriving DecidableEq

namespace Disk

/-- No path leads to the working directory by its name, which is empty. -/
def workingDirectory : List String := ["tmp", ""]

/-- The usual directories of a root. -/
def rootNames : List String :=
  ["bin", "boot", "dev", "etc", "home", "lib", "media", "mnt", "opt", "proc", "root", "run", "sbin",
   "srv", "sys", "tmp", "usr", "var"]

def isDirectory (d : Disk) (names : List String) : Bool :=
  match names with
  | [] => true
  | [name] => rootNames.contains name || d.directories.contains names
  | names => names == workingDirectory || d.directories.contains names

def place (d : Disk) (names : List String) : Place :=
  if d.isDirectory names then .directory
  else if names = ["dev", "full"] then .fullDevice
  else if names = ["dev", "null"] then .emptyDevice
  else match d.files.find? fun f => f.1 == names with
    | some (_, contents) => .file contents
    | none => .vacant

/-- The longest name that a directory holds, in bytes. -/
def nameLimit : Nat := 255

/-- The longest path, in bytes. -/
def pathLimit : Nat := 4095

/-- Walks from a directory. -/
def walk (d : Disk) : List String → List String → Except OsError (List String)
  | here, [] => .ok here
  | here, name :: rest =>
    let next := if name = ".." then here.dropLast else here ++ [name]
    if nameLimit < name.utf8ByteSize then .error .nameTooLong
    else if rest.isEmpty then .ok next
    else match d.place next with
      | .directory => walk d next rest
      | .vacant => .error .noEntry
      | _ => .error .notDirectory

/-- The names from the root on. -/
def locate (d : Disk) (p : Path) : Except OsError (List String) :=
  if pathLimit < p.text.utf8ByteSize then .error .nameTooLong
  else d.walk (if p.isAbsolute then [] else workingDirectory) p.names

/-- The obstacle on the way to an existing place. -/
def obstacle? (d : Disk) (p : Path) : Option OsError :=
  match d.locate p with
  | .ok names => if d.place names = .vacant then some .noEntry else none
  | .error e => some e

def read (d : Disk) (p : Path) : Except OsError Text.Bytes := do
  match d.place (← d.locate p) with
  | .directory => .error .isDirectory
  | .file contents => .ok contents
  | .fullDevice | .emptyDevice => .ok []
  | .vacant => .error .noEntry

/-- Puts a file in place of one of the same name. -/
def put (names : List String) (contents : Text.Bytes) (d : Disk) : Disk :=
  { d with files := (names, contents) :: d.files.filter fun f => f.1 != names }

def write (p : Path) (contents : Text.Bytes) (d : Disk) : Except OsError Disk := do
  let names ← d.locate p
  match d.place names with
  | .directory => .error .isDirectory
  | .file _ | .vacant => .ok (d.put names contents)
  | .fullDevice => if contents.isEmpty then .ok d else .error .noSpace
  | .emptyDevice => .ok d

/-- Makes a directory below the working directory and those that it lies in. -/
def makeDirectory (names : List String) (d : Disk) : Disk :=
  let parents := (List.range names.length).map fun n => workingDirectory ++ names.take (n + 1)
  { d with directories := parents ++ d.directories }

/-- Puts a file below the working directory. -/
def makeFile (names : List String) (contents : Text.Bytes) (d : Disk) : Disk :=
  d.put (workingDirectory ++ names) contents

/-- The file below the working directory, by its path. -/
def listed? (file : List String × Text.Bytes) : Option (String × Text.Bytes) :=
  if workingDirectory.isPrefixOf file.1 then
    some ("/".intercalate (file.1.drop workingDirectory.length), file.2)
  else none

/-- All files below the working directory by their paths, in the order of the paths. -/
def listing (d : Disk) : List (String × Text.Bytes) :=
  (d.files.filterMap listed?).mergeSort fun a b => decide (a.1 ≤ b.1)

end Disk

end Rehearsal
