/-!
# Files

A directory tree, seen from the directory in which a program runs.  Paths are
read part by part: empty parts and `.` stand for the directory itself, and `..`
for the one above.  A path that starts with `/` starts at the root.
-/

namespace Laoke

/-- Why a file cannot be read as a text. -/
inductive FileFault where
  | missing
  | notDirectory
  | isDirectory
  | nameTooLong
  | notText
  deriving DecidableEq, Repr

/-- The text of a fault. -/
def FileFault.message : FileFault → String
  | missing => "No such file or directory (os error 2)"
  | notDirectory => "Not a directory (os error 20)"
  | isDirectory => "Is a directory (os error 21)"
  | nameTooLong => "File name too long (os error 36)"
  | notText => "stream did not contain valid UTF-8"

/-- What a path leads to. -/
inductive Place where
  | file (path : List String) (bytes : ByteArray)
  | directory (path : List String)
  /-- Nothing yet, in a directory that exists. -/
  | free (path : List String)

/-- The files of a directory tree and its directories without files, under the parts of their
paths. -/
structure Files where
  entries : List (List String × ByteArray) := []
  directories : List (List String) := []

namespace Files

/-- The greatest number of bytes in a part of a path. -/
def longestPart : Nat := 255

/-- The greatest number of bytes in a path. -/
def longestPath : Nat := 4095

/-- The parts of a path. -/
def partsOf (path : String) : List String :=
  path.splitOn "/"

/-- The directory in which a path starts. -/
def startOf (path : String) : List String :=
  if path.startsWith "/" then ["/"] else []

/-- Whether a directory is there in any case: the root, the starting directory and those above
it. -/
def isTop (path : List String) : Bool :=
  path = ["/"] || path.all fun part => part = ".."

/-- The directory above a directory. -/
def parent (path : List String) : List String :=
  if path = ["/"] then path
  else if isTop path then path ++ [".."]
  else path.dropLast

/-- A path without the parts that lead nowhere. -/
def normalize (path : String) : List String :=
  (partsOf path).foldl (fun place part =>
    if part = "" || part = "." then place
    else if part = ".." then parent place
    else place ++ [part]) (startOf path)

/-- The tree with the given files. -/
def ofBytes (files : List (String × ByteArray)) : Files :=
  { entries := files.map fun (name, bytes) => (normalize name, bytes) }

/-- The tree with the given texts as files. -/
def ofList (files : List (String × String)) : Files :=
  ofBytes (files.map fun (name, text) => (name, text.toUTF8))

/-- What stands under the parts of a path. -/
def placeAt (files : Files) (path : List String) : Place :=
  match files.entries.lookup path with
  | some bytes => .file path bytes
  | none =>
    if isTop path || path ∈ files.directories ||
        files.entries.any fun (name, _) => path.isPrefixOf name then
      .directory path
    else .free path

/-- Follows the parts of a path from a place. -/
def follow (files : Files) : Place → List String → Except FileFault Place
  | place, [] => .ok place
  | .file _ _, _ :: _ => .error .notDirectory
  | .free _, _ :: _ => .error .missing
  | .directory path, part :: more =>
    if part = "" || part = "." then follow files (.directory path) more
    else if part = ".." then follow files (.directory (parent path)) more
    else if longestPart < part.utf8ByteSize then .error .nameTooLong
    else follow files (files.placeAt (path ++ [part])) more

/-- What a path leads to. -/
def locate (files : Files) (path : String) : Except FileFault Place :=
  if path.isEmpty then .error .missing
  else if longestPath < path.utf8ByteSize then .error .nameTooLong
  else files.follow (.directory (startOf path)) (partsOf path)

/-- The text of a file. -/
def read (files : Files) (path : String) : Except FileFault String :=
  match files.locate path with
  | .ok (.file _ bytes) =>
    match String.fromUTF8? bytes with
    | some text => .ok text
    | none => .error .notText
  | .ok (.directory _) => .error .isDirectory
  | .ok (.free _) => .error .missing
  | .error fault => .error fault

/-- Whether a path leads to a file or a directory. -/
def exists? (files : Files) (path : String) : Bool :=
  match files.locate path with
  | .ok (.file _ _) => true
  | .ok (.directory _) => true
  | _ => false

/-- The tree after a text is written under a path.  Where that cannot be done nothing changes. -/
def write (files : Files) (path : String) (text : String) : Files :=
  match files.locate path with
  | .ok (.file name _) =>
    { files with entries := files.entries.map fun (other, old) =>
        if other = name then (name, text.toUTF8) else (other, old) }
  | .ok (.free name) => { files with entries := files.entries ++ [(name, text.toUTF8)] }
  | _ => files

end Files

end Laoke
