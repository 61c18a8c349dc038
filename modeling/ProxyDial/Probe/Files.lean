import ProxyDial.IoError
import ProxyDial.Text.Pieces

/-!
# Files

To the probe a file system is what reading a whole file gives.  `FileTree` is one with
known directories and files, for callers that have no machine at hand.  It follows a path name
by name.  A name that leads on from a file is refused for that reason, and one that stands for
nothing for another.
-/

namespace ProxyDial.Probe

/-- A file system, as far as reading whole files goes. -/
abbrev Files := String → Except IoError (List UInt8)

/-- The text of a file. -/
def Files.readText (files : Files) (path : String) : Except IoError String := do
  let bytes ← files path
  match String.fromUTF8? ⟨bytes.toArray⟩ with
  | some text => .ok text
  | none => .error .notUtf8

/-- Where a file or directory is: the names on the way from the root. -/
abbrev Place := List (List Char)

/-- A file system with known directories and files. -/
structure FileTree where
  /-- The directories other than the root. -/
  directories : List Place
  /-- The files and their contents. -/
  files : List (Place × List UInt8)
  /-- The directory where paths without a leading slash begin. -/
  here : Place

namespace FileTree

/-- The most bytes of a name. -/
def maxName : Nat := 255

/-- The most bytes of a path. -/
def maxPath : Nat := 4095

/-- Read the file that the names lead to from a directory. -/
def walk (t : FileTree) (directory : Place) : Place → Except IoError (List UInt8)
  | [] => .error .isDirectory
  | name :: rest =>
    if name = [] ∨ name = ['.'] then t.walk directory rest
    else if name = ['.', '.'] then t.walk directory.dropLast rest
    else if maxName < (String.ofList name).utf8ByteSize then .error .nameTooLong
    else
      let place := directory ++ [name]
      match t.files.lookup place with
      | some content => if rest = [] then .ok content else .error .notDirectory
      | none => if place ∈ t.directories then t.walk place rest else .error .noSuchFile

/-- The file system. -/
def toFiles (t : FileTree) : Files := fun path =>
  if '\x00' ∈ path.toList then .error .nulInName
  else if path = "" then .error .noSuchFile
  else if maxPath < path.utf8ByteSize then .error .nameTooLong
  else t.walk (if path.toList.head? = some '/' then [] else t.here) (pieces '/' path.toList)

/-- A place that is written as a path from the root. -/
def place (path : String) : Place := (pieces '/' path.toList).filter (· ≠ [])

/-- What a machine has in any case: the directories at the root, the null device and
some files that hold no options.  Paths begin in a directory without files. -/
def base : FileTree where
  directories := ["bin", "boot", "dev", "dev/shm", "etc", "home", "lib", "media", "mnt", "opt",
    "proc", "root", "run", "sbin", "srv", "sys", "tmp", "usr", "usr/bin", "usr/lib",
    "usr/local", "usr/sbin", "usr/share", "var", "var/lib", "var/log", "var/tmp",
    "work"].map place
  files := [(place "dev/null", []), (place "etc/hosts", [0x23]), (place "etc/passwd", [0x23])]
  here := place "work"

/-- The file system with one more file where paths begin. -/
def addHere (t : FileTree) (name : String) (content : List UInt8) : FileTree :=
  { t with files := (t.here ++ [name.toList], content) :: t.files }

end FileTree

end ProxyDial.Probe
