import Spectrometer.Text.Quoted
import Spectrometer.Text.Record
import Spectrometer.Text.Split

/-!
Files by path. A path is walked step by step from the working directory or from the root, and the
first step that cannot be taken decides the error. A slash after the last name asks for a directory,
which no file is and which cannot be made by writing.
-/

namespace Spectrometer

inductive FileError
  /-- The operating system refuses, with a number, a kind and a text. -/
  | system (code : Nat) (kind text : String)
  /-- A path with a NUL in it cannot be handed to the operating system. -/
  | nulInPath
  deriving DecidableEq, Repr

namespace FileError

def notFound : FileError := .system 2 "NotFound" "No such file or directory"
def notADirectory : FileError := .system 20 "NotADirectory" "Not a directory"
def isADirectory : FileError := .system 21 "IsADirectory" "Is a directory"
def nameTooLong : FileError := .system 36 "InvalidFilename" "File name too long"

def nulText : String := "file name contained an unexpected NUL byte"

def message : FileError → String
  | .system code _ text => text ++ s!" (os error {code})"
  | .nulInPath => nulText

def describe : FileError → String
  | .system code kind text =>
    Text.record "Os" [("code", s!"{code}"), ("kind", kind), ("message", Text.quoted text)]
  | .nulInPath =>
    Text.record "Error" [("kind", "InvalidInput"), ("message", Text.quoted nulText)]

end FileError

/-- A directory that a path can reach: the root, or the one so many levels above the working
directory. No other directory is known. -/
inductive Place
  | root
  | above (levels : Nat)
  deriving DecidableEq, Repr

namespace Place

def working : Place := .above 0

/-- Where two dots lead; the root is above itself. -/
def parent : Place → Place
  | .root => .root
  | .above levels => .above (levels + 1)

end Place

structure Entry where
  place : Place
  name : String
  deriving DecidableEq, Repr

namespace Entry

/-- A name takes at most 255 bytes. -/
def maxNameSize : Nat := 255

/-- Whether the name is too long to be looked up. -/
def isOverlong (e : Entry) : Bool := maxNameSize < e.name.utf8ByteSize

end Entry

inductive Target
  | directory
  /-- To a name, which need not be that of a file, with or without a slash after it. -/
  | entry (e : Entry) (slash : Bool)
  deriving DecidableEq, Repr

/-- The files that paths reach, each entry once. -/
structure FileTree where
  files : List (Entry × List UInt8)
  deriving DecidableEq, Repr

namespace FileTree

def empty : FileTree := ⟨[]⟩

def find? (t : FileTree) (e : Entry) : Option (List UInt8) := t.files.lookup e

/-- The tree with one file more, in place of an older one of that entry. -/
def put (t : FileTree) (e : Entry) (bytes : List UInt8) : FileTree :=
  ⟨(e, bytes) :: t.files.filter (·.1 ≠ e)⟩

/-- Takes the steps of a path. An empty step and a single dot stay in the place. Since no name is
that of a directory, none but the last can be passed. -/
def walk (t : FileTree) (place : Place) : List String → Except FileError Target
  | [] => .ok .directory
  | step :: rest =>
    if step = "" ∨ step = "." then t.walk place rest
    else if step = ".." then t.walk place.parent rest
    else
      let e : Entry := ⟨place, step⟩
      if rest.all (·.isEmpty) then .ok (.entry e !rest.isEmpty)
      else if e.isOverlong then .error .nameTooLong
      else if (t.find? e).isSome then .error .notADirectory
      else .error .notFound

/-- A path takes fewer bytes than this. -/
def pathSize : Nat := 4096

/-- Follows a path to its last name. -/
def follow (t : FileTree) (path : String) : Except FileError Target :=
  if path.contains '\x00' then .error .nulInPath
  else if path.isEmpty then .error .notFound
  else if pathSize ≤ path.utf8ByteSize then .error .nameTooLong
  else
    let start := if path.startsWith "/" then Place.root else .working
    t.walk start ((Text.pieces '/' path.toList).map String.ofList)

def read (t : FileTree) (path : String) : Except FileError (List UInt8) := do
  match ← t.follow path with
  | .directory => .error .isADirectory
  | .entry e slash =>
    if e.isOverlong then .error .nameTooLong
    else
      match t.find? e with
      | none => .error .notFound
      | some bytes => if slash then .error .notADirectory else .ok bytes

/-- The entry of the file that is made or replaced by writing to a path. -/
def entryToWrite (t : FileTree) (path : String) : Except FileError Entry := do
  match ← t.follow path with
  | .directory => .error .isADirectory
  | .entry e slash =>
    if slash then .error .isADirectory
    else if e.isOverlong then .error .nameTooLong
    else .ok e

def write (t : FileTree) (path : String) (bytes : List UInt8) : Except FileError Unit × FileTree :=
  match t.entryToWrite path with
  | .error e => (.error e, t)
  | .ok e => (.ok (), t.put e bytes)

end FileTree

end Spectrometer
