import CommandConsole.Storage
import CommandConsole.Text.Lines

/-!
# The disk

A `Disk` holds folders, files and databases under absolute paths. A path is walked component by component; `..` goes back
up. Writing somewhere makes the folders on the way; what is in the way is a fault, and the folders made before it stay.
-/

namespace CommandConsole

/-- What a path leads to. -/
inductive DiskNode where
  | folder
  | file (bytes : ByteArray)
  | database (table : Table)

/-- What absolute paths lead to. -/
structure Disk where
  nodes : List (String × DiskNode) := []

namespace Disk

/-! ## Paths -/

/-- The components of a path, without those that stay where they are. -/
def components (path : String) : List String :=
  ((piecesAt '/' path.toList).map String.ofList).filter fun c => c ≠ "" && c ≠ "."

/-- The absolute path with some components. -/
def pathOf (components : List String) : String := "/" ++ "/".intercalate components

/-- Goes from a place, given by its components from the last to the first, into a component. -/
def enter (place : List String) (component : String) : List String :=
  if component = ".." then place.tail else component :: place

/-- The path of the place that a walk from the root leads to. -/
def placeOf (walk : List String) : String := pathOf (walk.foldl enter []).reverse

/-- The greatest size of a component in bytes. -/
def longestName : Nat := 255

/-- The greatest size of a path in bytes. -/
def longestPath : Nat := 4095

/-- The greatest size in bytes of the name of a database, which leaves room for the names of the files beside it. -/
def longestTableName : Nat := 247

/-- The greatest size in bytes of the path of a database. -/
def longestTablePath : Nat := 504

/-! ## Contents -/

/-- What a path leads to. -/
def find? (d : Disk) (path : String) : Option DiskNode := d.nodes.lookup path

/-- Sets what a path leads to. -/
def setNode (path : String) (node : DiskNode) : List (String × DiskNode) → List (String × DiskNode)
  | [] => [(path, node)]
  | (p, n) :: rest => if p = path then (p, node) :: rest else (p, n) :: setNode path node rest

/-- Puts something under a path, in the place of what is there. -/
def put (d : Disk) (path : String) (node : DiskNode) : Disk := ⟨setNode path node d.nodes⟩

/-- The contents of a file. -/
def read? (d : Disk) (path : String) : Option ByteArray :=
  match d.find? path with
  | some (.file bytes) => some bytes
  | _ => none

/-! ## Ways -/

/-- A zero character stands in a component. -/
def hasZero (component : String) : Bool := component.toList.contains '\x00'

/-- The fault of a path with a zero character in it. -/
def zeroInPath : Fault := .badValue "embedded null byte"

/-- The fault of making a folder where something else is. -/
def taken (path : String) : Fault := ⟨.fileExists, s!"[Errno 17] File exists: {quote path}"⟩

/-- The fault of a way through something that is no folder. -/
def blocked (path : String) : Fault := ⟨.notFolder, s!"[Errno 20] Not a directory: {quote path}"⟩

/-- The fault of a file that is a folder. -/
def isFolder (path : String) : Fault := ⟨.isFolder, s!"[Errno 21] Is a directory: {quote path}"⟩

/-- The fault of a path with a component that is too long. -/
def nameTooLong (path : String) : Fault := ⟨.os, s!"[Errno 36] File name too long: {quote path}"⟩

/-- Makes the folders of a walk that are missing, after those in `walked`. A fault names the `goal`, all of the walk, unless
folders have been made: then it names the part of the walk that fails. -/
def makeFolders (d : Disk) (goal : String) (made : Bool) (walked : List String) : List String → Disk × Except Fault Unit
  | [] => (d, .ok ())
  | c :: rest =>
    let walked := walked ++ [c]
    if longestName < c.utf8ByteSize then (d, .error (nameTooLong (if made then pathOf walked else goal)))
    else
      match d.find? (placeOf walked) with
      | none =>
        if walked.foldl enter [] = [] then d.makeFolders goal made walked rest
        else (d.put (placeOf walked) .folder).makeFolders goal true walked rest
      | some .folder => d.makeFolders goal made walked rest
      | some _ => (d, .error (if made || rest.isEmpty then taken (pathOf walked) else blocked goal))

/-- Makes the folders that a path lies in. -/
def makeWay (d : Disk) (path : String) : Disk × Except Fault Unit :=
  let way := (components path).dropLast
  if way.any hasZero then (d, .error zeroInPath)
  else if longestPath < (pathOf way).utf8ByteSize then (d, .error (nameTooLong (pathOf way)))
  else d.makeFolders (pathOf way) false [] way

/-- The last component of a path; the root has none. -/
def nameOf (path : String) : String := (components path).getLast?.getD ""

/-- Opens the file of a path to append to, and gives the place where it is; it begins empty. -/
def openText (d : Disk) (path : String) : Disk × Except Fault String :=
  match d.makeWay path with
  | (d, .error f) => (d, .error f)
  | (d, .ok ()) =>
    let place := placeOf (components path)
    if hasZero (nameOf path) then (d, .error zeroInPath)
    else if longestName < (nameOf path).utf8ByteSize then (d, .error (nameTooLong place))
    else
      match d.find? place with
      | none => (d.put place (.file .empty), .ok place)
      | some .folder => (d, .error (isFolder place))
      | some _ => (d, .ok place)

/-- Appends a text to the file of a place. -/
def append (d : Disk) (place text : String) : Disk :=
  d.put place (.file ((d.read? place).getD .empty ++ text.toUTF8))

/-- The fault of a database that cannot be opened. -/
def unopenable : Fault := ⟨.unopenable, "unable to open database file"⟩

/-- The fault of a file that is no database. -/
def noDatabase : Fault := ⟨.database, "file is not a database"⟩

/-- The greatest size in bytes of a file that counts as an empty database. -/
def emptyDatabase : Nat := 1

/-- Opens the file at a place as a database; an empty file becomes one. A name that leaves no room for the files beside the
database makes an empty file and nothing more. -/
def openFile (d : Disk) (place name : String) : Disk × Except Fault Table :=
  let start (d : Disk) : Disk × Except Fault Table :=
    if longestTableName < name.utf8ByteSize then (d.put place (.file .empty), .error unopenable)
    else (d.put place (.database []), .ok [])
  match d.find? place with
  | none => start d
  | some (.database t) => (d, .ok t)
  | some .folder => (d, .error unopenable)
  | some (.file bytes) => if bytes.size ≤ emptyDatabase then start d else (d, .error noDatabase)

/-- Opens the database of a path; it begins empty. -/
def openTable (d : Disk) (path : String) : Disk × Except Fault Table :=
  match d.makeWay path with
  | (d, .error f) => (d, .error f)
  | (d, .ok ()) =>
    let name := nameOf path
    if hasZero name then (d, .error zeroInPath)
    else if longestName < name.utf8ByteSize ∨ longestTablePath < (pathOf (components path)).utf8ByteSize then
      (d, .error unopenable)
    else d.openFile (placeOf (components path)) name

/-- Keeps a table in the database of a path. -/
def keepTable (d : Disk) (path : String) (t : Table) : Disk := d.put (placeOf (components path)) (.database t)

end Disk

end CommandConsole
