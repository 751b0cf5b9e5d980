import Blotter.Database.Tables
import Blotter.Disk.Path

/-!
# The disk

A tree of directories and files, with the working directory somewhere below the root and two devices: one that is
always full and one that swallows everything. A file that is open is known by its number, so it stays what it is when
its path is renamed or removed. A file holds bytes, or the tables of a database. What a database keeps beside its file
for a time, its log and its index, belongs to it and is no file of its own here.
-/

namespace Blotter

/-- Why the disk refuses an operation. -/
inductive IoError where
  | notFound
  | alreadyExists
  | notADirectory
  | isADirectory
  | invalidArgument
  | noSpace
  | notUtf8
deriving DecidableEq, Repr

/-- The sentence that says why the disk refuses an operation. -/
def IoError.message : IoError → String
  | .notFound => "No such file or directory (os error 2)"
  | .alreadyExists => "File exists (os error 17)"
  | .notADirectory => "Not a directory (os error 20)"
  | .isADirectory => "Is a directory (os error 21)"
  | .invalidArgument => "Invalid argument (os error 22)"
  | .noSpace => "No space left on device (os error 28)"
  | .notUtf8 => "stream did not contain valid UTF-8"

namespace Disk

/-- What a place in the tree holds. -/
inductive Node where
  | directory
  | file (id : Nat)
  | fullDevice
  | nullDevice
deriving DecidableEq, Repr

/-- What a file holds. -/
inductive Content where
  | bytes (data : List UInt8)
  | database (tables : Database.Tables)
deriving DecidableEq

/-- A file. -/
structure File where
  content : Content
  readOnly : Bool
deriving DecidableEq

instance : Inhabited File := ⟨⟨.bytes [], false⟩⟩

/-- An open file. -/
inductive Handle where
  | file (id : Nat)
  | fullDevice
  | nullDevice
deriving DecidableEq, Repr

/-- A place in the tree: the names from the root down. -/
abbrev Place := List String

end Disk

/-- The tree below the working directory and the files, open and removed ones included. -/
structure Disk where
  nodes : List (Disk.Place × Disk.Node)
  files : List Disk.File
deriving DecidableEq

namespace Disk

/-- The disk whose working directory is empty. -/
def empty : Disk := ⟨[], []⟩

instance : Inhabited Disk := ⟨empty⟩

/-- The place of the working directory. -/
def workingDirectory : Place := ["work"]

/-- What a place holds. -/
def nodeAt? (d : Disk) (place : Place) : Option Node :=
  if place == [] || place == ["dev"] || place == workingDirectory then some .directory
  else if place == ["dev", "full"] then some .fullDevice
  else if place == ["dev", "null"] then some .nullDevice
  else d.nodes.lookup place

/-- The place reached from another one by a piece of a path. The place it starts from has to be a directory. -/
def follow (d : Disk) (place : Place) (piece : String) : Except IoError Place :=
  match d.nodeAt? place with
  | none => .error .notFound
  | some .directory =>
    .ok (if Path.isVoid piece then place else if piece == ".." then place.dropLast else place ++ [piece])
  | some _ => .error .notADirectory

/-- The place that pieces of a path lead to. -/
def followAll (d : Disk) (start : Place) (pieces : List String) : Except IoError Place :=
  pieces.foldlM d.follow start

/-- The place of a path; only the last part need not exist. -/
def place (d : Disk) (p : String) : Except IoError Place :=
  match Path.pieces p with
  | [] | [""] => .error .notFound
  | "" :: rest => d.followAll [] rest
  | ps => d.followAll workingDirectory ps

/-- What is at the end of a path. -/
def node (d : Disk) (p : String) : Except IoError Node := do
  match d.nodeAt? (← d.place p) with
  | some n => .ok n
  | none => .error .notFound

/-- Whether there is something at the end of a path. -/
def hasNode (d : Disk) (p : String) : Bool := (d.node p).toOption.isSome

/-- Whether there is a directory at the end of a path. -/
def isDirectory (d : Disk) (p : String) : Bool := (d.node p).toOption == some .directory

/-! ## Files -/

/-- The file with a number. -/
def fileAt (d : Disk) (id : Nat) : File := d.files.getD id default

/-- The disk after a file changed. -/
def setFile (d : Disk) (id : Nat) (f : File) : Disk := { d with files := d.files.set id f }

/-- The disk with a new file at a place, and the number of the file. -/
def addFile (d : Disk) (place : Place) (f : File) : Nat × Disk :=
  (d.files.length, ⟨d.nodes ++ [(place, .file d.files.length)], d.files ++ [f]⟩)

/-- The first bytes of every database file. -/
def databaseHeader : List UInt8 := "SQLite format 3".toUTF8.toList ++ [0]

/-- The bytes that a file shows. -/
def Content.toBytes : Content → List UInt8
  | .bytes data => data
  | .database _ => databaseHeader

/-- Opens a file for appending, a new one if there is none. -/
def openAppend (d : Disk) (p : String) : Except IoError (Handle × Disk) :=
  let ps := Path.pieces p
  -- A slash at the end asks for a directory, which cannot be opened for writing.
  if 1 < ps.length && ps.getLast? == some "" then
    match d.node (String.ofList (p.toList.reverse.dropWhile (· == '/')).reverse) with
    | .ok (.file _) => .error .notADirectory
    | .error .notADirectory => .error .notADirectory
    | _ => .error .isADirectory
  else do
    let place ← d.place p
    match d.nodeAt? place with
    | none =>
      let (id, d) := d.addFile place ⟨.bytes [], false⟩
      .ok (.file id, d)
    | some (.file id) => .ok (.file id, d)
    | some .directory => .error .isADirectory
    | some .fullDevice => .ok (.fullDevice, d)
    | some .nullDevice => .ok (.nullDevice, d)

/-- The disk with more bytes at the end of a file. A database takes none. -/
def extend (d : Disk) (id : Nat) (data : List UInt8) : Disk :=
  let f := d.fileAt id
  match f.content with
  | .bytes old => d.setFile id { f with content := .bytes (old ++ data) }
  | .database _ => d

/-- Appends bytes to an open file. The full device refuses any byte. -/
def append (d : Disk) (h : Handle) (data : List UInt8) : Except IoError Disk :=
  match h with
  | .file id => .ok (d.extend id data)
  | .fullDevice => if data.isEmpty then .ok d else .error .noSpace
  | .nullDevice => .ok d

/-- Brings an open file to stable storage; devices have none. -/
def sync (h : Handle) : Except IoError Unit :=
  match h with
  | .file _ => .ok ()
  | _ => .error .invalidArgument

/-- Empties an open file; devices cannot be emptied. -/
def truncate (d : Disk) (h : Handle) : Except IoError Disk :=
  match h with
  | .file id => .ok (d.setFile id { d.fileAt id with content := .bytes [] })
  | _ => .error .invalidArgument

/-- All bytes at the end of a path. -/
def read (d : Disk) (p : String) : Except IoError (List UInt8) := do
  match ← d.node p with
  | .file id => .ok (d.fileAt id).content.toBytes
  | .directory => .error .isADirectory
  | .fullDevice | .nullDevice => .ok []

/-- The text at the end of a path. -/
def readText (d : Disk) (p : String) : Except IoError String := do
  match String.fromUTF8? ⟨(← d.read p).toArray⟩ with
  | some s => .ok s
  | none => .error .notUtf8

/-- The disk on which what one place holds has moved to another one. -/
def relink (d : Disk) (source target : Place) (n : Node) : Disk :=
  { d with nodes := (d.nodes.filter fun e => e.1 != source && e.1 != target) ++ [(target, n)] }

/-- Gives a file another path. A file that is already there is replaced. -/
def rename (d : Disk) (p q : String) : Except IoError Disk := do
  let source ← d.place p
  let target ← d.place q
  match d.nodeAt? source, d.nodeAt? target with
  | none, _ => .error .notFound
  | some (.file _), some .directory => .error .isADirectory
  | some .directory, some (.file _) => .error .notADirectory
  | some n, _ => .ok (d.relink source target n)

/-- Makes one directory. -/
def makeDirectory (d : Disk) (p : String) : Except IoError Disk := do
  let place ← d.place (String.ofList (p.toList.reverse.dropWhile (· == '/')).reverse)
  match d.nodeAt? place with
  | some _ => .error .alreadyExists
  | none => .ok { d with nodes := d.nodes ++ [(place, .directory)] }

/-- Makes a directory unless it is there already. -/
def ensureDirectory (d : Disk) (p : String) : Except IoError Unit × Disk :=
  match d.makeDirectory p with
  | .ok d => (.ok (), d)
  | .error e => (if d.isDirectory p then .ok () else .error e, d)

/-- Makes a directory and the missing ones above it; `fuel` bounds their number. What was made before a failure
stays. -/
def makeDirectoriesUpTo : Nat → Disk → String → Except IoError Unit × Disk
  | 0, d, _ => (.error .notFound, d)
  | fuel + 1, d, p =>
    if p == "" then (.ok (), d)
    else
      match d.ensureDirectory p, Path.parent? p with
      | (.error .notFound, _), some q =>
        match makeDirectoriesUpTo fuel d q with
        | (.ok (), d) => d.ensureDirectory p
        | failed => failed
      | result, _ => result

/-- Makes a directory and the missing ones above it. -/
def makeDirectories (d : Disk) (p : String) : Except IoError Unit × Disk := makeDirectoriesUpTo (p.length + 1) d p

/-- Makes the directories that a file needs above it. -/
def makeParents (d : Disk) (p : String) : Except IoError Unit × Disk :=
  match Path.parent? p with
  | none | some "" => (.ok (), d)
  | some q => d.makeDirectories q

/-- Whether the file at the end of a path may not be written. -/
def isReadOnly (d : Disk) (p : String) : Bool :=
  match d.node p with
  | .ok (.file id) => (d.fileAt id).readOnly
  | _ => false

/-! ## Tending the files -/

/-- Puts bytes at the end of a path, behind those that are there if `keep` is set. -/
def put (d : Disk) (p : String) (data : List UInt8) (keep : Bool) : Except IoError Disk := do
  let (h, d) ← d.openAppend p
  let d ← if keep then pure d else match h with
    | .file _ => d.truncate h
    | _ => pure d
  d.append h data

/-- Removes what is at the end of a path, a directory with everything in it. -/
def remove (d : Disk) (p : String) : Except IoError Disk := do
  let place ← d.place p
  match d.nodeAt? place with
  | none => .error .notFound
  | some _ => .ok { d with nodes := d.nodes.filter fun e => !(place.isPrefixOf e.1) }

/-- Takes the permission to write from what is at the end of a path. -/
def makeReadOnly (d : Disk) (p : String) : Except IoError Disk := do
  match ← d.node p with
  | .file id => .ok (d.setFile id { d.fileAt id with readOnly := true })
  | _ => .ok d

/-- The paths below the working directory in the order of their texts, those of directories with a slash at the end. -/
def listing (d : Disk) : List String :=
  let names := d.nodes.filterMap fun (place, n) =>
    if workingDirectory.isPrefixOf place then
      let name := "/".intercalate (place.drop workingDirectory.length)
      some (if n == .directory then name ++ "/" else name)
    else none
  names.mergeSort fun a b => compare a b != .gt

/-! ## Databases -/

/-- Makes sure that there is a database at the end of a path: an empty file becomes one. `none` says that the file
cannot be opened, an inner `none` that it is no database. -/
def openDatabase (d : Disk) (p : String) : Option (Option Nat × Disk) :=
  match d.openAppend p with
  | .ok (.file id, d) =>
    match (d.fileAt id).content with
    | .database _ => some (some id, d)
    | .bytes data =>
      -- SQLite takes a file of one byte for an empty one, as it may have written that byte itself.
      if data.length ≤ 1 then some (some id, d.setFile id { d.fileAt id with content := .database .empty })
      else some (none, d)
  | _ => none

/-- The tables in a database file. -/
def tables (d : Disk) (id : Nat) : Database.Tables :=
  match (d.fileAt id).content with
  | .database t => t
  | .bytes _ => .empty

/-- The disk after the tables of a database file changed. -/
def setTables (d : Disk) (id : Nat) (t : Database.Tables) : Disk :=
  d.setFile id { d.fileAt id with content := .database t }

end Disk

end Blotter
