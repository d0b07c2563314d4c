import Likeness.Fault
import Likeness.Store.Path
import Likeness.Text.Lines
import Likeness.Text.Pieces

/-!
# The store

Files with their bytes, in folders.  A key is a path that was followed to its
end: names without the steps upwards that a path may contain, except at the head
of a key that leads above the folder where the program works.  Every operation
says what it needs to find: a file, a folder, or nothing.
-/

namespace Likeness

/-- The names that lead to a file or folder, from a root or from the folder where
    the program works. -/
abbrev Key := List String

/-- The key of what something is inside.  A root is inside itself. -/
def Key.up (key : Key) : Key :=
  match key.getLast? with
  | none => [".."]
  | some last =>
    if last = ".." then key ++ [".."]
    else if key = ["/"] ∨ key = ["//"] then key
    else key.dropLast

/-- The key of a folder that is always there: a root, the folder where the program
    works, or one that this is in. -/
def Key.isGiven (key : Key) : Bool := key = ["/"] || key = ["//"] || key.all (· = "..")

/-- Files and folders.  The folder where the program works is always there. -/
structure Store where
  files : List (Key × List UInt8)
  folders : List Key
  deriving Repr, DecidableEq

namespace Store

/-- Nothing is stored. -/
def empty : Store := ⟨[], []⟩

/-- What a key leads to. -/
inductive Kind where
  | file (bytes : List UInt8)
  | folder

/-- The key where a path begins. -/
def origin (p : Path) : Key := if p.root = "" then [] else [p.root]

/-- What stands at a key. -/
def kind? (s : Store) (key : Key) : Option Kind :=
  match s.files.lookup key with
  | some bytes => some (.file bytes)
  | none =>
    if Key.isGiven key || s.folders.contains key then some .folder else none

/-- The key that is reached from a key through some names.  All that is passed
    has to be a folder; what is reached need not be there, but it could be. -/
def follow (s : Store) : Key → List String → Except Fault Key
  | key, [] => .ok key
  | key, name :: rest =>
    match s.kind? key with
    | some .folder =>
      if Path.nameLimit < name.utf8ByteSize then .error .nameTooLong
      else follow s (if name = ".." then Key.up key else key ++ [name]) rest
    | some (.file _) => .error .notFolder
    | none => .error .noSuchFile

/-- Refuses a path at which nothing can be. -/
def checkPath (p : Path) : Except Fault Unit :=
  if p.hasNul then .error .nulInPath
  else if Path.lengthLimit < p.text.utf8ByteSize then .error .nameTooLong
  else .ok ()

/-- The key of a path. -/
def locate (s : Store) (p : Path) : Except Fault Key :=
  match checkPath p with
  | .ok () => s.follow (origin p) p.names
  | .error e => .error e

/-- A file or folder is at a path.  A name that is too long to be looked up gives
    no answer. -/
def holds (s : Store) (p : Path) : Except Fault Bool :=
  match s.locate p with
  | .ok key => .ok (s.kind? key).isSome
  | .error .nameTooLong => .error .nameTooLong
  | .error _ => .ok false

/-- The bytes of a file. -/
def bytes (s : Store) (p : Path) : Except Fault (List UInt8) :=
  match s.locate p with
  | .error e => .error e
  | .ok key =>
    match s.kind? key with
    | some (.file bytes) => .ok bytes
    | some .folder => .error .isFolder
    | none => .error .noSuchFile

/-- Bytes put under a key, in place of those there. -/
def putBytes (key : Key) (bytes : List UInt8) :
    List (Key × List UInt8) → List (Key × List UInt8)
  | [] => [(key, bytes)]
  | (k, b) :: rest => if k = key then (k, bytes) :: rest else (k, b) :: putBytes key bytes rest

/-- The store with a file; its folder has to be there. -/
def write (s : Store) (p : Path) (bytes : List UInt8) : Except Fault Store :=
  match s.locate p with
  | .error e => .error e
  | .ok key =>
    match s.kind? key with
    | some .folder => .error .isFolder
    | _ => .ok { s with files := putBytes key bytes s.files }

/-- The store with a folder at a key. -/
def addFolder (s : Store) (key : Key) : Except Fault Store :=
  match s.kind? key with
  | some .folder => .ok s
  | some (.file _) => .error .fileExists
  | none => .ok { s with folders := s.folders ++ [key] }

/-- The store with a folder and all the folders on the way to it.  The names are
    those of its path from the last to the first. -/
def makeFolders (s : Store) (start : Key) : List String → Except Fault Store
  | [] => .ok s
  | name :: before =>
    match s.follow start (name :: before).reverse with
    | .ok key => s.addFolder key
    | .error .noSuchFile =>
      match s.makeFolders start before with
      | .error e => .error e
      | .ok s =>
        match s.follow start (name :: before).reverse with
        | .ok key => s.addFolder key
        | .error e => .error e
    | .error e => .error e

/-- The store with a folder and all the folders on the way to it. -/
def makeFolder (s : Store) (p : Path) : Except Fault Store :=
  match checkPath p with
  | .ok () => s.makeFolders (origin p) p.names.reverse
  | .error e => .error e

/-- The store with a file and all the folders on the way to it. -/
def place (s : Store) (p : Path) (bytes : List UInt8) : Except Fault Store := do
  let s ← s.makeFolder p.parent
  s.write p bytes

/-- The text of a file, which is read as a whole. -/
def text (s : Store) (p : Path) : Except Fault (List Char) :=
  match s.bytes p with
  | .error e => .error e
  | .ok bytes =>
    let d := Text.Utf8.decode bytes
    match d.fault with
    | none => .ok (Text.unifyBreaks d.chars)
    | some f => .error (.notUtf8 f)

/-- The text of a file, which is read by pieces. -/
def pieces (s : Store) (p : Path) : Except Fault Text.Pieces :=
  (s.bytes p).map Text.Pieces.ofBytes

/-- The lines of a file. -/
def lines (s : Store) (p : Path) : Except Fault Text.Streamed :=
  (s.bytes p).map Text.streamLines

/-- The texts of the paths to all files, in order. -/
def listing (s : Store) : List String :=
  (s.files.map fun f => String.intercalate "/" f.1).mergeSort fun a b => a ≤ b

end Store

end Likeness
