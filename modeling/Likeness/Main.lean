import Likeness.Command.Program
import Likeness.Command.Usage
import Likeness.Terminal.Layout

/-!
# The command line

Takes what the program may need from its surroundings, runs it, and puts back
what it wrote, printed and reported.
-/

namespace Likeness

/-- The places that a request may look at. -/
def Request.places (now : Instant) : Request → List Path
  | batch pairs metric _ _ folder =>
    let folder := folder.getD (Program.defaultFolder now (metric.getD ""))
    pairs :: ["trace.jsonl", "scores.tsv", "summary.json"].map folder.child
  | report folder => [folder.child "trace.jsonl"]
  | distance .. | metrics | matrix .. | help => []

/-- The places that a run with some arguments may look at. -/
def Program.places (now : Instant) (args : List String) : List Path :=
  match Preamble.read args with
  | .ok (some p) =>
    p.settings.getD Settings.defaultFile
      :: ((Request.read p.command p.rest).toOption.elim [] (Request.places now))
  | _ => []

/-- The path of a key. -/
def Key.path : Key → Path
  | "/" :: names => ⟨"/", names⟩
  | "//" :: names => ⟨"//", names⟩
  | names => ⟨"", names⟩

namespace Surroundings

/-- Whether a folder is at a path: only in a folder is there the folder itself. -/
def hasFolder (p : Path) : IO Bool := do
  try
    discard (IO.FS.Handle.mk (p.text ++ "/.") .read)
    pure true
  catch _ => pure false

/-- The bytes of a file, if there is one. -/
def bytes? (p : Path) : IO (Option (List UInt8)) := do
  try
    pure (some (← IO.FS.readBinFile p.text).toList)
  catch _ => pure none

/-- The store with what is at a path and on the way to it. -/
def look (s : Store) (p : Path) : IO Store := do
  let mut store := s
  let mut key := Store.origin p
  for name in p.names do
    key := if name = ".." then Key.up key else key ++ [name]
    if (store.kind? key).isNone then
      if ← hasFolder (Key.path key) then
        store := { store with folders := store.folders ++ [key] }
      else if let some bytes ← bytes? (Key.path key) then
        store := { store with files := store.files ++ [(key, bytes)] }
  pure store

/-- Puts back what changed in the store. -/
def update (before after : Store) : IO Unit := do
  for key in after.folders do
    if !before.folders.contains key then IO.FS.createDirAll (Key.path key).text
  for (key, bytes) in after.files do
    if before.files.lookup key != some bytes then
      IO.FS.writeBinFile (Key.path key).text ⟨bytes.toArray⟩

/-- The time, which a file that was just made bears. -/
def now : IO Instant := do
  let (_, file) ← IO.FS.createTempFile
  let time := (← file.metadata).modified
  IO.FS.removeFile file
  pure (Instant.ofUnix time.sec.toNat (time.nsec.toNat / 1000))

end Surroundings

end Likeness

open Likeness in
/-- Runs the program with its arguments, and ends with the number of its ending. -/
def main (args : List String) : IO UInt32 := do
  let now ← Surroundings.now
  let store ← (Program.places now args).foldlM Surroundings.look Store.empty
  let (result, session) := (Program.run args).run ⟨store, .silent, [], now⟩
  Surroundings.update store session.store
  for e in session.journal.entries do
    IO.eprintln (now.iso ++ " | " ++ e.1.name ++ " | " ++ e.2)
  for p in session.screen do
    for line in p.lines do IO.println line
  match result with
  | .ok ending =>
    if ending = .help then
      for line in Command.overview do IO.println line
    pure (UInt32.ofNat ending.exitCode)
  | .error (.misused misuse) =>
    IO.eprintln misuse.message
    pure 2
  | .error fault =>
    IO.eprintln ("Broken off. " ++ fault.message)
    pure 1
