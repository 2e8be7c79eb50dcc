import Uplift.Cli.Run
/-! # The program

The outermost layer. The project is read from the standard input, as one JSON object of paths and
texts; the files that the command made or changed are written below the current directory.
-/

open Uplift

namespace Uplift.Main

/-- The variables that options are taken from. -/
def environmentNames : List String :=
  ((Cli.commonOptions ++ Cli.commands.flatMap (·.2)).filterMap (·.env)).eraseDups

/-- The environment, as far as options are taken from it. -/
def environment : IO Cli.Environment := do
  let found ← environmentNames.filterMapM fun name => do
    pure ((← IO.getEnv name).map fun value => (name, value))
  pure found

/-- The tree with a file more, and the directories above it. -/
def addFile (t : Files.Tree) (path text : String) : Files.Tree :=
  let t := match (Files.parent? path).map t.makeDirs with
    | some (.ok t) => t
    | _ => t
  match t.writeText path text with
  | .ok t => t
  | .error _ => t

/-- The tree that a snapshot holds. -/
def treeOf (snapshot : String) : Files.Tree :=
  match Json.parse? snapshot with
  | some (.map es) => es.foldl (fun t (k, v) =>
      match k.asStr?, v.asStr? with
      | some path, some text => addFile t path text
      | _, _ => t) {}
  | _ => {}

/-- The seconds from the beginning of 1970 to the start of the system, in the
words of the system. -/
def startSeconds (stat : String) : Nat :=
  ((Text.linesOf stat).findSome? fun line =>
    (Text.strip? "btime ".toList line.toList).bind fun s => (String.ofList s).toNat?).getD 0

/-- The time. -/
def now : IO Instant := do
  let stat ← try IO.FS.readFile "/proc/stat" catch _ => pure ""
  pure (Instant.ofUnixMillis (1000 * startSeconds stat + (← IO.monoMsNow)))

/-- Writes the files that are not as they were. -/
def writeChanges (before after : Files.Tree) : IO Unit := do
  let old := before.filesBelow []
  for (names, bytes) in after.filesBelow [] do
    unless old.contains (names, bytes) do
      if names.length > 1 then IO.FS.createDirAll (Files.relative names.dropLast)
      IO.FS.writeBinFile (Files.relative names) ⟨bytes.toArray⟩

end Uplift.Main

def main (args : List String) : IO UInt32 := do
  let t := Main.treeOf (← (← IO.getStdin).readToEnd)
  let e := Cli.run (← Main.environment) args (← Main.now) t
  IO.print e.output
  for (i, message) in (List.range e.errors.length).zip e.errors do
    IO.eprintln (toString i ++ ": " ++ message)
  Main.writeChanges t e.tree
  pure (UInt32.ofNat e.status)
