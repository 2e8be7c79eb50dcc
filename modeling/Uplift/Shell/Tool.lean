import Uplift.Shell.Machine
import Uplift.Shell.Format
import Uplift.Text.Blank
/-! # Small programs

The programs that scripts are made of. Each takes its arguments, reads its input or the files that
are named, and ends with a status.

* `tool?` finds a program by its name.
-/

namespace Uplift.Shell

/-- The wording of a cause, without its number. -/
def causeText (e : Files.FileError) : String :=
  let s := e.message.toList
  String.ofList (s.takeWhile (· ≠ '(')).dropLast

/-- Reads files one after the other; a dash, or no name at all, stands for the input. The status
says whether all could be read. -/
def concatFiles (program : String) (files : List String) (use : List UInt8 → Run Nat) :
    Run Nat := do
  let files := if files.isEmpty then ["-"] else files
  files.foldlM (fun status file => do
    if file = "-" then
      let bytes ← takeInput
      let next ← use bytes
      if (← get).ended then pure (max status next) else throw .waiting
    else
      match (← get).content file with
      | .ok bytes => pure (max status (← use bytes))
      | .error e =>
        complain (program ++ ": " ++ file ++ ": " ++ causeText e)
        pure 1) 0

/-- All that some files hold, or the input. -/
def gather (program : String) (files : List String) : Run (Option (List UInt8)) := do
  if files.isEmpty || files = ["-"] then pure (some (← allInput))
  else
    files.foldlM (fun sofar file => do
      match (← get).content file with
      | .ok bytes => pure (sofar.map (· ++ bytes))
      | .error e =>
        complain (program ++ ": " ++ file ++ ": " ++ causeText e)
        pure none) (some [])

/-- Writes lines of bytes. -/
def sayLines (ls : List (List UInt8)) : Run Nat := say (ls.flatMap (· ++ [10]))

/-- Arguments that begin with a dash, and the others. -/
def options (args : List String) : List Char × List String :=
  let (os, rest) := args.partition fun a => a.startsWith "-" && a ≠ "-"
  ((os.flatMap fun o => o.toList.drop 1), rest)

/-- Counts lines, words and bytes. -/
def wordCount (args : List String) : Run Nat := do
  let (flags, files) := options args
  match ← gather "wc" files with
  | none => pure 1
  | some bytes =>
    let isGap (b : UInt8) : Bool := b = 32 || (9 ≤ b && b ≤ 13)
    let (words, _) := bytes.foldl (fun (n, inWord) b =>
      if isGap b then (n, false) else (if inWord then n else n + 1, true)) (0, false)
    let all : List (Char × Nat) := [('l', bytes.count 10), ('w', words), ('c', bytes.length)]
    let shown := if flags.isEmpty then all else all.filter fun (c, _) => flags.contains c
    let width :=
      if shown.length = 1 then 0
      else if files.isEmpty then 7
      else (toString bytes.length).length
    let cells := shown.map fun (_, n) =>
      let s := (toString n).toList
      String.ofList (List.replicate (width - s.length) ' ' ++ s)
    sayLine (" ".intercalate (cells ++ files))

/-- The characters that a set of `tr` spells, ranges written out. -/
def charSet : (fuel : Nat) → List Char → List UInt8
  | 0, _ => []
  | _, [] => []
  | fuel + 1, '\\' :: rest =>
    let (bytes, rest) := escape false rest
    bytes ++ charSet fuel rest
  | fuel + 1, a :: '-' :: b :: rest =>
    (List.range (b.toNat + 1 - a.toNat)).map (fun i => UInt8.ofNat (a.toNat + i)) ++
      charSet fuel rest
  | fuel + 1, c :: rest => charBytes c ++ charSet fuel rest

/-- Deletes or replaces bytes. -/
def mapBytes (args : List String) : Run Nat := do
  let (flags, sets) := options args
  let chars (i : Nat) : List UInt8 :=
    let s := (sets[i]?.getD "").toList
    charSet (s.length + 1) s
  let first := chars 0
  let second := chars 1
  let change (b : UInt8) : List UInt8 :=
    if flags.contains 'd' then if first.contains b then [] else [b]
    else match first.idxOf? b with
      | some i => [(second[i]?.orElse fun _ => second.getLast?).getD b]
      | none => [b]
  let bytes ← takeInput
  let status ← say (bytes.flatMap change)
  if (← get).ended then pure status else throw .waiting

/-- How many lines are asked for, and the files. -/
def lineLimit : List String → Nat × List String
  | "-n" :: n :: rest => (n.toNat?.getD 10, rest)
  | a :: rest =>
    match a.toList with
    | '-' :: 'n' :: n => ((String.ofList n).toNat?.getD 10, rest)
    | '-' :: n => if n.isEmpty then (10, a :: rest) else ((String.ofList n).toNat?.getD 10, rest)
    | _ => (10, a :: rest)
  | [] => (10, [])

/-- Bytes cut after every line feed, each line with its line feed. -/
def wholeLines (bytes : List UInt8) : List (List UInt8) :=
  let (ls, last) := bytes.foldr (fun b (ls, cur) =>
    if b = 10 then (cur :: ls, [b]) else (ls, b :: cur))
    (([] : List (List UInt8)), ([] : List UInt8))
  (last :: ls).filter (!·.isEmpty)

/-- Some of the lines of files. -/
def someLines (program : String) (pick : Nat → List (List UInt8) → List (List UInt8))
    (args : List String) : Run Nat := do
  let (n, files) := lineLimit args
  match ← gather program files with
  | none => pure 1
  | some bytes => say (pick n (wholeLines bytes)).flatten

/-- The start of files: some lines of them, or some bytes. -/
def firstPart (args : List String) : Run Nat := do
  let limit : Option (Nat × List String) := match args with
    | "-c" :: n :: files => n.toNat?.map fun n => (n, files)
    | a :: files =>
      if a.startsWith "-c" then (a.drop 2).toString.toNat?.map fun n => (n, files) else none
    | [] => none
  match limit with
  | none => someLines "head" (fun n ls => ls.take n) args
  | some (n, files) =>
    match ← gather "head" files with
    | none => pure 1
    | some bytes => say (bytes.take n)

/-- Sorts lines. -/
def sortLines (args : List String) : Run Nat := do
  let (flags, files) := options args
  match ← gather "sort" files with
  | none => pure 1
  | some bytes =>
    let sorted := (Text.byteLines bytes).mergeSort fun a b => a ≤ b
    let once := if flags.contains 'u' then sorted.eraseReps else sorted
    sayLines (if flags.contains 'r' then once.reverse else once)

/-- Leaves out repeated lines. -/
def uniqueLines (args : List String) : Run Nat := do
  match ← gather "uniq" (options args).2 with
  | none => pure 1
  | some bytes => sayLines (Text.byteLines bytes).eraseReps

/-- Writes a range of numbers. -/
def sequence (args : List String) : Run Nat :=
  let numbers := args.map Format.number
  let (first, step, last) : Int × Int × Int := match numbers with
    | [b] => (1, 1, b)
    | [a, b] => (a, 1, b)
    | a :: s :: b :: _ => (a, s, b)
    | [] => (1, 1, 0)
  let count := if step = 0 then 0 else ((last - first) / step + 1).toNat
  say ((List.range count).flatMap fun (i : Nat) =>
    Text.toBytes (toString (first + step * (i : Int)) ++ "\n"))

/-- Lists the names in directories. -/
def listNames (args : List String) : Run Nat := do
  let (flags, places) := options args
  let m ← get
  (if places.isEmpty then ["."] else places).foldlM (fun status p => do
    match m.tree.locate (m.path p) with
    | .ok place =>
      match m.tree.get? place with
      | some .dir =>
        let names := ((m.tree.children place).map (·.1)).filter fun n =>
          flags.contains 'a' || flags.contains 'A' || !n.startsWith "."
        let _ ← say ((names.mergeSort fun a b => a ≤ b).flatMap fun n => Text.toBytes (n ++ "\n"))
        pure status
      | some _ =>
        let _ ← sayLine p
        pure status
      | none => failWith 2 ("ls: cannot access '" ++ p ++ "': No such file or directory")
    | .error e => failWith 2 ("ls: cannot access '" ++ p ++ "': " ++ causeText e)) 0

/-- Changes the files, one argument after the other. -/
def changeFiles (what : String) (change : Files.Tree → String → Except Files.FileError Files.Tree)
    (args : List String) : Run Nat :=
  args.foldlM (fun status p => do
    let m ← get
    match change m.tree (m.path p) with
    | .ok tree =>
      set { m with tree }
      pure status
    | .error e => failWith 1 (what ++ " '" ++ p ++ "': " ++ causeText e)) 0

/-- The tree without an entry and all that is below it. -/
def removeAll (t : Files.Tree) (path : String) : Except Files.FileError Files.Tree := do
  let place ← t.locateLink path
  match t.get? place with
  | some _ => .ok { t with entries := t.entries.filter fun (q, _) => !place.isPrefixOf q }
  | none => .error .notFound

/-- Removes files. -/
def remove (args : List String) : Run Nat := do
  let (flags, files) := options args
  let quiet := flags.contains 'f'
  let change (t : Files.Tree) (p : String) : Except Files.FileError Files.Tree :=
    let result := if flags.contains 'r' || flags.contains 'R' then removeAll t p else t.removeFile p
    match result with
    | .error .notFound => if quiet then .ok t else .error .notFound
    | r => r
  changeFiles "rm: cannot remove" change files

/-- Makes directories. -/
def makeDirs (args : List String) : Run Nat :=
  let (flags, dirs) := options args
  changeFiles "mkdir: cannot create directory"
    (if flags.contains 'p' then Files.Tree.makeDirs else Files.Tree.makeDir) dirs

/-- Makes files that are not there. -/
def touch (args : List String) : Run Nat :=
  changeFiles "touch: cannot touch"
    (fun t p => if (t.find? p).isSome then .ok t else t.writeBytes p []) (options args).2

/-- Copies a file, and removes it after that if `move` is set. -/
def copyFile (program : String) (move : Bool) (args : List String) : Run Nat := do
  match (options args).2 with
  | [source, target] =>
    let m ← get
    let target := if m.tree.isDir (m.path target) then
      Files.join target ((Files.fileName? source).getD "") else target
    let result := do
      let bytes ← m.content source
      let tree ← m.tree.writeBytes (m.path target) bytes
      if move then tree.removeFile (m.path source) else .ok tree
    match result with
    | .ok tree =>
      set { m with tree }
      pure 0
    | .error e => failWith 1 (program ++ ": cannot stat '" ++ source ++ "': " ++ causeText e)
  | _ => failWith 1 (program ++ ": missing file operand")

/-- The milliseconds of a duration. -/
def duration? (s : String) : Option Nat :=
  let (unit, digits) := match s.toList.reverse with
    | 's' :: rest => (1000, rest.reverse)
    | 'm' :: rest => (60000, rest.reverse)
    | 'h' :: rest => (3600000, rest.reverse)
    | rest => (1000, rest.reverse)
  let (whole, part) := match Text.splitOnce '.' digits with
    | some (a, b) => (a, b)
    | none => (digits, [])
  if (whole ++ part).isEmpty || !(whole ++ part).all Char.isDigit then none
  else
    let n := ((String.ofList (whole ++ part)).toNat?).getD 0
    some (n * unit / Nat.pow 10 part.length)

/-- Sleeps. -/
def sleep (args : List String) : Run Nat := do
  match args.mapM duration? with
  | some (d :: ds) =>
    wait (ds.foldl (· + ·) d)
    pure 0
  | _ => failWith 1 "sleep: invalid time interval"

/-- Decides a condition on texts, numbers or files. -/
def test (m : Machine) : List String → Bool
  | [] => false
  | "!" :: rest => !test m rest
  | [s] => !s.isEmpty
  | [op, s] =>
    match op with
    | "-n" => !s.isEmpty
    | "-z" => s.isEmpty
    | "-e" | "-r" | "-w" => (m.tree.find? (m.path s)).isSome || m.path s = Machine.nowhere
    | "-f" => m.tree.isFile (m.path s)
    | "-d" => m.tree.isDir (m.path s)
    | "-s" => match m.content s with
      | .ok bytes => !bytes.isEmpty
      | .error _ => false
    | "-x" => match m.tree.find? (m.path s) with
      | some (.file _ x) => x
      | some .dir => true
      | _ => false
    | "-L" | "-h" => match m.tree.locateLink (m.path s) with
      | .ok p => match m.tree.get? p with
        | some (.link _) => true
        | _ => false
      | .error _ => false
    | _ => false
  | a :: op :: b :: rest =>
    let x := Format.number a
    let y := Format.number b
    let here := match op with
      | "=" | "==" => a = b
      | "!=" => a ≠ b
      | "-eq" => x = y
      | "-ne" => x ≠ y
      | "-lt" => x < y
      | "-le" => x ≤ y
      | "-gt" => x > y
      | "-ge" => x ≥ y
      | _ => false
    match rest with
    | "-a" :: rest => here && test m rest
    | "-o" :: rest => here || test m rest
    | _ => here

/-- Runs `test` under its name or as a bracket. -/
def testTool (bracket : Bool) (args : List String) : Run Nat := do
  let m ← get
  if bracket && args.getLast? ≠ some "]" then failWith 2 (m.name ++ ": 1: [: missing ]")
  else pure (if test m (if bracket then args.dropLast else args) then 0 else 1)

/-- Writes words; a script's own version also reads escapes. -/
def echo (escapes : Bool) (args : List String) : Run Nat :=
  let (silent, words) := match args with
    | "-n" :: rest => (true, rest)
    | words => (false, words)
  let s := " ".intercalate words
  let (bytes, ended) := if escapes then escaped s else (Text.toBytes s, false)
  say (if silent || ended then bytes else bytes ++ [10])

/-- The last name of a path, without an ending. -/
def baseName : List String → Run Nat
  | p :: rest =>
    let name := (Files.fileName? p).getD p
    let suffix := (rest.headD "").toList
    let cut := name.toList
    let short := if suffix.isSuffixOf cut && suffix.length < cut.length then
      cut.take (cut.length - suffix.length) else cut
    sayLine (String.ofList short)
  | [] => failWith 1 "basename: missing operand"

/-- A path without its last name. -/
def dirName : List String → Run Nat
  | p :: _ => sayLine (match Files.parent? p with
      | some "" | none => if Files.isAbsolute p then "/" else "."
      | some d => d)
  | [] => failWith 1 "dirname: missing operand"

/-- The program of a name that scripts and others can run. -/
def tool? : String → Option (List String → Run Nat)
  | "true" => some fun _ => pure 0
  | "false" => some fun _ => pure 1
  | "echo" => some (echo false)
  | "printf" => some fun args => match args with
      | format :: rest => say (Format.write format rest)
      | [] => failWith 1 "printf: missing operand"
  | "cat" => some fun args => concatFiles "cat" (args.filter (· ≠ "-u")) say
  | "pwd" => some fun _ => do sayLine (← get).dir
  | "wc" => some wordCount
  | "tr" => some mapBytes
  | "head" => some firstPart
  | "tail" => some (someLines "tail" fun n ls => ls.drop (ls.length - n))
  | "sort" => some sortLines
  | "uniq" => some uniqueLines
  | "seq" => some sequence
  | "ls" => some listNames
  | "rm" => some remove
  | "mkdir" => some makeDirs
  | "touch" => some touch
  | "cp" => some (copyFile "cp" false)
  | "mv" => some (copyFile "mv" true)
  | "sleep" => some sleep
  | "test" => some (testTool false)
  | "[" => some (testTool true)
  | "basename" => some baseName
  | "dirname" => some dirName
  | _ => none

end Uplift.Shell
