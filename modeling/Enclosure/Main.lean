import Std.Time.DateTime.Timestamp
import Enclosure.Clock
import Enclosure.Command

/-!
# The program

The command line on a real file system. The files that the arguments name and the configuration
files are read first, then the run is computed, and at last what it wrote is written. No parser is
built in, so every document resolves to the top.
-/

set_option autoImplicit false

namespace Enclosure.Program

/-- What lies at a path of the file system, if something does. -/
def probe (path : String) : IO (Option FileEntry) := do
  try
    let content ← IO.FS.readBinFile path
    return some (.file content.toList)
  catch _ =>
    try
      let place ← IO.FS.realPath path
      return if ← place.isDir then some .directory else none
    catch _ => return none

/-- Files with what lies at a path, if something does. -/
def addPath (files : Files) (path : FilePath) : IO Files := do
  match ← probe path.text with
  | none => return files
  | some entry =>
    match files.makeDirectories path.parent with
    | .error _ => return files
    | .ok (files, directory) =>
      return if path.parts.isEmpty then files else files.put (directory ++ [path.name]) entry

/-- The texts in arguments that may be paths: each argument, and what comes after an equals sign. -/
def pathTexts (args : List String) : List String :=
  args.flatMap fun arg => arg :: (Arguments.splitValue arg.toList).2.toList

/-- The name and the value that an entry of the environment sets. -/
def assignment? (entry : List Char) : Option (String × String) :=
  match Arguments.splitValue entry with
  | (name, some value) => some (name, value)
  | (_, none) => none

/-- The environment that bytes with zeros between the entries describe. -/
def environmentOf (bytes : List UInt8) : Environment :=
  (bytes.splitOn 0).filterMap fun entry => assignment? (Utf8.decodeReplacing entry)

/-- The environment of the program, as far as it can be read. -/
def readEnvironment : IO Environment := do
  try
    return environmentOf (← IO.FS.readBinFile "/proc/self/environ").toList
  catch _ => return []

/-- The provider of a program without parsers. -/
def noParser (p : GrammarParser) : TreeProvider :=
  p.provider .empty fun _ => .failed ⟨.breakdown, "no parser"⟩

/-- All that a run works with. -/
def readWorkplace (args : List String) : IO Workplace := do
  let directory := FilePath.ofText (← IO.currentDir).toString
  let homes : Homes := ⟨(← IO.getEnv "HOME").getD "/", []⟩
  let userFile := (FilePath.ofText homes.own).join (.ofText ".config/codescope/config.yaml")
  let named := (pathTexts args).map fun text => directory.join (.ofText text)
  let project := directory.join (.ofText ".codescope/config.yaml")
  let empty : Files := ⟨[], directory.parts⟩
  let files ← (directory :: userFile :: project :: named).foldlM addPath empty
  let now ← Std.Time.Timestamp.now
  return {
    packages := .standard .usual
    stack := .usual
    files, homes, userFile, directory
    environment := ← readEnvironment
    provider := noParser
    time := Clock.text now.toSecondsSinceUnixEpoch.val.toNat }

/-- Write a line where it belongs. -/
def write (w : Written) : IO Unit := do
  match w.target with
  | .stdout => (← IO.getStdout).putStr w.text
  | .stderr => (← IO.getStderr).putStr w.text
  | .file place =>
    let path : FilePath := ⟨.single, place⟩
    IO.FS.createDirAll path.parent.text
    IO.FS.withFile path.text .append fun handle => handle.putStr w.text

/-- What is said about a run that was broken off. -/
def breakdownText : Breakdown → String
  | .settings _ => "The settings cannot be loaded."
  | .output _ => "An output of the log cannot be opened."
  | .tree escape => escape.message
  | .argument => "A path in the arguments is not valid."

end Enclosure.Program

/-- Run the program. -/
def main (args : List String) : IO UInt32 := do
  let outcome := Enclosure.Command.run (← Enclosure.Program.readWorkplace args) args
  outcome.written.forM Enclosure.Program.write
  if let some cause := outcome.breakdown then
    (← IO.getStderr).putStrLn (Enclosure.Program.breakdownText cause)
  return UInt32.ofNat outcome.exitCode
