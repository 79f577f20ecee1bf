import ClusterTopology.CommandLine
import Std.Time.Format

/-!
# The command at a terminal

Runs the command with the files below the working directory. There is no
connection to services here: every request for metadata and every use of Redis
ends unreachable. Files that the command may read are taken in before it runs,
and what it changes is written back afterwards.
-/

namespace ClusterTopology.Terminal

/-- What a service that is not connected answers. -/
def noConnection : String := "no connection"

/-- The world at a time, with files and without services. -/
def world (time : String) (files : Files) : World where
  http _ := .unreachable noConnection
  redis := ⟨[], some noConnection, some noConnection⟩
  files := files
  log := none
  time := time

/-- The paths that settings name. -/
def pathsOf (settings : Settings) : List String :=
  [settings.text? .topologyFile, settings.text? .logFile].filterMap id

/-- The local time, as log lines give it. -/
def timeText : IO String := do
  return (← Std.Time.PlainDateTime.now).format "uuuu-MM-dd HH:mm:ss,SSS"

/-- Takes what names lead to into a tree of files, if it can be read. -/
def takeNames (files : Files) (names : List String) : IO Files := do
  let target := (Path.mk "" names).collapsed.names
  if target.isEmpty || target.contains ".." then return files
  let place := (← IO.currentDir) / "/".intercalate names
  if ← place.isDir then return files.putDirectory target
  try
    return files.put target (← IO.FS.readBinFile place).toList
  catch _ => return files

/-- Takes what is at a path, and what is on the way to it, into a tree of files. -/
def take (files : Files) (text : String) : IO Files := do
  let path := Path.parse text
  if path.root = "" then
    (List.range path.names.length).foldlM
      (fun files n => takeNames files (path.names.take (n + 1))) files
  else return files

/-- The files that the command may use with some words. -/
def takeAll (words : List String) : IO Files := do
  match CommandLine.Arguments.parse words with
  | .ok (some args) =>
    let files ← [args.config, args.createConfig].filterMap id |>.foldlM take Files.empty
    match ((Settings.ofFile args.config).run (world "" files)).result with
    | .ok settings => (pathsOf settings).foldlM take files
    | .error _ => return files
  | _ => return Files.empty

/-- Writes what is new or changed in a tree of files. -/
def writeBack (before after : Files) : IO Unit := do
  for (names, node) in after.entries do
    if before.node? names ≠ some node then
      let place := (← IO.currentDir) / "/".intercalate names
      match node with
      | .directory => IO.FS.createDir place
      | .file data => IO.FS.writeBinFile place ⟨data.toArray⟩

/-- Runs the command and shows what it prints; the result is the code that it
ends with. -/
def run (words : List String) : IO UInt32 := do
  let files ← takeAll words
  let w := world (← timeText) files
  let done := (CommandLine.run words).run w
  IO.print (Event.printed done.events)
  IO.eprint (Event.complained w.time none done.events)
  writeBack files (w.after done.events).files
  match done.result with
  | .ok code => return UInt32.ofNat code
  | .error failure =>
    IO.eprintln failure.message
    return 1

end ClusterTopology.Terminal

def main (words : List String) : IO UInt32 :=
  ClusterTopology.Terminal.run words
