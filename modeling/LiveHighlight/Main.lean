import LiveHighlight.CommandLine
import LiveHighlight.Mounts

/-!
The program.

It starts up from the files on the disk, and then looks at the mounted trees at short intervals:
what it finds there goes into a run over file trees, and what the run changes is written back.
-/

namespace LiveHighlight.Program

open Simulation (World)

abbrev Found := List (String × Option Utf8.Bytes)

def interval : Nat := 20

def names? (path : String) : IO (Option (List String)) := do
  try
    let entries ← ((← IO.currentDir) / path).readDir
    return some (entries.toList.map (·.fileName))
  catch _ =>
    return none

partial def survey (path : String) : IO Found := do
  match ← names? path with
  | some names =>
    let inner ← names.mapM fun name => survey (Path.join path name)
    return (path, none) :: inner.flatten
  | none =>
    try
      return [(path, some (← IO.FS.readBinFile path).toList)]
    catch _ =>
      return []

def absolute (path : String) : IO String := do
  return ((← IO.currentDir) / path).toString

def surveyAll (paths : List String) : IO Found := do
  let found ← paths.mapM fun path => do survey (← absolute path)
  return found.flatten

def emptyTree : IO FileTree := do
  return { FileTree.empty "" with here := some (FileTree.placeOf (← IO.currentDir).toString) }

def startupFiles (tree : FileTree) (options : CommandLine.Options) : IO FileTree := do
  let tree := tree.renew (← surveyAll [options.config])
  match Config.load tree options.config with
  | .error _ => return tree
  | .ok config =>
    let paths := options.config :: (config.styleFile.toList ++ config.queryDirectory.toList)
    return tree.renew (← surveyAll paths)

def writeBack (before after : FileTree) : IO Unit := do
  for (place, node) in after.nodes do
    match node with
    | .file key =>
      if before.content key != after.content key then
        IO.FS.writeBinFile ("/" ++ "/".intercalate place) (after.content key).toByteArray
    | .directory => pure ()

partial def follow (roots : List String) (world : World (Mounts Grammar)) : IO Unit := do
  let before := world.state.tree.renew (← surveyAll roots)
  let world := { world with state := { world.state with tree := before } }
  let world := world.advance Mounts.collaborators interval
  writeBack before world.state.tree
  IO.sleep interval.toUInt32
  follow roots world

def randomDraws : IO Draws := do
  let shares ← (List.range 1024).mapM fun _ => do
    return (⟨← IO.rand 0 1073741824, 1073741824⟩ : Share)
  return { shares }

def run (highlighter : Highlighter Grammar) : IO Unit := do
  let world := Mounts.world highlighter (← emptyTree) (← randomDraws)
  follow [highlighter.editor.root, highlighter.styles.root] world.startDaemon.2

def usage : String :=
  "Usage: live-highlight [OPTIONS] --config <PATH>\n\n" ++
  "Options:\n" ++
  "  -c, --config <PATH>  Configuration file (TOML)\n" ++
  "  -v, --verbose        Verbose logging\n" ++
  "  -h, --help           Print help"

end LiveHighlight.Program

open LiveHighlight in
def main (words : List String) : IO UInt32 := do
  let tree ← Program.emptyTree
  let tree ←
    match CommandLine.read words with
    | .ok options => Program.startupFiles tree options
    | .error _ => pure tree
  let outcome := CommandLine.start words tree
  match outcome with
  | .help => IO.println Program.usage
  | .usage error => IO.eprintln s!"error: {error.message}\n\n{Program.usage}"
  | .failed error =>
    for line in outcome.errorLine?.toList ++ error.report.tail do IO.eprintln line
  | .runs highlighter => Program.run highlighter
  return outcome.exitCode.toUInt32
