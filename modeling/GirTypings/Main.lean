import GirTypings.CommandLine.Run

/-!
# The program

The outermost layer.  It takes the part of the file system that a run can look at,
performs the run, writes the files that the run added or changed, and prints what the
console shows.
-/

namespace GirTypings.Program

open Files CommandLine

/-- The patterns for documents where arguments name none. -/
def systemPatterns : List String :=
  ["/usr/share/gir-1.0/*.gir", "/usr/share/*/gir-1.0/*.gir"]

/-- The names in a directory, or nothing if there is no such directory. -/
def entryNames? (path : String) : IO (Option (List String)) := do
  try
    let place ← IO.FS.realPath path
    if ← place.isDir then
      return some ((← place.readDir).toList.map (·.fileName))
    else return none
  catch _ => return none

/-- The bytes of a file, if there is one that can be read. -/
def bytes? (path : String) : IO (Option ByteArray) := do
  try return some (← IO.FS.readBinFile path)
  catch _ => return none

/-- Adds what is at a location, and the directories on the way to it. -/
def load (t : Tree) (l : Location) : IO Tree := do
  let parent := l.dropLast
  let some (t, _) := t.enter? [] parent | return t
  if (← entryNames? l.path.text).isSome then
    return (t.enter? [] l).elim t Prod.fst
  match ← bytes? l.path.text with
  | some bytes => return (t.writeBytes? [] l.path bytes).getD t
  | none => return t

/-- Adds what is directly inside a directory. -/
def loadInside (t : Tree) (l : Location) : IO Tree := do
  let names := (← entryNames? l.path.text).getD []
  names.foldlM (fun t name => load t (l ++ [name])) t

/-- Adds the directories that the system keeps documents in. -/
def loadSystem (t : Tree) : IO Tree := do
  let share : Location := ["usr", "share"]
  let names := (← entryNames? share.path.text).getD []
  let t ← loadInside t (share ++ ["gir-1.0"])
  names.foldlM (fun t name => loadInside t (share ++ [name, "gir-1.0"])) t

/-- What is around a run with some arguments. -/
def surroundings (arguments : List String) : IO Surroundings := do
  let directory := (Path.ofText (← IO.currentDir).toString).parts
  let variableValue ← IO.getEnv "GIR_TYPEDEF_DIR"
  let some i := Invocation.ofArguments? arguments
    | return ⟨.empty directory, directory, variableValue, []⟩
  let named := i.config.toList ++ i.outputDirectory.toList ++ i.paths
  let output := match i.outputDirectory with
    | some argument => Path.ofText argument
    | none => outputDirectory variableValue
  let places := named.map fun argument => (Path.ofText argument).locationFrom directory
  let t ← places.foldlM load (.empty directory)
  let t ← loadInside t (output.locationFrom directory)
  let t ← if i.paths.isEmpty then loadSystem t else pure t
  return ⟨t, directory, variableValue, systemPatterns⟩

/-- Writes the files of a tree that are not in another. -/
def store (before after : Tree) : IO Unit :=
  after.files.forM fun (l, bytes) => do
    if before.file? l != some bytes then
      IO.FS.createDirAll (Location.path l.dropLast).text
      IO.FS.writeBinFile l.path.text bytes

/-- How the program is called. -/
def synopsis : String :=
  "Usage: " ++ programName ++ " [OPTIONS] [PATHS]..."

/-- What help tells. -/
def usage : String :=
  synopsis ++ "\n\n" ++
  "  Generate TypeScript declarations from GIR files.\n\n" ++
  "  Without PATHS, every GIR file under the standard gir-1.0 directories is\n" ++
  "  compiled.\n\n" ++
  "Options:\n" ++
  "  -c, --config FILE\n" ++
  "  -o, --output-dir DIRECTORY  Directory for generated .d.ts files (default:\n" ++
  "                              $GIR_TYPEDEF_DIR/types)\n" ++
  "  --no-documentation          Emit bare signatures without doc comments\n" ++
  "  --camel-case                Convert snake_case method names to camelCase\n" ++
  "  -v, --verbose\n" ++
  "  --help                      Show this message and exit."

/-- Prints how a run ended, as far as the console does not tell. -/
def report : Ending → IO Unit
  | .misuse => IO.eprintln synopsis
  | .help => IO.println usage
  | .badSettings cause => IO.eprintln cause.message
  | .unwritable => IO.eprintln "A module is not made of characters."
  | .finished _ => pure ()

/-- Compiles documents as the arguments ask for. -/
def start (arguments : List String) : IO UInt32 := do
  let around ← surroundings arguments
  let outcome := around.run arguments
  store around.tree outcome.tree
  outcome.console.forM fun line => IO.eprintln line
  report outcome.ending
  return outcome.ending.exitCode.toUInt32

end GirTypings.Program

/-- The program. -/
def main (arguments : List String) : IO UInt32 :=
  GirTypings.Program.start arguments
