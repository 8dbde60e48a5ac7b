import GirTypings.CommandLine.Arguments
import GirTypings.Files.Source
import GirTypings.Json.Reader
import GirTypings.Module

/-!
# Runs

A run compiles documents of a tree, one after the other, and writes a module for each.
A document that cannot be read, compiled or written is a **failure**; it is noted in
the journal and the run goes on with the next.  A module whose text is not made of
characters ends the run; an empty file is left where it was to be written.  Documents are
those that the arguments name, or, if they name none, those that patterns find; a pattern
sees the modules that were written for the patterns before it.

Arguments that make no sense, or that name files that are not there, end a run before
anything is done, and so do settings that cannot be read.
-/

namespace GirTypings.CommandLine

open Files

/-- What a run finds around it. -/
structure Surroundings where
  /-- The files. -/
  tree : Tree
  /-- The working directory. -/
  directory : Location
  /-- The variable that names the directory for modules. -/
  outputVariable : Option String
  /-- The patterns for documents that arguments do not name. -/
  patterns : List String

/-! ### Plans -/

/-- What is to be done, with everything that arguments name found. -/
structure Plan where
  /-- The file with settings. -/
  config : Option Location
  /-- The directory for modules. -/
  output : Path
  /-- The documents named. -/
  documents : List Location

/-- The location that an argument names. -/
def Surroundings.location (s : Surroundings) (argument : String) : Location :=
  (Path.ofText argument).locationFrom s.directory

/-- The location of the file that an argument names. -/
def Surroundings.file? (s : Surroundings) (argument : String) : Option Location :=
  let l := s.location argument
  if s.tree.isFile l then some l else none

/-- The directory for modules that an invocation names, or that is used otherwise. -/
def Surroundings.output? (s : Surroundings) (named : Option String) : Option Path :=
  match named with
  | none => some (outputDirectory s.outputVariable)
  | some argument =>
    let l := s.location argument
    if s.tree.isFile l then none else some l.path

/-- The plan for an invocation; `none` if it names what is not there. -/
def Surroundings.plan? (s : Surroundings) (i : Invocation) : Option Plan := do
  let config ← match i.config with
    | none => pure none
    | some argument => some <$> s.file? argument
  return ⟨config, ← s.output? i.outputDirectory, ← i.paths.mapM s.file?⟩

/-! ### Settings -/

/-- Why settings cannot be read. -/
inductive SettingsError where
  /-- The file holds no text. -/
  | notText
  /-- The text is not JSON. -/
  | notJson
  /-- The value is no object. -/
  | notObject
  /-- A whole number is too long. -/
  | longNumber
  /-- A field of the object cannot be taken. -/
  | refused (cause : Settings.Refusal)
deriving DecidableEq, Repr

/-- The wording of an error in the settings.  It stands for the trace that is shown of an error
that nothing catches. -/
def SettingsError.message : SettingsError → String
  | .notText => "The settings are not text."
  | .notJson => "The settings are not JSON."
  | .notObject => "The settings are no JSON object."
  | .longNumber => "The settings hold a number that is too long."
  | .refused _ => "The settings have a field that cannot be set."

/-- The settings that a file holds. -/
def Surroundings.settings (s : Surroundings) (config : Option Location) :
    Except SettingsError Settings :=
  match config with
  | none => .ok {}
  | some l =>
    match s.tree.readText? [] l.path with
    | none => .error .notText
    | some text =>
      match Json.read? text with
      | none => .error .notJson
      | some value =>
        if value.holdsLong then .error .longNumber
        else match value with
          | .object fields => (Settings.ofFields fields).mapError .refused
          | _ => .error .notObject

/-- The settings, with what the invocation asks for on top. -/
def overrule (i : Invocation) (settings : Settings) : Settings :=
  let settings :=
    if i.noDocumentation then { settings with documentation := .bool false } else settings
  if i.camelCase then { settings with camelCase := .bool true } else settings

/-! ### Documents -/

/-- Why no module is written for a document. -/
inductive Failure where
  /-- The document cannot be read as text, or the module cannot be written. -/
  | io
  /-- The document cannot be compiled. -/
  | structural (cause : Gir.StructuralError)
deriving DecidableEq, Repr

/-- The wording of a failure.  `<io error>` stands for whatever the system says of a file that
cannot be read or written, or of bytes that are no text; none of that wording is kept. -/
def Failure.message : Failure → String
  | .io => "<io error>"
  | .structural cause => cause.message

/-- How far a run has come. -/
structure Progress where
  /-- The files now. -/
  tree : Tree
  /-- The journal so far. -/
  journal : List Entry
  /-- How many documents failed. -/
  failures : Nat
  /-- Whether a module was met that no file can hold. -/
  halted : Bool

/-- An entry of the run itself. -/
def note (level : Level) (message : String) : Entry :=
  ⟨level, channelName "cli", message⟩

/-- The file for the module of a source. -/
def modulePath (output : Path) (s : Source) : Path :=
  output.child (s.name ++ ".d.ts")

/-- What a document compiles to. -/
def compileSource (settings : Settings) (directory : Location) (t : Tree) (s : Source) :
    Except Failure Compilation :=
  match t.readText? directory s.path with
  | none => .error .io
  | some text => (compileDocument settings text).mapError .structural

/-- Goes on after a failure. -/
def Progress.fail (p : Progress) (s : Source) (f : Failure) : Progress :=
  { p with
    journal := p.journal ++
      [note .error ("Failed to generate " ++ s.path.text ++ ": " ++ f.message)]
    failures := p.failures + 1 }

/-- Goes on with some entries more. -/
def Progress.record (p : Progress) (entries : List Entry) : Progress :=
  { p with journal := p.journal ++ entries }

/-- Compiles one document, unless the run has come to a halt. -/
def Progress.step (settings : Settings) (directory : Location) (output : Path) (p : Progress)
    (s : Source) : Progress :=
  if p.halted then p else
  let p := p.record [note .info ("Parsing " ++ s.path.text ++ "...")]
  match compileSource settings directory p.tree s with
  | .error f => p.fail s f
  | .ok c =>
    let p := p.record c.journal
    let content := if c.result.writable then c.result.text else ""
    match p.tree.writeText? directory (modulePath output s) content with
    | none => p.fail s .io
    | some tree =>
      if !c.result.writable then { p with tree, halted := true } else
      let stalled := c.result.stalled
      { p with tree }.record <|
        if stalled.isEmpty then []
        else [note .warning (s.name ++ ": unordered classes: " ++ Text.commaList stalled)]

/-- Compiles documents, in order. -/
def Progress.steps (settings : Settings) (directory : Location) (output : Path) (p : Progress)
    (sources : List Source) : Progress :=
  sources.foldl (Progress.step settings directory output) p

/-- Compiles the documents that patterns find. -/
def Progress.search (settings : Settings) (directory : Location) (output : Path) (p : Progress)
    (patterns : List String) : Progress :=
  patterns.foldl (fun p pattern =>
    p.steps settings directory output (discover p.tree directory pattern)) p

/-! ### Runs -/

/-- How a run ends. -/
inductive Ending where
  /-- The arguments make no sense, or name what is not there. -/
  | misuse
  /-- Help was asked for. -/
  | help
  /-- The settings cannot be read. -/
  | badSettings (cause : SettingsError)
  /-- A module was met that no file can hold. -/
  | unwritable
  /-- So many documents failed. -/
  | finished (failures : Nat)
deriving DecidableEq, Repr

/-- The exit code. -/
def Ending.exitCode : Ending → Nat
  | .misuse => 2
  | .help => 0
  | .badSettings _ => 1
  | .unwritable => 1
  | .finished failures => if failures = 0 then 0 else 1

/-- What comes of a run. -/
structure Outcome where
  /-- How it ends. -/
  ending : Ending
  /-- The files afterwards. -/
  tree : Tree
  /-- What the console shows. -/
  console : List String

/-- Does what a plan asks for. -/
def Surroundings.perform (s : Surroundings) (plan : Plan) (settings : Settings) :
    Progress :=
  let start : Progress := ⟨s.tree, [], 0, false⟩
  if plan.documents.isEmpty then start.search settings s.directory plan.output s.patterns
  else start.steps settings s.directory plan.output (plan.documents.map Source.ofLocation)

/-- A run with some arguments. -/
def Surroundings.run (s : Surroundings) (arguments : List String) : Outcome :=
  match Invocation.ofArguments? arguments with
  | none => ⟨.misuse, s.tree, []⟩
  | some i =>
    if i.help then ⟨.help, s.tree, []⟩
    else
      match s.plan? i with
      | none => ⟨.misuse, s.tree, []⟩
      | some plan =>
        match s.settings plan.config with
        | .error cause => ⟨.badSettings cause, s.tree, []⟩
        | .ok settings =>
          let p := s.perform plan (overrule i settings)
          ⟨if p.halted then .unwritable else .finished p.failures, p.tree,
            consoleLines i.verbose p.journal⟩

end GirTypings.CommandLine
