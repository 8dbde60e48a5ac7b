import GirTypings.Declaration.Constant
import GirTypings.Declaration.Header
import GirTypings.Gir.Class
import GirTypings.Gir.Document
import GirTypings.Registry.Order
import GirTypings.Settings

/-!
# Modules

A namespace becomes one **module**.  Its text is a list of blocks with an empty line
between neighbours: the header if there is one, the functions and constants in document
order, and then the classes, interfaces and enumerations in the order of the registry.
Children without a name, and children of any other kind, leave no block.

The text of a document is made of characters, with no halves of surrogate pairs, and so is
what a module takes from it.  A version that comes from the settings need not be
(`Module.writable`).
-/

namespace GirTypings

open Declaration Gir Registry Xml

/-! ### The declarations of a namespace -/

/-- The layout of a function of a namespace. -/
def functionLayout (camel : Bool) (e : Element) : Except Skip Layout := do
  return (← e.callable ["export", "function"]).layout camel 0

/-- The layout of a constant of a namespace. -/
def constantLayout (e : Element) : Except Skip Layout := do
  let name ← e.require "name"
  return Constant.layout ⟨constantName name, e.attr? "value", e.typeSpelling⟩

/-- Whether an element describes a class or an interface. -/
def isClassLike (e : Element) : Bool :=
  e.kind == "class" || e.kind == "interface"

/-- Whether an element describes an enumeration. -/
def isEnumerationLike (e : Element) : Bool :=
  e.kind == "enumeration" || e.kind == "bitfield"

/-- The layout that a child of a namespace adds before the classes, if it does. -/
def looseLayout? (camel : Bool) (e : Element) : Option Layout :=
  if e.kind = "function" then (functionLayout camel e).toOption
  else if e.kind = "constant" then (constantLayout e).toOption
  else none

/-- The record that a child of a namespace adds to the registry, if it does. -/
def record? (camel : Bool) (e : Element) : Option (Record Layout) :=
  if isClassLike e then (e.classRecord camel).toOption
  else if isEnumerationLike e then e.enumerationRecord.toOption
  else none

/-- The layouts of the functions and constants of a namespace. -/
def looseLayouts (camel : Bool) (e : Element) : List Layout :=
  e.children.filterMap (looseLayout? camel)

/-- The records of the classes, interfaces and enumerations of a namespace. -/
def records (camel : Bool) (e : Element) : List (Record Layout) :=
  e.children.filterMap (record? camel)

/-! ### The journal of a namespace -/

/-- What a child of a namespace puts into the journal. -/
def childJournal (space : String) (e : Element) : List Entry :=
  let skipped := Element.skipEntry "generator" ("element of namespace " ++ space) (e.require "name")
  if isClassLike e then e.classJournal ++ skipped
  else if isEnumerationLike e then e.enumerationJournal ++ skipped
  else if e.kind = "function" then e.signatureJournal ++ skipped
  else if e.kind = "constant" then skipped
  else [⟨.debug, channelName "generator", "Ignoring <" ++ e.kind ++ "> in namespace " ++ space⟩]

/-! ### Modules -/

/-- The version of the program, as its modules name it. -/
def programVersion : String :=
  "0.1.0"

/-- A compiled namespace. -/
structure Module where
  /-- The name of the namespace. -/
  space : String
  /-- Its version. -/
  version : String
  /-- The text of the header, empty if there is none. -/
  header : String
  /-- The layouts of the declarations, in order. -/
  layouts : List Layout
  /-- Whether doc comments are written. -/
  documented : Bool
  /-- The imported namespaces. -/
  imports : List String
  /-- The names of the classes that could not be ordered. -/
  stalled : List String
  /-- Whether the text is made of characters.  It is not if a version in it is not. -/
  writable : Bool

namespace Module

/-- The blocks of the text. -/
def blocks (m : Module) : List String :=
  (if m.header = "" then [] else [m.header]) ++ m.layouts.map (Layout.text m.documented)

/-- The text. -/
def text (m : Module) : String :=
  Text.joinWith "\n\n" m.blocks ++ "\n"

end Module

/-- The comment on the origin of a module, empty if none is wanted. -/
def originComment (settings : Settings) (space version : String) : String :=
  if settings.commented then
    "Generated by " ++ programName ++ " " ++ programVersion ++ " from " ++ space ++ "-" ++
      version ++ ".gir"
  else ""

/-- The records of a namespace in the order of writing. -/
def orderedRecords (settings : Settings) (e : Element) : Ordering Layout :=
  order (records settings.camel e)

/-- The module of a namespace, where versions of some namespaces are known. -/
def compile (settings : Settings) (versions : Table String String) (e : Element) : Module :=
  let space := (e.attr? "name").getD ""
  let version := (e.attr? "version").getD ""
  let ordered := orderedRecords settings e
  { space, version
    header := Header.text
      ⟨originComment settings space version,
        ordered.imports.map fun n => (n, (versions.lookup n).getD settings.fallbackVersion)⟩
    layouts := looseLayouts settings.camel e ++ ordered.blocks
    documented := settings.documented
    imports := ordered.imports
    stalled := ordered.stalledNames
    writable :=
      settings.hasWritableVersion || ordered.imports.all fun n => (versions.lookup n).isSome }

/-- What compiling a namespace puts into the journal. -/
def compileJournal (settings : Settings) (e : Element) : List Entry :=
  e.children.flatMap (childJournal ((e.attr? "name").getD "")) ++
    (orderedRecords settings e).journal

/-- A compiled document. -/
structure Compilation where
  /-- The module of the document's namespace. -/
  result : Module
  /-- What compiling it puts into the journal. -/
  journal : List Entry

/-- Compiles a document. -/
def compileDocument (settings : Settings) (text : String) : Except StructuralError Compilation := do
  let repository ← repository text
  let space ← namespaceOf repository
  return ⟨compile settings (includedVersions repository) space, compileJournal settings space⟩

end GirTypings
