/-!
# Arguments

Arguments are options and paths in any order; two hyphens end the options.  Options of
one letter may be written together after one hyphen, and one that takes a value takes
the rest of its argument, or the next argument if nothing is left.  A long option takes
what follows an equals sign, or the next argument.  If an option is given twice the
last value counts.
-/

namespace GirTypings.CommandLine

/-- An option. -/
inductive OptionName where
  | config
  | outputDirectory
  | noDocumentation
  | camelCase
  | verbose
  | help
deriving DecidableEq, Repr

namespace OptionName

/-- Whether an option takes a value. -/
def takesValue : OptionName → Bool
  | config => true
  | outputDirectory => true
  | _ => false

/-- The option with a long name. -/
def ofLong? (name : String) : Option OptionName :=
  match name with
  | "--config" => some config
  | "--output-dir" => some outputDirectory
  | "--no-documentation" => some noDocumentation
  | "--camel-case" => some camelCase
  | "--verbose" => some verbose
  | "--help" => some help
  | _ => none

/-- The option with a letter. -/
def ofLetter? (c : Char) : Option OptionName :=
  match c with
  | 'c' => some config
  | 'o' => some outputDirectory
  | 'v' => some verbose
  | _ => none

end OptionName

/-- What arguments ask for. -/
structure Invocation where
  /-- The file with settings. -/
  config : Option String := none
  /-- The directory for modules. -/
  outputDirectory : Option String := none
  /-- Whether doc comments are left out. -/
  noDocumentation : Bool := false
  /-- Whether names are put into camel case. -/
  camelCase : Bool := false
  /-- Whether everything in the journal is shown. -/
  verbose : Bool := false
  /-- Whether only help is asked for. -/
  help : Bool := false
  /-- The documents to compile. -/
  paths : List String := []
deriving DecidableEq, Repr

namespace Invocation

/-- Takes an option that has no value. -/
def setFlag (i : Invocation) : OptionName → Invocation
  | .noDocumentation => { i with noDocumentation := true }
  | .camelCase => { i with camelCase := true }
  | .verbose => { i with verbose := true }
  | .help => { i with help := true }
  | _ => i

/-- Takes the value of an option. -/
def setValue (i : Invocation) (value : String) : OptionName → Invocation
  | .config => { i with config := some value }
  | .outputDirectory => { i with outputDirectory := some value }
  | _ => i

/-- Takes a path. -/
def addPath (i : Invocation) (path : String) : Invocation :=
  { i with paths := i.paths ++ [path] }

/-- Takes the letters of an argument: what they ask for, and the option that still
wants a value; `none` if a letter is no option. -/
def takeLetters? (i : Invocation) : List Char → Option (Invocation × Option OptionName)
  | [] => some (i, none)
  | c :: rest =>
    match OptionName.ofLetter? c with
    | none => none
    | some o =>
      if o.takesValue then
        if rest.isEmpty then some (i, some o) else some (i.setValue (.ofList rest) o, none)
      else (i.setFlag o).takeLetters? rest

/-- Takes a long option, with what follows its equals sign if there is one. -/
def takeLong? (i : Invocation) (o : OptionName) (given : Option String) :
    Option (Invocation × Option OptionName) :=
  match o.takesValue, given with
  | true, some value => some (i.setValue value o, none)
  | true, none => some (i, some o)
  | false, none => some (i.setFlag o, none)
  | false, some _ => none

/-- Takes an argument that starts with a hyphen. -/
def takeOption? (i : Invocation) (argument : List Char) :
    Option (Invocation × Option OptionName) :=
  let (name, value) := argument.span (· != '=')
  match OptionName.ofLong? (.ofList name) with
  | some o => i.takeLong? o (if value.isEmpty then none else some (.ofList (value.drop 1)))
  | none =>
    match argument with
    | '-' :: '-' :: _ => none
    | _ => i.takeLetters? (argument.drop 1)

/-- Takes arguments, where an option may still want its value; `none` if they make no
sense. -/
def takeAll? (i : Invocation) : Option OptionName → List String → Option Invocation
  | none, [] => some i
  | some _, [] => none
  | some o, value :: rest => (i.setValue value o).takeAll? none rest
  | none, argument :: rest =>
    if argument = "--" then some (rest.foldl addPath i)
    else if argument.toList.head? = some '-' && argument ≠ "-" then
      match i.takeOption? argument.toList with
      | none => none
      | some (i, wanting) => i.takeAll? wanting rest
    else (i.addPath argument).takeAll? none rest

/-- What arguments ask for; `none` if they make no sense. -/
def ofArguments? (arguments : List String) : Option Invocation :=
  takeAll? {} none arguments

end Invocation

end GirTypings.CommandLine
