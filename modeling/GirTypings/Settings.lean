import GirTypings.Json

/-!
# Settings

Four settings govern what is written: whether doc comments are, whether a comment on
the origin is, which version of a namespace is imported if none is included, and
whether the names of callables are put into camel case.  A setting keeps the value
that it was given, whatever that is; the three that are questions are answered by
whether the value counts as on.

Settings are read from named fields; those that name nothing here are passed over.
-/

namespace GirTypings

/-- The settings. -/
structure Settings where
  /-- Whether doc comments are written. -/
  documentation : Json := .bool true
  /-- Whether a comment on the origin is written. -/
  originComment : Json := .bool true
  /-- The version to import where none is included. -/
  importVersion : Json := .string "3.0"
  /-- Whether the names of callables are put into camel case. -/
  camelCase : Json := .bool false

namespace Settings

/-- Gives one of the four settings a value.  Names that are no setting are passed
over. -/
def assign (s : Settings) (name : String) (value : Json) : Settings :=
  if name = "documentation" then { s with documentation := value }
  else if name = "add_generation_comment" then { s with originComment := value }
  else if name = "default_import_version" then { s with importVersion := value }
  else if name = "camel_case_methods" then { s with camelCase := value }
  else s

/-- The defaults with the values that some fields give. -/
def fresh (fields : List (String × Json)) : Settings :=
  fields.foldl (fun s field => s.assign field.1 field.2) {}

/-- Why a field cannot be taken. -/
inductive Refusal where
  /-- All settings are to be replaced by what is no object. -/
  | notFields
  /-- The kind of thing that settings are is to be changed. -/
  | kind
  /-- The references to the settings are to be changed. -/
  | references
deriving DecidableEq, Repr

/-- Takes a field.  Besides the four settings there are three reserved names: one puts
fresh settings in the place of all, and two cannot be given a value. -/
def set (s : Settings) (name : String) (value : Json) : Except Refusal Settings :=
  if name = "__dict__" then
    match value with
    | .object fields => .ok (fresh fields)
    | _ => .error .notFields
  else if name = "__class__" then .error .kind
  else if name = "__weakref__" then .error .references
  else .ok (s.assign name value)

/-- Takes fields, in order. -/
def update (s : Settings) (fields : List (String × Json)) : Except Refusal Settings :=
  fields.foldlM (fun s field => s.set field.1 field.2) s

/-- The settings that some fields describe, on top of the defaults. -/
def ofFields (fields : List (String × Json)) : Except Refusal Settings :=
  update {} fields

/-- The settings as fields. -/
def toFields (s : Settings) : List (String × Json) :=
  [("documentation", s.documentation), ("add_generation_comment", s.originComment),
    ("default_import_version", s.importVersion), ("camel_case_methods", s.camelCase)]

/-- Whether doc comments are written. -/
def documented (s : Settings) : Bool :=
  s.documentation.isOn

/-- Whether a comment on the origin is written. -/
def commented (s : Settings) : Bool :=
  s.originComment.isOn

/-- Whether the names of callables are put into camel case. -/
def camel (s : Settings) : Bool :=
  s.camelCase.isOn

/-- Whether the version to import where none is included is made of characters. -/
def hasWritableVersion (s : Settings) : Bool :=
  match s.importVersion with
  | .halves _ => false
  | _ => true

/-- The version to import where none is included, as it is written. -/
def fallbackVersion (s : Settings) : String :=
  s.importVersion.text

end Settings

end GirTypings
