import GirTypings.FirstUse
import GirTypings.Gir.Doc
import GirTypings.Journal
import GirTypings.Naming.Identifier
import GirTypings.NativeType

/-!
# Signatures

A callable element lists its parameters and describes what it returns.  The type of a
parameter, of a return value, of a property or of a constant is told by the first
child that is a type, an array or a mark of variable arguments.

Parameters without a name are left out.  A parameter is known by its **final name**,
which is an identifier; of several with the same final name the first counts.

The items of an array are told by a type again, and so on.  Arrays can be nested to any depth
here: reading is by recursion on the element, and no limit is set to it.  A program whose
recursion is limited gives up on a document with arrays nested beyond that.
-/

namespace GirTypings

/-- A parameter of a callable. -/
structure Parameter where
  /-- The final name. -/
  name : String
  /-- The type as it is written. -/
  type : String
  /-- The inline documentation. -/
  doc : Option String
deriving DecidableEq, Repr

/-- What a callable returns. -/
structure ReturnValue where
  /-- The type as it is written. -/
  type : String
  /-- The inline documentation. -/
  doc : Option String
deriving DecidableEq, Repr

/-- Whether nothing is returned. -/
def ReturnValue.isVoid (r : ReturnValue) : Bool :=
  r.type = Scalar.null.spelling

/-- Parameters and return value of a callable. -/
structure Signature where
  /-- The parameters, in order. -/
  parameters : List Parameter
  /-- What is returned. -/
  returns : ReturnValue
deriving DecidableEq, Repr

namespace Xml

/-! ### Types -/

mutual

/-- The type that an element declares for its value. -/
def Element.valueType : Element → ValueType
  | .mk _ _ content => typeIn content

/-- The type that some content declares: what its first type, array or mark of variable
arguments says, and any if there is none. -/
def typeIn : List Node → ValueType
  | [] => .any
  | .text _ :: rest => typeIn rest
  | .element e :: rest =>
    if e.kind = "type" then
      match e.attr? "name" with
      | some native => ⟨nativeScalar native, 0⟩
      | none => .any
    else if e.kind = "array" then e.valueType.array
    else if e.kind = "varargs" then ValueType.any.array
    else typeIn rest

end

namespace Element

/-- The type that an element declares for its value, as it is written. -/
def typeSpelling (e : Element) : String :=
  e.valueType.spelling

/-! ### Parameters -/

/-- The parameter that an element describes.  Three dots stand for all further
arguments. -/
def parameter (e : Element) : Except Gir.Skip Parameter := do
  let name ← e.require "name"
  if name = "..." then
    return ⟨"...other", ValueType.any.array.spelling, e.inlineDoc?⟩
  else
    return ⟨Naming.sanitize name, e.typeSpelling, e.inlineDoc?⟩

/-- The elements that describe the parameters of a callable. -/
def parameterElements (e : Element) : List Element :=
  match e.child? "parameters" with
  | none => []
  | some list => list.children.filter (·.kind == "parameter")

/-- The parameters of a callable. -/
def parameters (e : Element) : List Parameter :=
  firstBy Parameter.name (e.parameterElements.filterMap fun p => p.parameter.toOption)

/-! ### Return values -/

/-- What a callable returns: nothing if there is no return value, or if it has neither a
type nor an array. -/
def returnValue (e : Element) : ReturnValue :=
  match e.child? "return-value" with
  | none => ⟨Scalar.null.spelling, none⟩
  | some r =>
    if r.children.any fun c => c.kind == "type" || c.kind == "array" then
      ⟨r.typeSpelling, r.inlineDoc?⟩
    else ⟨Scalar.null.spelling, r.inlineDoc?⟩

/-- Parameters and return value of a callable. -/
def signature (e : Element) : Signature :=
  ⟨e.parameters, e.returnValue⟩

/-- What reading a signature puts into the journal: the parameters that are left out. -/
def signatureJournal (e : Element) : List Entry :=
  e.parameterElements.filterMap fun p =>
    match p.parameter with
    | .ok _ => none
    | .error skip => some ⟨.debug, channelName "signature",
        "Skipping parameter of " ++ e.summary ++ ": " ++ skip.message⟩

end Element

end Xml

end GirTypings
