import GirTypings.Xml.Doctype
import GirTypings.Xml.Markup

/-!
# Tokens

With the declarations known, pieces become **tokens**: text, starts and ends of
elements.  An entity in content stands for the tokens of its text, and every element
that begins in the text has to end in it.  A start carries its attributes with their
values read: first those of the tag, then the defaults of the declared attributes that
the tag leaves out.
-/

namespace GirTypings.Xml

/-- A part of content with every reference replaced. -/
inductive Token where
  /-- A run of text. -/
  | text (run : String)
  /-- The start of an element, with its attributes. -/
  | opens (name : QualifiedName) (attributes : List (QualifiedName × String))
  /-- The end of an element. -/
  | closes (name : QualifiedName)
deriving DecidableEq, Repr

/-- How many elements are open after some tokens, if none of them ends an element that
was open before. -/
def depthAfter? : Nat → List Token → Option Nat
  | depth, [] => some depth
  | depth, .text _ :: rest => depthAfter? depth rest
  | depth, .opens _ _ :: rest => depthAfter? (depth + 1) rest
  | 0, .closes _ :: _ => none
  | depth + 1, .closes _ :: rest => depthAfter? depth rest

/-- Whether every element that begins in some tokens ends in them, and no other. -/
def isBalanced (tokens : List Token) : Bool :=
  depthAfter? 0 tokens == some 0

/-- The name that a declaration writes for an attribute. -/
def QualifiedName.ofText (t : String) : QualifiedName :=
  match t.toList.span (· != ':') with
  | (first, _ :: second) => ⟨some (.ofList first), .ofList second⟩
  | (first, []) => ⟨none, .ofList first⟩

namespace Doctype

/-- The attributes of an element: those of its tag with their values, then the defaults
of the declared ones that the tag leaves out.  No name may be written twice. -/
def attributesOf? (d : Doctype) (available : List Entity) (element : QualifiedName)
    (written : List (QualifiedName × List Char)) : Option (List (QualifiedName × String)) := do
  guard (written.map Prod.fst).Nodup
  let given ← written.mapM fun (name, raw) => do
    let tokenized := (d.attribute? element.text name.text).any (·.tokenized)
    return (name, ← d.value? available tokenized raw)
  let defaults := d.attributes.filterMap fun a =>
    if a.element == element.text && !(written.any fun w => w.1.text == a.name) then
      a.fallback.map fun value => (.ofText a.name, value)
    else none
  return given ++ defaults

/-- The tokens that pieces stand for, where the given entities may be opened. -/
def tokens? (d : Doctype) (available : List Entity) : List Piece → Option (List Token)
  | [] => some []
  | .silent :: rest => d.tokens? available rest
  | .text run :: rest => (d.tokens? available rest).map (.text (.ofList run) :: ·)
  | .verbatim run :: rest => (d.tokens? available rest).map (.text (.ofList run) :: ·)
  | .closes name :: rest => (d.tokens? available rest).map (.closes name :: ·)
  | .opens name written closed :: rest =>
    match d.attributesOf? available name written with
    | none => none
    | some attributes =>
      (d.tokens? available rest).map fun more =>
        .opens name attributes :: if closed then .closes name :: more else more
  | .reference (.character c) :: rest =>
    (d.tokens? available rest).map (.text (.ofList [c]) :: ·)
  | .reference (.entity name) :: rest =>
    match predefined? name with
    | some c => (d.tokens? available rest).map (.text (.ofList [c]) :: ·)
    | none =>
      match h : available.find? (·.name == name) with
      | some ⟨_, .internal text⟩ =>
        have := length_closedOff_lt h
        match pieces? text with
        | none => none
        | some inside =>
          match d.tokens? (closedOff name available) inside with
          | none => none
          | some inner =>
            if isBalanced inner then (d.tokens? available rest).map (inner ++ ·) else none
      | _ => none
termination_by ps => (available.length, ps.length)

end Doctype

end GirTypings.Xml
