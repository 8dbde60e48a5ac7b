import GirTypings.Table
import GirTypings.Xml.Entity
import GirTypings.Xml.Markup

/-!
# Expansion

A short document can refer to entities whose texts refer to others, many times over,
and so stand for a very long one.  Such a document is refused before anything is
expanded.  Every opening of an entity counts with the bytes of its text and with what
is opened inside the text; the sum may come up to the `allowance` of the document.

The size of an entity is worked out once and then **known**, so the sum is found without
opening anything more than once.

The bound is an idealization of the one that readers keep.  A reader compares running sums:
what it has opened so far, in default values as in content, with what it has read so far.
Here the allowance comes from the size of the whole document, and the content and each
default value are compared with it on their own.  So some documents with entities that such
a reader refuses are accepted here; for documents without entities there is no difference.
-/

namespace GirTypings.Xml

/-- The bytes that characters take. -/
def byteCount (cs : List Char) : Nat :=
  cs.foldl (fun n c => n + c.utf8Size) 0

/-- How many bytes of entity texts a document of a given size may open: with the document
itself, fewer than eight mebibytes, or no more than a hundred times its size. -/
def allowance (size : Nat) : Nat :=
  max (8388607 - size) (99 * size)

/-- The names of the entities that fragments refer to. -/
def fragmentNames (parts : List Fragment) : List String :=
  parts.filterMap fun
    | .reference (.entity name) => some name
    | _ => none

/-- The names of the entities that a piece refers to, in its attributes too. -/
def Piece.entityNames : Piece → List String
  | .reference (.entity name) => [name]
  | .opens _ attributes _ =>
    attributes.flatMap fun (_, raw) => fragmentNames ((fragments? raw).getD [])
  | _ => []

/-- The names of the entities that the text of an entity refers to, read as content or
else as a part of a value. -/
def namesInText (text : List Char) : List String :=
  match pieces? text with
  | some pieces => pieces.flatMap Piece.entityNames
  | none => fragmentNames ((fragments? text).getD [])

/-- How many bytes are opened by references to some names, where the given entities may be
opened, and the sizes known after that. -/
def openedSize (available : List Entity) (known : Table String Nat) :
    List String → Nat × Table String Nat
  | [] => (0, known)
  | name :: rest =>
    match known.lookup name with
    | some size =>
      let (others, known) := openedSize available known rest
      (size + others, known)
    | none =>
      match h : available.find? (·.name == name) with
      | some ⟨_, .internal text⟩ =>
        have := length_closedOff_lt h
        let (inside, known) := openedSize (closedOff name available) known (namesInText text)
        let size := byteCount text + inside
        let (others, known) := openedSize available ((name, size) :: known) rest
        (size + others, known)
      | _ => openedSize available known rest
termination_by names => (available.length, names.length)

/-- Whether references to some names open no more than so many bytes. -/
def opensWithin (limit : Nat) (available : List Entity) (names : List String) : Bool :=
  (openedSize available [] names).1 ≤ limit

end GirTypings.Xml
