import GirTypings.Text.Join
import GirTypings.Text.Piece

/-!
# Paths

A path is a list of parts, relative to some directory or to the root.  Written paths
are cleaned as they are read: empty parts and parts of a single dot are dropped, and
more than two leading slashes count as one.  Parts of two dots are kept, since what
they mean depends on the tree.

A **location** is a place in a tree: the parts that lead to it from the root.
-/

namespace GirTypings.Files

/-- A path. -/
structure Path where
  /-- How many slashes the path starts with: none for a relative path, one or two for
  one from the root. -/
  slashes : Nat
  /-- The parts, in order. -/
  parts : List String
deriving DecidableEq, Repr

/-- What stands before, between and after the slashes of a text. -/
def segments (cs : List Char) : List (List Char) :=
  Text.cutAt (· == '/') cs

/-- What stands before the last occurrence of a character, if there is one. -/
def beforeLast? (mark : Char) : List Char → Option (List Char)
  | [] => none
  | c :: rest =>
    match beforeLast? mark rest with
    | some before => some (c :: before)
    | none => if c = mark then some [] else none

namespace Path

/-- The path that a text writes. -/
def ofText (t : String) : Path :=
  let cs := t.toList
  let leading := (cs.takeWhile (· == '/')).length
  { slashes := if leading = 2 then 2 else min leading 1
    parts := ((segments cs).filter fun s => s ≠ [] && s ≠ ['.']).map .ofList }

/-- How a path is written. -/
def text (p : Path) : String :=
  if p.slashes = 0 && p.parts.isEmpty then "."
  else .ofList (List.replicate p.slashes '/') ++ Text.joinWith "/" p.parts

/-- The path with one more part. -/
def child (p : Path) (name : String) : Path :=
  { p with parts := p.parts ++ [name] }

/-- The last part, empty if there is none. -/
def name (p : Path) : String :=
  p.parts.getLast?.getD ""

/-- The last part without its extension.  A dot at either end starts no extension. -/
def stem (p : Path) : String :=
  let cs := p.name.toList
  match beforeLast? '.' cs with
  | some (c :: before) => if cs.getLast? = some '.' then p.name else .ofList (c :: before)
  | _ => p.name

end Path

/-! ### Locations -/

/-- A place in a tree. -/
abbrev Location := List String

/-- The location that one more part leads to, two dots leading back. -/
def Location.step (l : Location) (part : String) : Location :=
  if part = ".." then l.dropLast else l ++ [part]

/-- The location that a path leads to from another, whatever the tree holds. -/
def Path.locationFrom (start : Location) (p : Path) : Location :=
  p.parts.foldl Location.step (if p.slashes = 0 then start else [])

/-- The path from the root to a location. -/
def Location.path (l : Location) : Path :=
  ⟨1, l⟩

end GirTypings.Files
