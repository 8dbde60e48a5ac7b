import GirTypings.Files.Tree
import GirTypings.Files.Wildcard

/-!
# Patterns

A pattern is a written path whose parts may be wildcards.  Such a part stands for the
names in a directory that it matches; a name with a leading dot is hidden unless the
part has the dot too.  A part without wildcards stands for itself.  A part of a single
dot, and the empty part after a slash at the end, stay in the directory that comes
before them.

What a pattern finds is ordered as it is written, such parts included, and only then
read as paths.
-/

namespace GirTypings.Files

/-- The parts of a pattern.  Of several slashes in a row one counts, and the slash at
the end is followed by an empty part. -/
def patternParts (pattern : String) : List String :=
  let parts := (segments pattern.toList).map String.ofList
  parts.dropLast.filter (· ≠ "") ++ parts.getLast?.toList

/-- Where a part without wildcards leads. -/
def Location.advance (l : Location) (part : String) : Location :=
  if part = "" || part = "." then l else l.step part

/-- Whether a name is hidden. -/
def isHidden (name : String) : Bool :=
  name.toList.head? = some '.'

/-- The names in a directory that a part of a pattern stands for. -/
def namesFor (t : Tree) (l : Location) (part : String) : List String :=
  let found := signs part.toList
  (t.namesIn l).filter fun name =>
    (isHidden part || !isHidden name) && signsMatch found name.toList

/-- The ways in which parts of a pattern can be replaced by names, from a directory. -/
def expansions (t : Tree) (l : Location) : List String → List (List String)
  | [] => [[]]
  | part :: rest =>
    if !t.isDirectory l then []
    else
      let names := if isOpen part then namesFor t l part else [part]
      names.flatMap fun name =>
        let next := l.advance name
        if t.holds next then (expansions t next rest).map (name :: ·) else []

/-- The paths that a pattern matches, in increasing order of how they are written. -/
def matchedPaths (t : Tree) (start : Location) (pattern : String) : List Path :=
  if pattern = "" then []
  else
    let slashes := (Path.ofText pattern).slashes
    let found := expansions t (if slashes = 0 then start else []) (patternParts pattern)
    let written := found.map fun parts =>
      String.ofList (List.replicate slashes '/') ++ Text.joinWith "/" parts
    (written.mergeSort fun a b => a ≤ b).map .ofText

end GirTypings.Files
