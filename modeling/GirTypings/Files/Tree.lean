import GirTypings.Files.Path
import GirTypings.Table
import GirTypings.Text.Line

/-!
# Trees of files

A tree holds files, each with its bytes, and directories.  Files hold text as UTF-8;
reading turns every newline into a line feed, writing changes nothing.  Writing makes
the directories that are missing, and fails where a file is in the way of a directory
or a directory in the way of the file.
-/

namespace GirTypings.Files

/-- A tree of files. -/
structure Tree where
  /-- The files with their bytes; every location once. -/
  files : Table Location ByteArray
  /-- The directories except the root. -/
  directories : List Location

namespace Tree

/-- The bytes of a file. -/
def file? (t : Tree) (l : Location) : Option ByteArray :=
  t.files.lookup l

/-- Whether a location is that of a file. -/
def isFile (t : Tree) (l : Location) : Bool :=
  (t.file? l).isSome

/-- Whether a location is that of a directory. -/
def isDirectory (t : Tree) (l : Location) : Bool :=
  l.isEmpty || t.directories.contains l

/-- Whether anything is at a location. -/
def holds (t : Tree) (l : Location) : Bool :=
  t.isFile l || t.isDirectory l

/-- The names of what is directly inside a directory. -/
def namesIn (t : Tree) (l : Location) : List String :=
  (t.files.map Prod.fst ++ t.directories).filterMap fun inner =>
    if inner.dropLast = l then inner.getLast? else none

/-- Where a path leads from a directory, if everything on the way is there. -/
def follow? (t : Tree) (start : Location) : List String → Option Location
  | [] => some start
  | part :: rest =>
    if t.isDirectory start then
      let next := start.step part
      if t.holds next then t.follow? next rest else none
    else none

/-- The location that an existing path leads to. -/
def locate? (t : Tree) (start : Location) (p : Path) : Option Location :=
  t.follow? (if p.slashes = 0 then start else []) p.parts

/-- The tree with a directory path that starts at a directory, and where it leads;
`none` if a file is in the way. -/
def enter? (t : Tree) (start : Location) : List String → Option (Tree × Location)
  | [] => some (t, start)
  | part :: rest =>
    let next := start.step part
    if t.isDirectory next then t.enter? next rest
    else if t.isFile next then none
    else enter? { t with directories := t.directories ++ [next] } next rest

/-- The tree with a file at a path from a directory, with the directories on the way;
`none` if it cannot be written. -/
def writeBytes? (t : Tree) (start : Location) (p : Path) (bytes : ByteArray) : Option Tree := do
  let (t, parent) ← t.enter? (if p.slashes = 0 then start else []) p.parts.dropLast
  let target := parent.step (← p.parts.getLast?)
  if t.isDirectory target then none else some { t with files := Table.put target bytes t.files }

/-- The tree with a text in a file. -/
def writeText? (t : Tree) (start : Location) (p : Path) (text : String) : Option Tree :=
  t.writeBytes? start p text.toUTF8

/-- The text of some bytes; `none` if they are not UTF-8. -/
def textOfBytes? (bytes : ByteArray) : Option String :=
  (String.fromUTF8? bytes).map Text.unifyNewlines

/-- The text of a file; `none` if there is no such file or it does not hold text. -/
def readText? (t : Tree) (start : Location) (p : Path) : Option String := do
  textOfBytes? (← t.file? (← t.locate? start p))

/-- The tree with nothing but a directory and those around it. -/
def empty (start : Location) : Tree :=
  ((⟨[], []⟩ : Tree).enter? [] start).elim ⟨[], []⟩ Prod.fst

/-- The tree with some files under a directory, by their paths. -/
def ofFiles (start : Location) (files : List (Path × ByteArray)) : Tree :=
  files.foldl (fun t (p, bytes) => (t.writeBytes? start p bytes).getD t) (empty start)

end Tree

end GirTypings.Files
