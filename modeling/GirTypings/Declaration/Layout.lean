import GirTypings.Declaration.Comment

/-!
# Layouts

A declaration is laid out as a list of **parts**: lines of code, and doc comments with
the depth they stand at.  Whether comments are wanted is decided when the layout is
written and at no other place, so the bare form of a declaration is its documented
form with the comments left out.
-/

namespace GirTypings.Declaration

/-- A part of a layout. -/
inductive Part where
  /-- A doc comment. -/
  | comment (depth : Int) (remarks : List String)
  /-- A piece of code. -/
  | code (text : String)
deriving DecidableEq, Repr

/-- The parts of a declaration, in order. -/
abbrev Layout := List Part

/-- The lines of a part, where comments may be wanted or not. -/
def Part.lines (documented : Bool) : Part → List String
  | .comment depth remarks => if documented then indent depth (docBlock remarks) else []
  | .code text => [text]

namespace Layout

/-- A comment, or nothing if it has nothing to say. -/
def comment (depth : Int) (remarks : List String) : Layout :=
  if remarks.isEmpty then [] else [.comment depth remarks]

/-- A line of code at a depth. -/
def line (depth : Int) (text : String) : Layout :=
  [.code (indentLine depth text)]

/-- The lines of a layout. -/
def lines (documented : Bool) (l : Layout) : List String :=
  List.flatMap (Part.lines documented) l

/-- The text of a layout, without a newline at the end. -/
def text (documented : Bool) (l : Layout) : String :=
  Text.joinLines (l.lines documented)

@[simp] theorem lines_nil (documented : Bool) : lines documented [] = [] := rfl

theorem lines_append (documented : Bool) (l m : Layout) :
    lines documented (l ++ m) = lines documented l ++ lines documented m := by
  simp [lines]

/-- Without documentation a comment leaves no trace. -/
@[simp] theorem lines_comment_bare (depth : Int) (remarks : List String) :
    lines false (comment depth remarks) = [] := by
  unfold comment
  split <;> rfl

@[simp] theorem lines_line (documented : Bool) (depth : Int) (t : String) :
    lines documented (line depth t) = [indentLine depth t] := rfl

end Layout

end GirTypings.Declaration
