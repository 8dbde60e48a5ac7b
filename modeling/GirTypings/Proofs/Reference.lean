import GirTypings.Proofs.Grounding
import GirTypings.Proofs.Provenance

/-!
# References and the declarations they mean

A class names the class that it extends, and that class is declared elsewhere in the
module.  The order of writing looks at the names of the document, and the two printed
names are made from such a name at two places: by `referenceName` where the class is
extended, and by the shell or the enumeration where it is declared.  For a local name
both put it through `Naming.sanitize`, so they agree, however malformed the name is.

`extends_declared_before`: a class that is not stalled and has a local parent is opened
by a line that extends a name, and an earlier block, which comes from a child that has
the parent's name, declares that very name.
-/

namespace GirTypings

open Declaration Gir Registry Xml

/-! ### Blocks under a header -/

namespace Declaration

/-- Whether a block is a declaration that a line opens, with perhaps a doc comment in
front. -/
def OpenedBy (header block : String) : Prop :=
  ∃ comment body : List String, (comment = [] ∨ ∃ remarks, comment = docBlock remarks) ∧
    block = Text.joinLines (comment ++ header :: body)

/-- Whether a block declares a name: as a class, an interface or an enumeration. -/
def Declares (name block : String) : Prop :=
  ∃ keyword ∈ ["class", "interface", "enum"], ∃ extension,
    (extension = "" ∨ ∃ base, extension = " extends " ++ base) ∧
      OpenedBy ("export " ++ keyword ++ " " ++ name ++ extension ++ " \x7b") block

theorem indentLine_zero (line : String) : indentLine 0 line = line := by
  rw [indentLine]
  split
  · rfl
  · exact String.empty_append

theorem indent_zero (lines : List String) : indent 0 lines = lines := by
  rw [indent, show indentLine 0 = id from funext indentLine_zero, List.map_id]

/-- A comment at the margin leaves its block or nothing. -/
theorem lines_comment_zero (documented : Bool) (remarks : List String) :
    Layout.lines documented (Layout.comment 0 remarks) = [] ∨
      Layout.lines documented (Layout.comment 0 remarks) = docBlock remarks := by
  cases documented with
  | false => exact .inl (Layout.lines_comment_bare 0 remarks)
  | true =>
    rw [Layout.comment]
    split
    · exact .inl rfl
    · refine .inr ?_
      rw [Layout.lines, List.flatMap_singleton, Part.lines, if_pos rfl, indent_zero]

/-- What is laid out under a comment is opened by the first line of code. -/
theorem openedBy_text (documented : Bool) (remarks : List String) (header : String)
    (rest : Layout) :
    OpenedBy header
      (Layout.text documented (Layout.comment 0 remarks ++ .code header :: rest)) := by
  refine ⟨Layout.lines documented (Layout.comment 0 remarks), Layout.lines documented rest, ?_, ?_⟩
  · rcases lines_comment_zero documented remarks with h | h
    · exact .inl h
    · exact .inr ⟨remarks, h⟩
  · rw [Layout.text, Layout.lines_append]
    rfl

theorem openedBy_text_shell (documented : Bool) (s : Shell) :
    OpenedBy s.header (s.layout.text documented) :=
  openedBy_text documented s.remarks s.header _

theorem openedBy_text_enumeration (documented : Bool) (e : Enumeration) :
    OpenedBy e.header (e.layout.text documented) :=
  openedBy_text documented _ e.header _

/-- A shell declares its name as the kind of thing that it is. -/
theorem declares_shell (documented : Bool) {s : Shell}
    (hkind : s.kind = "class" ∨ s.kind = "interface") :
    Declares (Naming.sanitize s.name) (s.layout.text documented) := by
  refine ⟨s.kind, ?_, s.extended?.elim "" (" extends " ++ ·), ?_, openedBy_text_shell documented s⟩
  · rcases hkind with h | h <;> simp [h]
  · cases s.extended? with
    | none => exact .inl rfl
    | some base => exact .inr ⟨base, rfl⟩

theorem declares_enumeration (documented : Bool) (e : Enumeration) :
    Declares (Naming.sanitize e.name) (e.layout.text documented) := by
  refine ⟨"enum", by simp, "", .inl rfl, ?_⟩
  rw [String.append_empty]
  exact openedBy_text_enumeration documented e

/-- The header of a class that extends another. -/
theorem header_of_base {s : Shell} {base : String} (hkind : s.kind = "class")
    (hbase : s.base = some base) (hne : base ≠ "") :
    s.header = "export class " ++ Naming.sanitize s.name ++ " extends " ++ referenceName base ++
      " \x7b" := by
  have hextended : s.extended? = some (referenceName base) := by
    rw [Shell.extended?, if_pos hkind, hbase, Option.filter_some, if_pos (by simpa using hne)]
    rfl
  rw [Shell.header, hextended, hkind, Option.elim_some, ← String.append_assoc]
  rfl

end Declaration

/-! ### The block of a class and of its parent -/

variable {settings : Settings} {e : Element}

/-- A record declares its name, and the child that it comes from has it. -/
theorem declares_of_record? {child : Element} {r : Record Layout}
    (h : record? settings.camel child = some r) :
    child.attr? "name" = some r.name ∧
      Declares (Naming.sanitize r.name) (recordBlock settings r) := by
  rcases record?_eq_some_iff.1 h with ⟨-, name, hname, rfl⟩ | ⟨-, name, hname, rfl⟩
  · refine ⟨hname, declares_shell settings.documented (s := child.shell settings.camel name) ?_⟩
    rw [Element.shell]
    cases child.isInterface <;> simp
  · exact ⟨hname, declares_enumeration settings.documented (child.enumeration name)⟩

/-- The record of a class with a name. -/
theorem record?_of_class (camel : Bool) {child : Element} {name : String}
    (hkind : child.kind = "class") (hname : child.attr? "name" = some name) :
    record? camel child = some ⟨name, child.parentNames, (child.shell camel name).layout⟩ :=
  record?_eq_some_iff.2 (.inl ⟨by rw [isClassLike, hkind]; decide, name, hname, rfl⟩)

/-- The class that a child extends is among its parents. -/
theorem mem_parentNames_of_parent {child : Element} {parent : String}
    (hparent : child.attr? "parent" = some parent) (hne : parent ≠ "") :
    parent ∈ child.parentNames := by
  have hfilled : child.filled? "parent" = some parent := by
    rw [Element.filled?, hparent, Option.filter_some, if_pos (by simpa using hne)]
  rw [Element.parentNames, hfilled]
  simp

/-- The block of a class with a local parent is opened by a line that extends the
parent's name, put into the form in which it is declared. -/
theorem openedBy_extends {child : Element} {name parent : String}
    (hkind : child.kind = "class") (hparent : child.attr? "parent" = some parent)
    (hne : parent ≠ "") (hlocal : isForeign parent = false) :
    OpenedBy ("export class " ++ Naming.sanitize name ++ " extends " ++ Naming.sanitize parent ++
      " \x7b") ((child.shell settings.camel name).layout.text settings.documented) := by
  have hclass : (child.shell settings.camel name).kind = "class" := by
    simp [Element.shell, Element.isInterface, hkind]
  have hopened := openedBy_text_shell settings.documented (child.shell settings.camel name)
  rw [header_of_base hclass hparent hne, referenceName, hlocal] at hopened
  exact hopened

/-- Where the blocks of two placed records stand in the module. -/
theorem blocks_eq_of_placed (versions : Table String String)
    {front middle back : List (Record Layout)} {q r : Record Layout}
    (h : (orderedRecords settings e).placed = front ++ q :: middle ++ r :: back) :
    ∃ before between after, (compile settings versions e).blocks =
      before ++ recordBlock settings q :: (between ++ recordBlock settings r :: after) := by
  rw [blocks_compile, Ordering.emission, h]
  generalize (if (compile settings versions e).header = "" then []
    else [(compile settings versions e).header]) ++ _ = start
  refine ⟨start ++ front.map (recordBlock settings), middle.map (recordBlock settings),
    (back ++ (orderedRecords settings e).stalled).map (recordBlock settings), ?_⟩
  simp

/-- **References and declarations agree.**  Take a class with a name and with a local
parent, whose record is not stalled.  Its block is opened by a line that extends a name,
and an earlier block of the module, left by a child that has the parent's name, declares
that same name.  (What stalls is decided by the parents of a record alone, so children
that make the same record stall together.) -/
theorem extends_declared_before (settings : Settings) (versions : Table String String)
    (e child : Element) (name parent : String) (hchild : child ∈ e.children)
    (hkind : child.kind = "class") (hname : child.attr? "name" = some name)
    (hparent : child.attr? "parent" = some parent) (hne : parent ≠ "")
    (hlocal : '.' ∉ parent.toList)
    (hplaced : ∀ r ∈ (orderedRecords settings e).stalled, record? settings.camel child ≠ some r) :
    ∃ before declaration between extension after,
      (compile settings versions e).blocks =
        before ++ declaration :: (between ++ extension :: after) ∧
      declarationBlock? settings child = some extension ∧
      OpenedBy ("export class " ++ Naming.sanitize name ++ " extends " ++
        Naming.sanitize parent ++ " \x7b") extension ∧
      (∃ origin ∈ e.children, origin.attr? "name" = some parent ∧
        declarationBlock? settings origin = some declaration) ∧
      Declares (Naming.sanitize parent) declaration := by
  have hforeign : isForeign parent = false := by simpa [isForeign] using hlocal
  have hrecord := record?_of_class settings.camel hkind hname
  have hmem : ⟨name, child.parentNames, (child.shell settings.camel name).layout⟩ ∈
      records settings.camel e := List.mem_filterMap.2 ⟨child, hchild, hrecord⟩
  have hlocalParent : parent ∈ Record.localParents
      ⟨name, child.parentNames, (child.shell settings.camel name).layout⟩ :=
    List.mem_filter.2 ⟨mem_parentNames_of_parent hparent hne, by rw [hforeign]; rfl⟩
  -- the record is placed, and one with the parent's name stands before it
  have hnot := fun hstalled => hplaced _ hstalled hrecord
  have hin := (mem_placed_or_mem_stalled hmem).resolve_right hnot
  obtain ⟨front, q, middle, back, hsplit, rfl⟩ := exists_split_of_mem_placed hin hlocalParent
  obtain ⟨before, between, after, hblocks⟩ := blocks_eq_of_placed versions hsplit
  -- the earlier record comes from a child, which has its name
  have hq : q ∈ (orderedRecords settings e).emission :=
    List.mem_append_left _ (by rw [orderedRecords, hsplit]; simp)
  obtain ⟨origin, horigin, hfrom⟩ := exists_child_of_mem_emission hq
  obtain ⟨horiginName, hdeclares⟩ := declares_of_record? hfrom
  refine ⟨before, _, between, _, after, hblocks, ?_, openedBy_extends hkind hparent hne hforeign,
    ⟨origin, horigin, horiginName, ?_⟩, hdeclares⟩
  · rw [declarationBlock?, hrecord, Option.map_some]
  · rw [declarationBlock?, hfrom, Option.map_some]

/-- A class of a name, and of a parent if there is one. -/
def bareClass (name : String) (parent : Option String) : Element :=
  .mk ⟨some coreNamespace, "class"⟩
    (⟨⟨none, "name"⟩, name⟩ :: (parent.map fun p => ⟨⟨none, "parent"⟩, p⟩).toList) []

/-- A class in front of its parent, where the name of the parent is a reserved word. -/
def reservedParent : Element :=
  .mk ⟨some coreNamespace, "namespace"⟩ []
    [.element (bareClass "Child" (some "delete")), .element (bareClass "delete" none)]

/-- The parent is declared first, and under the name that the class extends. -/
theorem extends_declared_before_of_reserved :
    (orderedRecords {} reservedParent).stalled = [] ∧
    ∃ before declaration between extension after,
      (compile {} [] reservedParent).blocks =
        before ++ declaration :: (between ++ extension :: after) ∧
      OpenedBy "export class Child extends _delete \x7b" extension ∧
      Declares "_delete" declaration := by
  have hstalled : (orderedRecords {} reservedParent).stalled = [] := by decide +kernel
  have h := extends_declared_before {} [] reservedParent (bareClass "Child" (some "delete"))
    "Child" "delete" (List.mem_cons_self ..) (by decide +kernel) (by decide +kernel)
    (by decide +kernel) (by decide) (by decide) (by rw [hstalled]; nofun)
  obtain ⟨before, declaration, between, extension, after, hblocks, -, hopened, -, hdeclares⟩ := h
  rw [show Naming.sanitize "delete" = "_delete" by decide +kernel] at hopened hdeclares
  exact ⟨hstalled, before, declaration, between, extension, after, hblocks, hopened, hdeclares⟩

end GirTypings
