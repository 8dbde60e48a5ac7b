import GirTypings.Proofs.Conservation
import GirTypings.Proofs.Import
import GirTypings.Proofs.LegalName
import GirTypings.Proofs.Reference

/-!
# What is exported

Every declaration at the top of a module begins with `export`, a word that declares, and a
name.  The five kinds come to their names in different ways: functions are put into camel
case and sanitized, classes, interfaces and enumerations are sanitized, and constants get an
underscore in front of a digit and are otherwise left alone.  So all names that are exported
can be bound, except that a constant keeps a name that is empty or a reserved word.

What is exported is read off the lines of the layouts (`Layout.exports`).  Where no value of
an attribute holds a line feed these are the rows of the text, and nothing else in it begins
like an export.

* `exports_looseLayout?`, `exports_record?`: a child exports one name;
* `exports_compile`, `mem_exports_compile`: the names that a module exports, in order, and
  which these are;
* `exportsOfText_compile`: they are what the text exports;
* `exports_legal_iff`: when all of them can be bound.
-/

namespace GirTypings

open Declaration Gir Naming Registry Text Xml

/-! ### Lines that export a name -/

namespace Declaration

/-- The words that declare what is exported. -/
def exportWords : List String :=
  ["function", "class", "interface", "enum", "const"]

/-- The name that a line exports, if it does: the identifier characters behind `export` and
a word that declares. -/
def exportedName? (line : String) : Option String :=
  exportWords.findSome? fun word =>
    (line.toList.dropPrefix? ("export " ++ word ++ " ").toList).map fun rest =>
      .ofList (rest.takeWhile isIdentifierChar)

/-- The name that a part exports.  Comments export nothing. -/
def Part.exportedName? : Part → Option String
  | .comment _ _ => none
  | .code text => Declaration.exportedName? text

/-- The names that a layout exports, in order. -/
def Layout.exports (l : Layout) : List String :=
  l.filterMap Part.exportedName?

/-- What stands behind a word that declares is read up to another character. -/
theorem exportedName?_append {word : String} (hword : word ∈ exportWords) (more : String) :
    exportedName? ("export " ++ word ++ " " ++ more) =
      some (.ofList (more.toList.takeWhile isIdentifierChar)) := by
  rw [exportedName?, String.toList_append]
  generalize more.toList = cs
  -- the words are tried in turn, and none of them starts like another
  simp only [exportWords, List.mem_cons, List.not_mem_nil, or_false] at hword
  rcases hword with rfl | rfl | rfl | rfl | rfl <;> simp [exportWords, List.dropPrefix?]

/-- **A line exports the name in it**, if that is made of identifier characters and something
else follows. -/
theorem exportedName?_of_word {word name rest : String} (hword : word ∈ exportWords)
    (hname : IsIdentifierText name)
    (hrest : rest.toList.head?.any isIdentifierChar = false) :
    exportedName? ("export " ++ word ++ " " ++ (name ++ rest)) = some name := by
  have htake : (name ++ rest).toList.takeWhile isIdentifierChar = name.toList := by
    rw [String.toList_append, List.takeWhile_append_of_pos hname]
    cases hchars : rest.toList with
    | nil => simp
    | cons c more =>
      rw [hchars] at hrest
      rw [List.takeWhile_cons_of_neg (by simpa using hrest), List.append_nil]
  rw [exportedName?_append hword, htake, String.ofList_toList]

theorem exportedName?_of_head? {line : String} (h : line.toList.head? ≠ some 'e') :
    exportedName? line = none := by
  rw [exportedName?]
  cases hchars : line.toList with
  | nil => rfl
  | cons c rest =>
    rw [hchars] at h
    have hc : ¬ c = 'e' := fun heq => h (congrArg some heq)
    have hfirst : (c == 'e') = false := by simpa using hc
    simp [exportWords, List.dropPrefix?, hfirst]

/-! ### Declarations -/

theorem exports_append (l m : Layout) : Layout.exports (l ++ m) = l.exports ++ m.exports :=
  List.filterMap_append ..

/-- A comment exports nothing. -/
theorem exports_comment (depth : Int) (remarks : List String) :
    (Layout.comment depth remarks).exports = [] := by
  rw [Layout.comment]
  split <;> rfl

/-- A line under a comment exports what it does alone. -/
theorem exports_comment_append (depth : Int) (remarks : List String) (l : Layout) :
    Layout.exports (Layout.comment depth remarks ++ l) = l.exports := by
  rw [exports_append, exports_comment, List.nil_append]

theorem exports_code_of_head? {t : String} (h : t.toList.head? ≠ some 'e') :
    Layout.exports [.code t] = [] :=
  List.filterMap_cons_none (exportedName?_of_head? h)

/-- What opens a declaration exports the name in it. -/
theorem exports_code_cons {t name : String} (h : exportedName? t = some name) (l : Layout) :
    Layout.exports (.code t :: l) = name :: l.exports :=
  List.filterMap_cons_some h

/-- A line of a member is empty or begins with a blank. -/
theorem head?_indentLine_member (t : String) :
    (indentLine Element.memberDepth t).toList.head? ≠ some 'e' := by
  rw [indentLine]
  split
  · next hempty =>
    rw [hempty]
    decide
  · rw [String.toList_append]
    exact (by decide : some ' ' ≠ some 'e')

theorem exports_function {camel : Bool} {c : Callable}
    (hmodifiers : c.modifiers = ["export", "function"]) (hname : IsIdentifierText c.name) :
    (c.layout camel 0).exports = [printedName camel c.name] := by
  have hline : c.declaration camel = "export " ++ "function" ++ " " ++
      (printedName camel c.name ++ ("(" ++ parameterList c.signature.parameters ++ ")" ++
        (if c.isConstructor camel then "" else ": " ++ returnType c.signature.returns) ++ ";")) := by
    rw [Callable.declaration, hmodifiers, Text.joinWith_concat " " _ (List.cons_ne_nil _ _),
      Callable.head]
    simp only [String.append_assoc]
    rfl
  rw [Callable.layout, exports_comment_append, Layout.line, indentLine_zero, hline,
    exports_code_cons (exportedName?_of_word (by decide) (isIdentifierText_printedName camel hname)
      (by simp; decide))]
  rfl

theorem exports_constant {c : Constant} (hname : IsIdentifierText c.name) :
    c.layout.exports = [c.name] := by
  have hline : c.declaration = "export " ++ "const" ++ " " ++
      (c.name ++ (" = " ++ literal c.type c.value ++ ";")) := by
    -- no rewriting with the definition: its equation takes seconds to generate
    show "export const " ++ c.name ++ " = " ++ literal c.type c.value ++ ";" = _
    simp only [String.append_assoc]
    rfl
  rw [Constant.layout, hline,
    exports_code_cons (exportedName?_of_word (by decide) hname (by simp; decide))]
  rfl

theorem exports_enumeration {e : Enumeration} (hname : IsIdentifierText e.name) :
    e.layout.exports = [sanitize e.name] := by
  have hline : e.header = "export " ++ "enum" ++ " " ++ (sanitize e.name ++ " \x7b") := by
    rw [Enumeration.header, String.append_assoc]
    rfl
  -- the lines of the members are set in
  have hmembers : Layout.exports (e.declaredMembers.map fun m =>
      .code (Enumeration.memberLine m.1 m.2)) = [] := by
    rw [Layout.exports, List.filterMap_eq_nil_iff]
    intro p hp
    obtain ⟨m, -, rfl⟩ := List.mem_map.1 hp
    refine exportedName?_of_head? ?_
    rw [Enumeration.memberLine]
    simp only [String.append_assoc]
    rw [String.toList_append]
    exact (by decide : some ' ' ≠ some 'e')
  rw [Enumeration.layout, exports_comment_append, hline, List.cons_append,
    exports_code_cons (exportedName?_of_word (by decide) (isIdentifierText_sanitize hname)
      (by decide)), exports_append]
  exact congrArg (_ :: ·) (congrArg₂ (· ++ ·) hmembers (exports_code_of_head? (by decide)))

theorem exports_shell {s : Shell} (hkind : s.kind = "class" ∨ s.kind = "interface")
    (hname : IsIdentifierText s.name) (hmembers : ∀ m ∈ s.members, Layout.exports m = []) :
    s.layout.exports = [sanitize s.name] := by
  have hline : s.header = "export " ++ s.kind ++ " " ++
      (sanitize s.name ++ ((s.extended?.elim "" (" extends " ++ ·)) ++ " \x7b")) := by
    rw [Shell.header]
    simp only [String.append_assoc]
  have hword : s.kind ∈ exportWords := by
    rcases hkind with h | h <;> rw [h] <;> decide
  have hrest : ((s.extended?.elim "" (" extends " ++ ·)) ++ " \x7b").toList.head?.any
      isIdentifierChar = false := by
    cases s.extended? with
    | none => decide
    | some base =>
      rw [Option.elim_some, String.append_assoc, String.toList_append]
      rfl
  have hnone : Layout.exports s.members.flatten = [] := by
    rw [Layout.exports, List.filterMap_flatten, List.flatten_eq_nil_iff]
    intro l hl
    obtain ⟨m, hm, rfl⟩ := List.mem_map.1 hl
    exact hmembers m hm
  rw [Shell.layout, exports_comment_append, hline,
    exports_code_cons (exportedName?_of_word hword (isIdentifierText_sanitize hname) hrest),
    exports_append, hnone, List.nil_append]
  exact congrArg (_ :: ·) (exports_code_of_head? (t := "\x7d") (by decide))

end Declaration

/-! ### Children of a namespace -/

/-- A member of a class or an interface exports nothing. -/
theorem exports_member {camel : Bool} {className : String} {e : Element} {l : Layout}
    (hl : l ∈ e.memberLayouts camel className) : l.exports = [] := by
  rcases Element.mem_memberLayouts hl with ⟨p, rfl⟩ | ⟨c, rfl⟩
  · rw [Property.layout, exports_comment_append]
    exact exports_code_of_head? (head?_indentLine_member _)
  · rw [Callable.layout, exports_comment_append]
    exact exports_code_of_head? (head?_indentLine_member _)

/-- The name under which a child of a namespace is exported, if it has the name given. -/
def exportName (camel : Bool) (child : Element) (name : String) : String :=
  if child.kind = "function" then printedName camel name
  else if child.kind = "constant" then constantName name
  else sanitize name

/-- The name under which a child of a namespace is exported, if it has a name. -/
def exportName? (camel : Bool) (child : Element) : Option String :=
  (child.attr? "name").map (exportName camel child)

/-- Whether the name of an element, if it has one, is made of identifier characters. -/
def HasIdentifierName (e : Element) : Prop :=
  ∀ name ∈ e.attr? "name", IsIdentifierText name

instance (e : Element) : Decidable (HasIdentifierName e) :=
  inferInstanceAs (Decidable (∀ name ∈ e.attr? "name", IsIdentifierText name))

section

variable {camel : Bool} {child : Element} (hname : HasIdentifierName child)

include hname

/-- A function or a constant exports its name. -/
theorem exports_looseLayout? {l : Layout} (hl : looseLayout? camel child = some l) :
    l.exports = (exportName? camel child).toList := by
  rcases looseLayout?_eq_some_iff.1 hl with ⟨hkind, name, hattr, rfl⟩ | ⟨hkind, name, hattr, rfl⟩
  · have hexports : ((⟨name, child.signature, child.docstring, ["export", "function"]⟩ :
        Callable).layout camel 0).exports = [printedName camel name] :=
      exports_function rfl (hname name hattr)
    rw [hexports, exportName?, hattr, Option.map_some, exportName, if_pos hkind]
    rfl
  · have hexports : (Constant.layout ⟨constantName name, child.attr? "value",
        child.typeSpelling⟩).exports = [constantName name] :=
      exports_constant (isIdentifierText_constantName (hname name hattr))
    rw [hexports, exportName?, hattr, Option.map_some, exportName,
      if_neg (by rw [hkind]; decide), if_pos hkind]
    rfl

/-- A class, an interface or an enumeration exports its name. -/
theorem exports_record? {r : Record Layout} (hr : record? camel child = some r) :
    r.contents.exports = (exportName? camel child).toList := by
  have hname? : ∀ name, child.attr? "name" = some name →
      isRegistered child = true → (exportName? camel child).toList = [sanitize name] := by
    intro name hattr hregistered
    have hloose := isLoose_of_isRegistered hregistered
    rw [isLoose, Bool.or_eq_false_iff, beq_eq_false_iff_ne, beq_eq_false_iff_ne] at hloose
    rw [exportName?, hattr, Option.map_some, exportName, if_neg hloose.1, if_neg hloose.2]
    rfl
  rcases record?_eq_some_iff.1 hr with ⟨hclass, name, hattr, rfl⟩ | ⟨henum, name, hattr, rfl⟩
  · rw [hname? name hattr (by rw [isRegistered, hclass]; rfl)]
    refine exports_shell (s := child.shell camel name) ?_ (hname name hattr)
      fun m hm => exports_member hm
    rw [Element.shell]
    cases child.isInterface <;> simp
  · rw [hname? name hattr (by rw [isRegistered, henum, Bool.or_true])]
    exact exports_enumeration (e := child.enumeration name) (hname name hattr)

end

/-- What is wrong with the names that are exported: a constant may keep an empty name or a
reserved word. -/
theorem isReserved_exportName_iff (camel : Bool) (child : Element) {name : String}
    (hname : IsIdentifierText name) :
    isReserved (exportName camel child name) = true ↔
      child.kind = "constant" ∧ (name = "" ∨ name ∈ reservedWords) := by
  rw [exportName]
  by_cases hfunction : child.kind = "function"
  · rw [if_pos hfunction, isReserved_printedName camel hname]
    refine iff_of_false Bool.noConfusion fun h => ?_
    rw [hfunction] at h
    exact absurd h.1 (by decide)
  · by_cases hconstant : child.kind = "constant"
    · rw [if_neg hfunction, if_pos hconstant, isReserved_constantName_iff hname]
      simp [hconstant]
    · rw [if_neg hfunction, if_neg hconstant, isReserved_sanitize hname]
      exact iff_of_false Bool.noConfusion fun h => hconstant h.1

/-! ### Modules -/

/-- The names that a module exports, in order. -/
def Module.exports (m : Module) : List String :=
  m.layouts.flatMap Layout.exports

/-- Whether all functions, constants, classes, interfaces and enumerations of a namespace
that have names have names made of identifier characters. -/
def HasIdentifierNames (e : Element) : Prop :=
  ∀ child ∈ e.children, (isLoose child || isRegistered child) = true → HasIdentifierName child

instance (e : Element) : Decidable (HasIdentifierNames e) :=
  inferInstanceAs (Decidable (∀ child ∈ e.children,
    (isLoose child || isRegistered child) = true → HasIdentifierName child))

section

variable {e child : Element}

theorem hasIdentifierName_of_mem_looseChildren (hnames : HasIdentifierNames e)
    (h : child ∈ looseChildren e) : HasIdentifierName child := by
  obtain ⟨hmem, hboth⟩ := List.mem_filter.1 h
  have hkind := (Bool.and_eq_true_iff.1 hboth).1
  exact hnames child hmem (by rw [hkind]; rfl)

theorem hasIdentifierName_of_mem_registeredChildren (hnames : HasIdentifierNames e)
    (h : child ∈ registeredChildren e) : HasIdentifierName child := by
  obtain ⟨hmem, hboth⟩ := List.mem_filter.1 h
  have hkind := (Bool.and_eq_true_iff.1 hboth).1
  exact hnames child hmem (by rw [hkind, Bool.or_true])

/-- A constant with a name is among the children that are declared. -/
theorem mem_looseChildren_of_constant {name : String} (hmem : child ∈ e.children)
    (hkind : child.kind = "constant") (hname : child.attr? "name" = some name) :
    child ∈ looseChildren e := by
  have hloose : isLoose child = true := by
    rw [isLoose, hkind]
    decide
  have hnamed : isNamed child = true := by
    rw [isNamed, hname]
    rfl
  exact List.mem_filter.2 ⟨hmem, by rw [hloose, hnamed]; rfl⟩

end

section

variable {e : Element} (hnames : HasIdentifierNames e) (settings : Settings)
  (versions : Table String String)

include hnames

/-- **A module exports one name for each child that is declared**: those of functions and
constants in document order, and then those of classes, interfaces and enumerations as
these are written. -/
theorem exports_compile {emitted : List Element} (hperm : emitted.Perm (registeredChildren e))
    (hread : emitted.map (record? settings.camel) =
      (orderedRecords settings e).emission.map some) :
    (compile settings versions e).exports =
      (looseChildren e ++ emitted).flatMap fun child => (exportName? settings.camel child).toList := by
  have hloose : (looseLayouts settings.camel e).flatMap Layout.exports =
      (looseChildren e).flatMap fun child => (exportName? settings.camel child).toList :=
    flatMap_of_map_eq (fun child hchild l hl =>
      exports_looseLayout? (hasIdentifierName_of_mem_looseChildren hnames hchild) hl)
      (map_some_looseLayouts _ e).symm
  have hrecords : ((orderedRecords settings e).emission.flatMap fun r => r.contents.exports) =
      emitted.flatMap fun child => (exportName? settings.camel child).toList := by
    refine flatMap_of_map_eq (fun child hchild r hr => ?_) hread
    have hregistered := hperm.mem_iff.1 hchild
    exact exports_record? (hasIdentifierName_of_mem_registeredChildren hnames hregistered) hr
  rw [List.flatMap_append, ← hloose, ← hrecords, Module.exports, compile, List.flatMap_append,
    Ordering.blocks, List.flatMap_map]

/-- A name is exported if a child that is declared is exported under it. -/
theorem mem_exports_compile {n : String} :
    n ∈ (compile settings versions e).exports ↔
      ∃ child ∈ looseChildren e ++ registeredChildren e, ∃ name ∈ child.attr? "name",
        exportName settings.camel child name = n := by
  obtain ⟨emitted, hperm, hread⟩ := exists_emitted_children settings e
  rw [exports_compile hnames settings versions hperm hread, List.mem_flatMap]
  simp only [exportName?, Option.mem_toList, Option.map_eq_some_iff, Option.mem_def,
    List.mem_append, hperm.mem_iff]

/-- Which names that are exported cannot be bound. -/
theorem isReserved_exportName_of_mem {child : Element}
    (hchild : child ∈ looseChildren e ++ registeredChildren e) {name : String}
    (hname : name ∈ child.attr? "name") :
    isReserved (exportName settings.camel child name) = true ↔
      child.kind = "constant" ∧ (name = "" ∨ name ∈ reservedWords) := by
  have hidentifier : HasIdentifierName child := by
    rcases List.mem_append.1 hchild with hloose | hregistered
    · exact hasIdentifierName_of_mem_looseChildren hnames hloose
    · exact hasIdentifierName_of_mem_registeredChildren hnames hregistered
  exact isReserved_exportName_iff _ child (hidentifier name hname)

end

/-! ### The text of a module -/

/-- The names that the rows of a text export, in order. -/
def exportsOfText (t : String) : List String :=
  (rows t).filterMap exportedName?

/-- What is read off the rows of blocks is read off the blocks, for the rows between them are
empty. -/
theorem filterMap_rows_blocks {α : Type} {read : String → Option α} (hempty : read "" = none)
    (blocks : List String) :
    (rows (joinWith "\n\n" blocks ++ "\n")).filterMap read =
      blocks.flatMap fun b => (rows b).filterMap read := by
  induction blocks with
  | nil =>
    show ["", ""].filterMap read = []
    rw [List.filterMap_cons_none hempty, List.filterMap_cons_none hempty]
    rfl
  | cons b rest ih =>
    rw [rows_cons_blocks, List.filterMap_append, List.filterMap_cons_none hempty,
      List.flatMap_cons]
    split
    · next hnil => rw [hnil]; rfl
    · rw [ih]

theorem exportedName?_empty : exportedName? "" = none :=
  exportedName?_of_head? (by decide)

/-- A line that is set in begins as before, or with a blank. -/
theorem head?_indentLine (depth : Int) (line : String) :
    (indentLine depth line).toList.head? = line.toList.head? ∨
      (indentLine depth line).toList.head? = some ' ' := by
  rw [indentLine]
  split
  · exact .inl rfl
  · cases depth.toNat with
    | zero => exact .inl (by rw [margin, String.empty_append])
    | succ n =>
      right
      rw [margin, String.append_assoc, String.toList_append]
      rfl

/-- No line of a comment exports anything. -/
theorem exportedName?_of_mem_comment {depth : Int} {remarks : List String} {line : String}
    (h : line ∈ indent depth (docBlock remarks)) : exportedName? line = none := by
  obtain ⟨inner, hinner, rfl⟩ := List.mem_map.1 h
  refine exportedName?_of_head? fun hhead => ?_
  rcases head?_indentLine depth inner with hsame | hblank
  · rw [hsame] at hhead
    rcases head?_of_mem_docBlock hinner with h | h <;> rw [hhead] at h <;> cases h
  · rw [hhead] at hblank
    cases hblank

/-- The lines of a layout export what the layout does. -/
theorem filterMap_lines_layout (documented : Bool) (l : Layout) :
    (l.lines documented).filterMap exportedName? = l.exports := by
  have hpart : ∀ p : Part, (p.lines documented).filterMap exportedName? =
      p.exportedName?.toList := by
    intro p
    cases p with
    | code t => cases h : exportedName? t <;> simp [Part.lines, Part.exportedName?, h]
    | comment depth remarks =>
      rw [Part.lines]
      split
      · exact List.filterMap_eq_nil_iff.2 fun line hline => exportedName?_of_mem_comment hline
      · rfl
  rw [Layout.lines, List.filterMap_flatMap, Layout.exports, List.filterMap_eq_flatMap_toList]
  simp only [hpart]

/-- The lines of a header export nothing. -/
theorem exportedName?_of_mem_header {h : Header} {line : String} (hline : line ∈ h.lines) :
    exportedName? line = none := by
  refine exportedName?_of_head? ?_
  rcases List.mem_append.1 hline with hline | hline
  · split at hline
    · cases hline
    · rw [List.mem_singleton.1 hline, String.toList_append]
      exact (by decide : some '/' ≠ some 'e')
  · obtain ⟨⟨space, version⟩, -, rfl⟩ := List.mem_map.1 hline
    show ("import " ++ space ++ " from 'gi://" ++ space ++ "?version=" ++ version ++
      "';").toList.head? ≠ some 'e'
    simp only [String.append_assoc]
    rw [String.toList_append]
    exact (by decide : some 'i' ≠ some 'e')

/-- **What a module exports is what its text exports**, if no value of an attribute and no
version holds a line feed. -/
theorem exportsOfText_compile {e : Element} (hvalues : e.HasOneLineValues) {settings : Settings}
    {versions : Table String String} (hfallback : OneLine settings.fallbackVersion)
    (hversions : ∀ v ∈ versions, OneLine v.2) :
    exportsOfText (compile settings versions e).text = (compile settings versions e).exports := by
  have hlayouts : (((compile settings versions e).layouts.map
      (Layout.text settings.documented)).flatMap fun b => (rows b).filterMap exportedName?) =
        (compile settings versions e).exports := by
    rw [List.flatMap_map, Module.exports]
    refine List.flatMap_congr fun l hl => ?_
    have hsolid := isSolid_of_mem_layouts hvalues hl
    have hne := (isProper_of_mem_layouts hl).lines_ne_nil settings.documented
    rw [Layout.text, rows_joinLines hne fun line hline => (hsolid.isLine hline).2,
      filterMap_lines_layout]
  -- the header is no block if it has no lines
  have hlines : ∀ l ∈ (moduleHeader settings versions e).lines, IsLine l :=
    fun l hl => isLine_of_mem_moduleHeader hvalues hfallback hversions hl
  have hheader : ((compile settings versions e).headerBlocks.flatMap
      fun b => (rows b).filterMap exportedName?) = [] := by
    rw [Module.headerBlocks]
    split
    · rfl
    · next hne =>
      rw [header_compile, text_header hlines] at hne ⊢
      have hsome : (moduleHeader settings versions e).lines ≠ [] := fun hnil =>
        hne (by rw [hnil]; rfl)
      rw [List.flatMap_singleton, rows_joinLines hsome fun l hl => (hlines l hl).2,
        List.filterMap_eq_nil_iff]
      exact fun line hline => exportedName?_of_mem_header hline
  have hblocks : (compile settings versions e).blocks =
      (compile settings versions e).headerBlocks ++
        (compile settings versions e).layouts.map (Layout.text settings.documented) := rfl
  rw [exportsOfText, Module.text, filterMap_rows_blocks exportedName?_empty, hblocks,
    List.flatMap_append, hheader, hlayouts, List.nil_append]

/-- **When all names that are exported can be bound**, for every namespace in which the
functions, constants, classes, interfaces and enumerations have names made of identifier
characters.  The module exports one name for each of them that has a name; these are the
names that the text exports, if nothing in it holds a line feed of its own.  The only names
that cannot be bound are those of constants with an empty name or a reserved word for a
name, so all can be exactly if there is no such constant. -/
theorem exports_legal_iff {e : Element} (hnames : HasIdentifierNames e) (settings : Settings)
    (versions : Table String String) :
    (∃ emitted : List Element, emitted.Perm (registeredChildren e) ∧
      emitted.map (record? settings.camel) = (orderedRecords settings e).emission.map some ∧
      (compile settings versions e).exports =
        (looseChildren e ++ emitted).flatMap fun child =>
          (exportName? settings.camel child).toList) ∧
    (e.HasOneLineValues → OneLine settings.fallbackVersion → (∀ v ∈ versions, OneLine v.2) →
      exportsOfText (compile settings versions e).text = (compile settings versions e).exports) ∧
    (∀ child ∈ looseChildren e ++ registeredChildren e, ∀ name ∈ child.attr? "name",
      isReserved (exportName settings.camel child name) = true ↔
        child.kind = "constant" ∧ (name = "" ∨ name ∈ reservedWords)) ∧
    ((∀ n ∈ (compile settings versions e).exports, isReserved n = false) ↔
      ∀ child ∈ e.children, child.kind = "constant" → ∀ name ∈ child.attr? "name",
        name ≠ "" ∧ name ∉ reservedWords) := by
  obtain ⟨emitted, hperm, hread⟩ := exists_emitted_children settings e
  refine ⟨⟨emitted, hperm, hread, exports_compile hnames settings versions hperm hread⟩,
    fun hvalues => exportsOfText_compile hvalues,
    fun child hchild name hname => isReserved_exportName_of_mem hnames settings hchild hname,
    fun hlegal child hmem hkind name hname => ?_, fun hconstants n hn => ?_⟩
  · -- a constant with a bad name is exported under a bad name
    have hchild : child ∈ looseChildren e ++ registeredChildren e :=
      List.mem_append_left _ (mem_looseChildren_of_constant hmem hkind hname)
    have hbound := hlegal _ ((mem_exports_compile hnames settings versions).2
      ⟨child, hchild, name, hname, rfl⟩)
    have hnot := (isReserved_exportName_of_mem hnames settings hchild hname).not.1 (by simp [hbound])
    exact not_or.1 fun hbad => hnot ⟨hkind, hbad⟩
  · obtain ⟨child, hchild, name, hname, rfl⟩ := (mem_exports_compile hnames settings versions).1 hn
    rw [Bool.eq_false_iff, Ne, isReserved_exportName_of_mem hnames settings hchild hname]
    rintro ⟨hkind, hbad⟩
    have hmem : child ∈ e.children :=
      (List.mem_append.1 hchild).elim (fun h => (List.mem_filter.1 h).1)
        fun h => (List.mem_filter.1 h).1
    obtain ⟨hne, hword⟩ := hconstants child hmem hkind name hname
    exact hbad.elim hne hword

/-- A namespace with names of all kinds that have to be mended. -/
def mendedNames : Element :=
  bareNamespace
    [.element (coreElement "constant" (some "2BIG") []),
      .element (coreElement "function" (some "delete") []),
      .element (coreElement "interface" (some "enum") []),
      .element (coreElement "enumeration" (some "3D") []),
      .element (coreElement "class" (some "") [])]

/-- All of them can be bound. -/
theorem exports_legal_of_mended :
    HasIdentifierNames mendedNames ∧
    exportsOfText (compile {} [] mendedNames).text = ["_2BIG", "_delete", "_enum", "_3D", "_"] ∧
    ∀ n ∈ (compile {} [] mendedNames).exports, isReserved n = false := by
  have hnames : HasIdentifierNames mendedNames := by decide +kernel
  obtain ⟨-, htext, -, hlegal⟩ := exports_legal_iff hnames {} []
  have hexports : (compile {} [] mendedNames).exports = ["_2BIG", "_delete", "_enum", "_3D", "_"] := by
    decide +kernel
  exact ⟨hnames, (htext (by decide +kernel) (by decide) (by decide)).trans hexports,
    hlegal.2 (by decide +kernel)⟩

/-- A namespace with a constant that is named like a reserved word. -/
def reservedConstant : Element :=
  bareNamespace
    [.element (.mk ⟨some coreNamespace, "constant"⟩
      [⟨⟨none, "name"⟩, "delete"⟩, ⟨⟨none, "value"⟩, "1"⟩]
      [.element (coreElement "type" (some "gint") [])])]

/-- **A constant keeps a reserved word for its name**, and so it cannot be bound. -/
theorem reserved_constant_exported :
    HasIdentifierNames reservedConstant ∧
    (compile {} [] reservedConstant).text =
      "// Generated by gir_to_dts 0.1.0 from Sample-1.0.gir\n\nexport const delete = 1;\n" ∧
    exportsOfText (compile {} [] reservedConstant).text = ["delete"] ∧
    isReserved "delete" = true := by
  decide +kernel

end GirTypings
