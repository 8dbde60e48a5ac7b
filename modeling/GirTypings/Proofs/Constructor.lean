import Mathlib.Data.List.Basic
import GirTypings.Proofs.LegalName
import GirTypings.Proofs.Reference
import GirTypings.Proofs.Selection

/-!
# Constructors and factories

A constructor of the document makes a static factory, and one named `new` makes the
constructor of the class too.  What a callable is, then, is decided twice: by its element
when it is read, and by its printed name when it is written, for a callable printed as
`constructor` is written without what it returns, whatever element it comes from.  The two
agree unless some method, function or other constructor happens to be printed so.

A factory says that it returns the class, by the name that the document gives it.  The
class is declared by that name only if the name is not reserved.

* `memberLayouts_of_class`: the members of a class are its properties, and then the
  callables in three groups;
* `Callable.isBareConstructor_layout`: which lines declare the constructor of a class;
* `bareConstructors_eq_new_iff`, `forall_annotated_iff`: what a method printed as a
  constructor breaks, and what a factory or a function does;
* `factory_returns_declared_iff`: when a factory returns what is declared;
* `only_new_is_class_constructor_iff`: when the constructors named `new` are the only ones.
-/

namespace GirTypings

open Declaration Gir Registry Xml

/-! ### The start of a line -/

/-- What does not hold a character and stands in front of a text stands in front of what
that character ends. -/
theorem Text.prefix_of_prefix_append_cons {c : Char} {cs ds ys : List Char} (hc : c ∉ cs)
    (h : cs <+: ds ++ c :: ys) : cs <+: ds := by
  rcases List.prefix_or_prefix_of_prefix h (List.prefix_append ds (c :: ys)) with hle | ⟨more, rfl⟩
  · exact hle
  · cases more with
    | nil => exact (List.append_nil ds).symm ▸ List.prefix_rfl
    | cons d more =>
      obtain ⟨rfl, -⟩ := List.cons_prefix_cons.1 ((List.prefix_append_right_inj ds).1 h)
      exact absurd (List.mem_append_right ds (List.mem_cons_self ..)) hc

/-! ### Signatures of members -/

namespace Declaration

/-- What a piece of code says.  A comment says nothing here. -/
def Part.code? : Part → Option String
  | .comment _ _ => none
  | .code text => some text

/-- The line that declares a member: the last one. -/
def Layout.signature? (l : Layout) : Option String :=
  l.getLast?.bind Part.code?

theorem Layout.signature?_append_line (front : Layout) (depth : Int) (t : String) :
    Layout.signature? (front ++ Layout.line depth t) = some (indentLine depth t) := by
  rw [Layout.signature?, Layout.line, List.getLast?_concat]
  rfl

/-- Whether a line of a member declares the constructor of a class: nothing stands in front
of the name, and nothing is returned. -/
def isBareConstructor (line : String) : Bool :=
  "    constructor(".toList.isPrefixOf line.toList && ");".toList.isSuffixOf line.toList

/-- Whether a member is declared as the constructor of a class. -/
def Layout.isBareConstructor (l : Layout) : Bool :=
  l.signature?.any Declaration.isBareConstructor

/-- A sanitized name that something else starts than an underscore holds no bracket. -/
theorem not_mem_sanitize {word : String} {front more : List Char} (hfront : front.head? ≠ some '_')
    (hne : front ≠ []) (h : (Naming.sanitize word).toList = front ++ more) :
    '(' ∉ (Naming.sanitize word).toList := by
  intro hmem
  rcases Naming.sanitize_starts_or_forall word with hstart | hall
  · rw [h, List.head?_append_of_ne_nil _ hne] at hstart
    exact hfront hstart
  · exact absurd (hall '(' hmem) (by decide)

/-- A callable that a line calls `constructor` is printed so. -/
theorem eq_constructorName_of_isPrefix {camel : Bool} {name : String} {rest : List Char}
    (h : "constructor(".toList <+: (printedName camel name).toList ++ '(' :: rest) :
    printedName camel name = constructorName := by
  have hshort : "constructor".toList <+: (printedName camel name).toList :=
    Text.prefix_of_prefix_append_cons (by decide) (List.IsPrefix.trans ⟨['('], rfl⟩ h)
  obtain ⟨more, hmore⟩ := hshort
  rw [← hmore, List.append_assoc, show "constructor(".toList = "constructor".toList ++ ['('] from rfl,
    List.prefix_append_right_inj] at h
  cases more with
  | nil => exact String.toList_inj.1 (hmore.symm.trans (List.append_nil _))
  | cons d more =>
    obtain ⟨rfl, -⟩ := List.cons_prefix_cons.1 h
    refine absurd ?_ (not_mem_sanitize (by decide) (by decide) hmore.symm)
    show '(' ∈ (printedName camel name).toList
    rw [← hmore]
    exact List.mem_append_right _ (List.mem_cons_self ..)

theorem indentLine_member {t : String} (h : t ≠ "") :
    indentLine Element.memberDepth t = "    " ++ t := by
  rw [indentLine, if_neg h]
  rfl

namespace Callable

variable {camel : Bool} {c : Callable}

/-- The declaration of a callable, with what it returns. -/
def annotated (camel : Bool) (c : Callable) : String :=
  Text.joinWith " " (c.modifiers ++ [printedName camel c.name ++ "(" ++
    parameterList c.signature.parameters ++ "): " ++ returnType c.signature.returns ++ ";"])

theorem annotated_static (h : c.modifiers = ["static"]) :
    c.annotated camel = "static " ++ (printedName camel c.name ++ "(" ++
      parameterList c.signature.parameters ++ "): " ++ returnType c.signature.returns ++ ";") := by
  rw [annotated, h, Text.joinWith_concat " " _ (List.cons_ne_nil "static" []),
    show "static " = "static" ++ " " from rfl, Text.joinWith_singleton]
  simp only [String.append_assoc]

/-- **What is returned is written** unless the printed name is that of a constructor. -/
theorem declaration_eq_annotated_iff :
    c.declaration camel = c.annotated camel ↔ printedName camel c.name ≠ constructorName := by
  rw [declaration, annotated, Text.joinWith_concat_inj, head, isConstructor]
  by_cases hname : printedName camel c.name = constructorName
  · -- behind the parameters stands a colon or none
    refine iff_of_false (fun h => ?_) (fun h => h hname)
    have hchars := congrArg String.toList h
    simp [hname] at hchars
  · refine iff_of_true ?_ hname
    rw [decide_eq_false hname, if_neg Bool.false_ne_true,
      show "): " = ")" ++ ": " from rfl]
    simp only [String.append_assoc]

theorem declaration_ne_empty : c.declaration camel ≠ "" := by
  have hhead : c.head camel ≠ "" := fun h =>
    absurd (String.append_eq_empty_iff.1 h).2 (by decide)
  intro h
  by_cases hnil : c.modifiers = []
  · rw [declaration, hnil] at h
    exact hhead h
  · rw [declaration, Text.joinWith_concat _ _ hnil] at h
    exact hhead (String.append_eq_empty_iff.1 (String.append_eq_empty_iff.1 h).2).2

theorem signature?_layout :
    (c.layout camel Element.memberDepth).signature? = some ("    " ++ c.declaration camel) := by
  rw [layout, Layout.signature?_append_line, indentLine_member declaration_ne_empty]

/-- The line of a callable without modifiers declares the constructor of a class if it is
printed so. -/
theorem isBareConstructor_declaration (h : c.modifiers = []) :
    isBareConstructor ("    " ++ c.declaration camel) = c.isConstructor camel := by
  have hline : ("    " ++ c.declaration camel).toList =
      "    ".toList ++ ((printedName camel c.name).toList ++ '(' ::
        ((parameterList c.signature.parameters).toList ++
          (if c.isConstructor camel then ");" else "): " ++ returnType c.signature.returns ++
            ";").toList)) := by
    rw [declaration, h, head]
    split <;> simp
  rw [isBareConstructor, hline]
  by_cases hname : printedName camel c.name = constructorName
  · have hconstructor : c.isConstructor camel = true := decide_eq_true hname
    rw [hconstructor, hname, Bool.and_eq_true, List.isPrefixOf_iff_prefix, List.isSuffixOf_iff_suffix]
    exact ⟨⟨_, rfl⟩, ⟨"    constructor(".toList ++ (parameterList c.signature.parameters).toList,
      by simp [constructorName]⟩⟩
  · rw [show c.isConstructor camel = false from decide_eq_false hname, Bool.and_eq_false_iff]
    left
    rw [Bool.eq_false_iff, Ne, List.isPrefixOf_iff_prefix]
    exact fun hstart => hname (eq_constructorName_of_isPrefix
      ((List.prefix_append_right_inj "    ".toList).1 hstart))

/-- A line with a modifier declares no constructor of a class. -/
theorem isBareConstructor_static (h : c.modifiers = ["static"]) :
    isBareConstructor ("    " ++ c.declaration camel) = false := by
  rw [declaration, h, Text.joinWith_concat _ _ (List.cons_ne_nil _ _), isBareConstructor,
    Bool.and_eq_false_iff, String.toList_append, String.toList_append]
  exact .inl rfl

/-- **Which callables of a class declare its constructor**: those without modifiers that are
printed so. -/
theorem isBareConstructor_layout (h : c.modifiers = [] ∨ c.modifiers = ["static"]) :
    (c.layout camel Element.memberDepth).isBareConstructor =
      (c.modifiers.isEmpty && c.isConstructor camel) := by
  rw [Layout.isBareConstructor, signature?_layout, Option.any_some]
  rcases h with h | h
  · rw [isBareConstructor_declaration h, h]
    rfl
  · rw [isBareConstructor_static h, h]
    rfl

end Callable

/-- A property declares no constructor: a colon follows its name. -/
theorem isBareConstructor_property (p : Property) :
    (p.layout Element.memberDepth).isBareConstructor = false := by
  have hne : p.declaration ≠ "" := fun h => absurd (String.append_eq_empty_iff.1 h).2 (by decide)
  rw [Layout.isBareConstructor, Property.layout, Layout.signature?_append_line,
    indentLine_member hne, Option.any_some, isBareConstructor, Bool.and_eq_false_iff]
  left
  rw [Bool.eq_false_iff, Ne, List.isPrefixOf_iff_prefix, String.toList_append,
    show "    constructor(".toList = "    ".toList ++ "constructor(".toList from rfl,
    List.prefix_append_right_inj]
  intro hstart
  rw [Property.declaration] at hstart
  cases hwritable : p.writable with
  | false =>
    simp [hwritable] at hstart
  | true =>
    have hfront : "constructor(".toList <+:
        p.declaredName.toList ++ ':' :: ' ' :: (p.type ++ ";").toList := by
      simpa [hwritable] using hstart
    -- the bracket would be in the name, for it does not stand behind the colon
    obtain ⟨more, hmore⟩ := Text.prefix_of_prefix_append_cons (by decide) hfront
    refine absurd ?_ (not_mem_sanitize (by decide) (by decide) hmore.symm)
    show '(' ∈ p.declaredName.toList
    rw [← hmore]
    exact List.mem_append_left _ (by decide)

end Declaration

/-! ### The callables of a class -/

/-- Writing what is kept is keeping and then writing. -/
theorem flatMap_if_singleton {α β : Type} (p : α → Bool) (f : α → β) (items : List α) :
    (items.flatMap fun a => if p a then [f a] else []) = (items.filter p).map f := by
  induction items with
  | nil => rfl
  | cons a rest ih =>
    rw [List.flatMap_cons, ih]
    cases h : p a with
    | true => rw [List.filter_cons_of_pos h]; rfl
    | false => rw [List.filter_cons_of_neg (by simp [h])]; rfl

namespace Xml.Element

variable {camel : Bool} {className : String} {e : Element} {c : Callable}

/-- The constructor of a class, as a constructor of the document makes it. -/
def classConstructor (className : String) (m : Element) : Callable :=
  ⟨constructorName, ⟨m.parameters, instanceOf className⟩, m.docstring, []⟩

/-- The static factory of a name that a constructor of the document makes. -/
def factory (className name : String) (m : Element) : Callable :=
  ⟨name, ⟨m.parameters, instanceOf className⟩, m.docstring, ["static"]⟩

/-- The callables of a class: constructors and factories, functions, methods. -/
def memberCallables (className : String) (e : Element) : List Callable :=
  (e.children.filter (·.kind == "constructor")).flatMap
      (fun m => (m.constructorCallables className).toOption.getD []) ++
    (e.children.filter (·.kind == "function")).filterMap (fun m => (m.callable ["static"]).toOption) ++
    (e.children.filter isMethod).filterMap fun m => (m.callable []).toOption

/-- **The members of a class** are its properties and its callables. -/
theorem memberLayouts_of_class (h : e.isInterface = false) :
    e.memberLayouts camel className =
      e.propertyLayouts ++ (e.memberCallables className).map (Callable.layout camel memberDepth) := by
  rw [memberLayouts, h, if_neg Bool.false_ne_true, memberCallables, List.map_append,
    List.map_append, List.map_flatMap, List.map_filterMap, List.map_filterMap]
  simp only [constructorLayouts, functionLayouts, methodLayouts, List.append_assoc]

/-- What a constructor of the document makes. -/
theorem constructorCallables_eq {m : Element} {name : String} (h : m.attr? "name" = some name) :
    m.constructorCallables className =
      .ok ((if name = "new" then [classConstructor className m] else []) ++
        [factory className name m]) := by
  have hoption := m.toOption_constructorCallables className
  rw [h, Option.map_some] at hoption
  cases hresult : m.constructorCallables className with
  | error skip =>
    rw [hresult] at hoption
    cases hoption
  | ok callables =>
    rw [hresult] at hoption
    exact congrArg Except.ok (Option.some.inj hoption)

theorem mem_constructorCallables {m : Element} :
    c ∈ (m.constructorCallables className).toOption.getD [] ↔
      (m.attr? "name" = some "new" ∧ c = classConstructor className m) ∨
        ∃ name, m.attr? "name" = some name ∧ c = factory className name m := by
  cases hname : m.attr? "name" with
  | none =>
    rw [toOption_constructorCallables, hname]
    simp
  | some name =>
    rw [constructorCallables_eq hname]
    by_cases hnew : name = "new"
    · simp [hnew, Except.toOption]
    · simp [hnew, Except.toOption]

/-- Each callable of a class comes from a child of its kind, and has its name or is the
constructor of the class. -/
theorem mem_memberCallables :
    c ∈ e.memberCallables className ↔
      (∃ m ∈ e.children, m.kind = "constructor" ∧
        ((m.attr? "name" = some "new" ∧ c = classConstructor className m) ∨
          ∃ name, m.attr? "name" = some name ∧ c = factory className name m)) ∨
      (∃ m ∈ e.children, m.kind = "function" ∧ ∃ name, m.attr? "name" = some name ∧
        c = ⟨name, m.signature, m.docstring, ["static"]⟩) ∨
      ∃ m ∈ e.children, m.isMethod = true ∧ ∃ name, m.attr? "name" = some name ∧
        c = ⟨name, m.signature, m.docstring, []⟩ := by
  rw [memberCallables, List.mem_append, List.mem_append, List.mem_flatMap, List.mem_filterMap,
    List.mem_filterMap, or_assoc]
  simp only [List.mem_filter, beq_iff_eq, toOption_callable, Option.map_eq_some_iff,
    mem_constructorCallables, and_assoc, eq_comm (b := c)]

theorem modifiers_of_mem_memberCallables (h : c ∈ e.memberCallables className) :
    c.modifiers = [] ∨ c.modifiers = ["static"] := by
  rcases mem_memberCallables.1 h with
    ⟨m, -, -, ⟨-, rfl⟩ | ⟨name, -, rfl⟩⟩ | ⟨m, -, -, name, -, rfl⟩ | ⟨m, -, -, name, -, rfl⟩
  · exact .inl rfl
  · exact .inr rfl
  · exact .inr rfl
  · exact .inl rfl

/-! ### The constructor of a class -/

/-- The constructors of the document that are named `new`. -/
def newConstructors (e : Element) : List Element :=
  e.children.filter fun m => m.kind == "constructor" && m.attr? "name" == some "new"

/-- Whether the name of an element is printed as that of a constructor. -/
def printsConstructor (camel : Bool) (m : Element) : Bool :=
  (m.attr? "name").any fun name => printedName camel name = constructorName

/-- The methods that are printed as constructors. -/
def constructorMethods (camel : Bool) (e : Element) : List Element :=
  e.children.filter fun m => m.isMethod && m.printsConstructor camel

/-- Whether a callable is written as the constructor of a class. -/
def writesConstructor (camel : Bool) (c : Callable) : Bool :=
  c.modifiers.isEmpty && c.isConstructor camel

theorem isConstructor_classConstructor (camel : Bool) (m : Element) :
    (classConstructor className m).isConstructor camel = true := by
  have hname : printedName camel constructorName = constructorName := by
    cases camel <;> decide +kernel
  exact decide_eq_true hname

/-- Of what a constructor of the document makes, the constructor of the class is written as
one, and no factory is. -/
theorem filter_constructorCallables (m : Element) :
    ((m.constructorCallables className).toOption.getD []).filter (writesConstructor camel) =
      if m.attr? "name" == some "new" then [classConstructor className m] else [] := by
  have hnew : writesConstructor camel (classConstructor className m) = true := by
    rw [writesConstructor, isConstructor_classConstructor]
    rfl
  have hfactory : ∀ name, writesConstructor camel (factory className name m) = false :=
    fun _ => rfl
  cases hname : m.attr? "name" with
  | none =>
    rw [toOption_constructorCallables, hname]
    rfl
  | some name =>
    rw [constructorCallables_eq hname]
    by_cases h : name = "new"
    · simp [h, Except.toOption, hnew, hfactory]
    · simp [h, Except.toOption, hfactory]

/-- A method is written as a constructor if it is printed so. -/
theorem filter_methodCallables :
    ((e.children.filter isMethod).filterMap fun m => (m.callable []).toOption).filter
        (writesConstructor camel) =
      (constructorMethods camel e).filterMap fun m => (m.callable []).toOption := by
  rw [List.filter_filterMap, List.filterMap_filter, constructorMethods, List.filterMap_filter]
  refine List.filterMap_congr fun m _ => ?_
  rw [toOption_callable, printsConstructor]
  cases m.isMethod with
  | false => simp
  | true =>
    cases m.attr? "name" with
    | none => rfl
    | some name => simp [Option.filter, writesConstructor, Callable.isConstructor]

/-- **Which callables are written as constructors of the class**: those that constructors
named `new` make, and the methods that are printed so. -/
theorem filter_memberCallables :
    (e.memberCallables className).filter (writesConstructor camel) =
      (newConstructors e).map (classConstructor className) ++
        (constructorMethods camel e).filterMap fun m => (m.callable []).toOption := by
  have hconstructors : ((e.children.filter (·.kind == "constructor")).flatMap
      fun m => (m.constructorCallables className).toOption.getD []).filter
        (writesConstructor camel) = (newConstructors e).map (classConstructor className) := by
    rw [List.filter_flatMap]
    simp only [filter_constructorCallables]
    rw [flatMap_if_singleton (fun m : Element => m.attr? "name" == some "new"), List.filter_filter,
      newConstructors]
    simp only [Bool.and_comm]
  have hfunctions : ((e.children.filter (·.kind == "function")).filterMap
      fun m => (m.callable ["static"]).toOption).filter (writesConstructor camel) = [] := by
    rw [List.filter_eq_nil_iff]
    intro c hc
    obtain ⟨m, -, hm⟩ := List.mem_filterMap.1 hc
    rw [toOption_callable] at hm
    obtain ⟨name, -, rfl⟩ := Option.map_eq_some_iff.1 hm
    exact Bool.false_ne_true
  rw [memberCallables, List.filter_append, List.filter_append, hconstructors, hfunctions,
    filter_methodCallables, List.append_nil]

/-- The members of a class that are declared as its constructor. -/
def bareConstructors (camel : Bool) (className : String) (e : Element) : List Layout :=
  (e.memberLayouts camel className).filter Layout.isBareConstructor

theorem bareConstructors_eq (h : e.isInterface = false) :
    bareConstructors camel className e =
      ((newConstructors e).map (classConstructor className) ++
        (constructorMethods camel e).filterMap fun m => (m.callable []).toOption).map
          (Callable.layout camel memberDepth) := by
  have hproperties : e.propertyLayouts.filter Layout.isBareConstructor = [] := by
    rw [List.filter_eq_nil_iff]
    intro l hl
    obtain ⟨p, rfl⟩ := exists_of_mem_filterMap_map hl
    rw [isBareConstructor_property]
    exact Bool.false_ne_true
  rw [bareConstructors, memberLayouts_of_class h, List.filter_append, hproperties, List.nil_append,
    List.filter_map, ← filter_memberCallables]
  refine congrArg (List.map _) (List.filter_congr fun c hc => ?_)
  exact Callable.isBareConstructor_layout (modifiers_of_mem_memberCallables hc)

/-- Whether an element describes a callable of a class. -/
def isCallable (m : Element) : Bool :=
  m.kind == "constructor" || m.kind == "function" || m.isMethod

theorem printsConstructor_eq_false_iff {m : Element} {name : String}
    (h : m.attr? "name" = some name) :
    m.printsConstructor camel = false ↔ printedName camel name ≠ constructorName := by
  rw [printsConstructor, h, Option.any_some, decide_eq_false_iff_not]

/-- A callable says what it returns unless it is printed as a constructor. -/
theorem signature?_eq_annotated_iff :
    (c.layout camel memberDepth).signature? = some ("    " ++ c.annotated camel) ↔
      printedName camel c.name ≠ constructorName := by
  rw [Callable.signature?_layout, Option.some_inj, String.append_right_inj,
    Callable.declaration_eq_annotated_iff]

/-- The constructors named `new` account for all that are declared if no method is printed as
one. -/
theorem bareConstructors_eq_new_iff (h : e.isInterface = false) :
    bareConstructors camel className e =
        (newConstructors e).map (fun m => (classConstructor className m).layout camel memberDepth) ↔
      ∀ m ∈ e.children, m.isMethod = true → m.printsConstructor camel = false := by
  rw [bareConstructors_eq h, List.map_append, List.map_map, Function.comp_def,
    List.append_right_eq_self, List.map_eq_nil_iff, List.filterMap_eq_nil_iff]
  refine ⟨fun hnone m hm hmethod => ?_, fun hall m hm => ?_⟩
  · by_contra hprints
    rw [Bool.not_eq_false] at hprints
    obtain ⟨name, hname, -⟩ := (Option.any_eq_true _ _).1 hprints
    have hread := hnone m (List.mem_filter.2 ⟨hm, by rw [hmethod, hprints]; rfl⟩)
    rw [toOption_callable, hname] at hread
    cases hread
  · obtain ⟨hmem, hboth⟩ := List.mem_filter.1 hm
    obtain ⟨hmethod, hprints⟩ := Bool.and_eq_true_iff.1 hboth
    rw [hall m hmem hmethod] at hprints
    cases hprints

/-- All callables but the constructors of the class say what they return if no factory and no
function is printed as a constructor. -/
theorem forall_annotated_iff :
    (∀ c ∈ e.memberCallables className, (c.layout camel memberDepth).isBareConstructor = false →
        (c.layout camel memberDepth).signature? = some ("    " ++ c.annotated camel)) ↔
      ∀ m ∈ e.children, m.kind = "constructor" ∨ m.kind = "function" →
        m.printsConstructor camel = false := by
  refine ⟨fun h m hm hkind => ?_, fun h c hc hnot => signature?_eq_annotated_iff.2 ?_⟩
  · by_contra hprints
    rw [Bool.not_eq_false] at hprints
    obtain ⟨name, hname, hprinted⟩ := (Option.any_eq_true _ _).1 hprints
    obtain ⟨c, hc, rfl, hstatic⟩ :
        ∃ c ∈ e.memberCallables className, c.name = name ∧ c.modifiers = ["static"] := by
      rcases hkind with hkind | hkind
      · exact ⟨_, mem_memberCallables.2 (.inl ⟨m, hm, hkind, .inr ⟨name, hname, rfl⟩⟩), rfl, rfl⟩
      · exact ⟨_, mem_memberCallables.2 (.inr (.inl ⟨m, hm, hkind, name, hname, rfl⟩)), rfl, rfl⟩
    have hnot : (c.layout camel memberDepth).isBareConstructor = false := by
      rw [Callable.isBareConstructor_layout (.inr hstatic), hstatic]
      rfl
    exact signature?_eq_annotated_iff.1 (h c hc hnot) (of_decide_eq_true hprinted)
  · rw [Callable.isBareConstructor_layout (modifiers_of_mem_memberCallables hc)] at hnot
    rcases mem_memberCallables.1 hc with
      ⟨m, hm, hkind, ⟨-, rfl⟩ | ⟨name, hname, rfl⟩⟩ | ⟨m, hm, hkind, name, hname, rfl⟩ |
        ⟨m, hm, hmethod, name, hname, rfl⟩
    · -- the constructor of the class is one
      rw [isConstructor_classConstructor] at hnot
      cases hnot
    · exact (printsConstructor_eq_false_iff hname).1 (h m hm (.inl hkind))
    · exact (printsConstructor_eq_false_iff hname).1 (h m hm (.inr hkind))
    · -- nothing stands in front of a method, so it would be one
      exact of_decide_eq_false hnot

/-! ### Records of classes -/

/-- What a factory says that it returns is what is declared, unless the name of the class is
reserved. -/
theorem returnType_instanceOf_eq_sanitize_iff {name : String} :
    returnType (instanceOf name) = Naming.sanitize name ↔ Naming.isReserved name = false := by
  by_cases hnull : name = "null"
  · -- nothing is declared as `void`
    subst hnull
    decide +kernel
  · have hreturned : returnType (instanceOf name) = name :=
      if_neg fun hvoid => hnull (of_decide_eq_true hvoid)
    rw [hreturned, eq_comm, Naming.sanitize_eq_self_iff]

theorem isInterface_of_class (h : e.kind = "class") : e.isInterface = false := by
  rw [isInterface, h]
  decide

/-- The record of a class: a comment, the line that opens the declaration, the members and a
bracket. -/
theorem classRecord_of_class (camel : Bool) {name : String} (hkind : e.kind = "class")
    (hname : e.attr? "name" = some name) :
    ∃ extension, (extension = "" ∨ ∃ base, extension = " extends " ++ base) ∧
      e.classRecord camel = .ok ⟨name, e.parentNames,
        Layout.comment 0 (e.shell camel name).remarks ++
          .code ("export class " ++ Naming.sanitize name ++ extension ++ " \x7b") ::
            ((e.memberLayouts camel name).flatten ++ [.code "\x7d"])⟩ := by
  have hword : (e.shell camel name).kind = "class" := by
    rw [shell, isInterface_of_class hkind]
    rfl
  refine ⟨(e.shell camel name).extended?.elim "" (" extends " ++ ·), ?_, ?_⟩
  · cases (e.shell camel name).extended? with
    | none => exact .inl rfl
    | some base => exact .inr ⟨base, rfl⟩
  · rw [classRecord_of_name hname, Shell.layout, Shell.header, hword]
    rfl

end Xml.Element

open Xml.Element

/-- **When factories return what is declared.**  A class is declared by its sanitized name,
and each named constructor of the document makes one static factory among the members of
the class.  Unless the factory is itself printed as a constructor, its line says what it
returns, and this is the name in the declaration exactly if the name of the class is not
reserved. -/
theorem factory_returns_declared_iff (camel : Bool) {e : Element} {name : String}
    (hkind : e.kind = "class") (hname : e.attr? "name" = some name) :
    ∃ extension, (extension = "" ∨ ∃ base, extension = " extends " ++ base) ∧
      e.classRecord camel = .ok ⟨name, e.parentNames,
        Layout.comment 0 (e.shell camel name).remarks ++
          .code ("export class " ++ Naming.sanitize name ++ extension ++ " \x7b") ::
            ((e.memberLayouts camel name).flatten ++ [.code "\x7d"])⟩ ∧
      ∀ m ∈ e.children, m.kind = "constructor" → ∀ n, m.attr? "name" = some n →
        printedName camel n ≠ constructorName →
        ∃ front factory returned, m.constructorCallables name = .ok (front ++ [factory]) ∧
          (∀ c ∈ front, c.modifiers = []) ∧
          factory.layout camel memberDepth ∈ e.memberLayouts camel name ∧
          (factory.layout camel memberDepth).signature? =
            some ("    static " ++ printedName camel n ++ "(" ++ parameterList m.parameters ++
              "): " ++ returned ++ ";") ∧
          (returned = Naming.sanitize name ↔ Naming.isReserved name = false) := by
  obtain ⟨extension, hextension, hrecord⟩ := classRecord_of_class camel hkind hname
  refine ⟨extension, hextension, hrecord, fun m hm hconstructor n hn hprinted => ?_⟩
  refine ⟨_, factory name n m, returnType (instanceOf name), constructorCallables_eq hn, ?_, ?_, ?_,
    ?_⟩
  · intro c hc
    split at hc
    · rw [List.mem_singleton.1 hc]
      rfl
    · cases hc
  · rw [memberLayouts_of_class (isInterface_of_class hkind)]
    refine List.mem_append_right _ (List.mem_map_of_mem ?_)
    exact mem_memberCallables.2 (.inl ⟨m, hm, hconstructor, .inr ⟨n, hn, rfl⟩⟩)
  · rw [(signature?_eq_annotated_iff (c := factory name n m)).2 hprinted, Callable.annotated_static rfl,
      show "    static " = "    " ++ "static " from rfl]
    simp only [String.append_assoc]
    rfl
  · exact returnType_instanceOf_eq_sanitize_iff

/-- A class with named children of some kinds. -/
def classOf (name : String) (members : List (String × String)) : Element :=
  coreElement "class" (some name) (members.map fun (kind, n) => coreElement kind (some n) [])

/-- A factory with a reserved name of its own, of a class with a name that is not. -/
theorem factory_returns_declared_of_label :
    (classOf "Label" [("constructor", "new")]).kind = "class" ∧
    (classOf "Label" [("constructor", "new")]).attr? "name" = some "Label" ∧
    printedName true "new" ≠ constructorName ∧
    ∃ factory ∈ (classOf "Label" [("constructor", "new")]).memberLayouts true "Label",
      factory.signature? = some "    static _new(): Label;" := by
  have hname : (classOf "Label" [("constructor", "new")]).attr? "name" = some "Label" := rfl
  have hprinted : printedName true "new" ≠ constructorName := by decide +kernel
  obtain ⟨-, -, -, hfactories⟩ := factory_returns_declared_iff true rfl hname
  obtain ⟨-, factory, returned, -, -, hmem, hline, hreturned⟩ :=
    hfactories _ (List.mem_cons_self ..) rfl "new" rfl hprinted
  refine ⟨rfl, hname, hprinted, _, hmem, hline.trans ?_⟩
  rw [hreturned.2 (by decide +kernel)]
  decide +kernel

/-- **A factory returns what is declared nowhere** if the name of its class is reserved. -/
theorem factory_of_reserved_class :
    printedName false "new" ≠ constructorName ∧
    ((classOf "delete" [("constructor", "new")]).classRecord false).toOption.map
        (fun r => r.contents.text false) =
      some "export class _delete \x7b\n    constructor();\n    static _new(): delete;\n\x7d" := by
  decide +kernel

/-- **When the constructors named `new` are the only ones.**  The members of a class are its
properties and its callables.  Those that are declared as the constructor of the class are
what the constructors named `new` make, in document order, and behind them the methods that
are printed as constructors; a callable says what it returns unless it is printed so.
Hence the constructors named `new` account for all of them, and every other callable says
what it returns, exactly if no callable has a name that is printed as that of a
constructor. -/
theorem only_new_is_class_constructor_iff (camel : Bool) {e : Element} {name : String}
    (hkind : e.kind = "class") (hname : e.attr? "name" = some name) :
    (∃ extension, (extension = "" ∨ ∃ base, extension = " extends " ++ base) ∧
      e.classRecord camel = .ok ⟨name, e.parentNames,
        Layout.comment 0 (e.shell camel name).remarks ++
          .code ("export class " ++ Naming.sanitize name ++ extension ++ " \x7b") ::
            ((e.memberLayouts camel name).flatten ++ [.code "\x7d"])⟩) ∧
    e.memberLayouts camel name =
      e.propertyLayouts ++ (e.memberCallables name).map (Callable.layout camel memberDepth) ∧
    bareConstructors camel name e =
      ((newConstructors e).map (classConstructor name) ++
        (constructorMethods camel e).filterMap fun m => (m.callable []).toOption).map
          (Callable.layout camel memberDepth) ∧
    (∀ c ∈ e.memberCallables name,
      (c.layout camel memberDepth).signature? = some ("    " ++ c.annotated camel) ↔
        printedName camel c.name ≠ constructorName) ∧
    ((bareConstructors camel name e = (newConstructors e).map
          (fun m => (classConstructor name m).layout camel memberDepth) ∧
        ∀ c ∈ e.memberCallables name, (c.layout camel memberDepth).isBareConstructor = false →
          (c.layout camel memberDepth).signature? = some ("    " ++ c.annotated camel)) ↔
      ∀ m ∈ e.children, m.isCallable = true → m.printsConstructor camel = false) := by
  have hinterface := isInterface_of_class hkind
  refine ⟨classRecord_of_class camel hkind hname, memberLayouts_of_class hinterface,
    bareConstructors_eq hinterface, fun _ _ => signature?_eq_annotated_iff, ?_⟩
  rw [bareConstructors_eq_new_iff hinterface, forall_annotated_iff]
  refine ⟨fun ⟨hmethods, hstatic⟩ m hm hcallable => ?_, fun h => ⟨fun m hm hmethod => ?_,
    fun m hm hkind => ?_⟩⟩
  · rw [isCallable, Bool.or_eq_true, Bool.or_eq_true, beq_iff_eq, beq_iff_eq] at hcallable
    exact hcallable.elim (hstatic m hm) (hmethods m hm)
  · exact h m hm (by rw [isCallable, hmethod, Bool.or_true])
  · exact h m hm (by rcases hkind with hkind | hkind <;> rw [isCallable, hkind] <;> rfl)

/-- A class with two constructors, a method, a function and a property. -/
def plainClass : Element :=
  classOf "Image" [("constructor", "new"), ("method", "get_size"), ("constructor", "new_empty"),
    ("function", "construct"), ("property", "constructor")]

/-- Of these one is the constructor of the class, and the others say what they return. -/
theorem only_new_is_class_constructor_of_plain :
    plainClass.kind = "class" ∧ plainClass.attr? "name" = some "Image" ∧
    (bareConstructors true "Image" plainClass).map Layout.signature? = [some "    constructor();"] ∧
    ∀ c ∈ plainClass.memberCallables "Image",
      (c.layout true memberDepth).isBareConstructor = false →
        (c.layout true memberDepth).signature? = some ("    " ++ c.annotated true) := by
  have hname : plainClass.attr? "name" = some "Image" := rfl
  obtain ⟨-, -, -, -, hiff⟩ := only_new_is_class_constructor_iff true rfl hname
  obtain ⟨honly, hannotated⟩ := hiff.2 (by decide +kernel)
  refine ⟨rfl, hname, ?_, hannotated⟩
  rw [honly]
  decide +kernel

/-- **A method becomes the constructor of its class** if it is named like one, and a function
of that name does not say what it returns. -/
theorem method_becomes_class_constructor :
    newConstructors (classOf "Image" [("function", "constructor"), ("method", "constructor")]) = [] ∧
    ((classOf "Image" [("function", "constructor"), ("method", "constructor")]).classRecord
        false).toOption.map (fun r => r.contents.text false) =
      some "export class Image \x7b\n    static constructor();\n    constructor();\n\x7d" := by
  refine ⟨rfl, ?_⟩
  decide +kernel

end GirTypings
