import GirTypings.Module
import GirTypings.Proofs.Precedence

/-!
# What a child declares

Each kind of child has its own reader, and each reader asks for the name first and then
describes what it makes of it.  Here the readers are turned into plain maps of the name,
so that a layout or a record of a module can be traced to the child it comes from:

* `filterMap_eq_map_named`: elements with a name make one thing each;
* `looseLayout?_eq_some_iff`: a function, or a constant;
* `record?_eq_some_iff`: a class or interface, or an enumeration;
* `mem_memberLayouts`: inside a class, a property or a callable at the depth of members;
* `blocks_compile`: the blocks of a module, group by group.
-/

namespace GirTypings

open Declaration Gir Registry Xml

variable {camel : Bool} {e : Element}

/-! ### Readers that ask for the name -/

namespace Xml.Element

theorem toOption_require (e : Element) (short : String) :
    (e.require short).toOption = e.attr? short := by
  rw [require]
  split <;> simp [*, Except.toOption]

/-- What is made of a result is there if the result is. -/
theorem toOption_bind_pure {ε α β : Type} (x : Except ε α) (f : α → β) :
    (x >>= fun a => pure (f a)).toOption = x.toOption.map f := by
  cases x <;> rfl

/-- What is made of a required attribute is there if the attribute is. -/
theorem toOption_require_bind {α : Type} (e : Element) (short : String) (f : String → α) :
    (e.require short >>= fun value => pure (f value)).toOption = (e.attr? short).map f := by
  rw [toOption_bind_pure, toOption_require]

/-- The elements of a list that have a name, each with its name. -/
def named (items : List Element) : List (String × Element) :=
  items.filterMap fun m => (m.attr? "name").map fun name => (name, m)

/-- A reader that answers for the elements with a name makes one thing of each, in order. -/
theorem filterMap_eq_map_named {α : Type} {read : Element → Option α} {make : String → Element → α}
    (h : ∀ m, read m = (m.attr? "name").map fun name => make name m) (items : List Element) :
    items.filterMap read = (named items).map fun (name, m) => make name m := by
  rw [named, List.map_filterMap, funext h]
  refine congrArg (List.filterMap · items) (funext fun m => ?_)
  rw [Option.map_map]
  rfl

theorem named_append (front back : List Element) : named (front ++ back) = named front ++ named back :=
  List.filterMap_append ..

theorem named_cons_of_some {m : Element} {name : String} (h : m.attr? "name" = some name)
    (rest : List Element) : named (m :: rest) = (name, m) :: named rest :=
  List.filterMap_cons_some (by rw [h]; rfl)

theorem named_cons_of_none {m : Element} (h : m.attr? "name" = none) (rest : List Element) :
    named (m :: rest) = named rest :=
  List.filterMap_cons_none (by rw [h]; rfl)

/-- What elements with a name make one by one is made of those with their names. -/
theorem flatMap_named {β : Type} (make : String → Element → List β) (items : List Element) :
    (items.flatMap fun m => (m.attr? "name").elim [] fun name => make name m) =
      (named items).flatMap fun (name, m) => make name m := by
  induction items with
  | nil => rfl
  | cons m rest ih =>
    rw [List.flatMap_cons, ih]
    cases hname : m.attr? "name" with
    | none =>
      rw [named_cons_of_none hname]
      rfl
    | some name =>
      rw [named_cons_of_some hname]
      rfl

theorem mem_named {items : List Element} {name : String} {m : Element} :
    (name, m) ∈ named items ↔ m ∈ items ∧ m.attr? "name" = some name := by
  rw [named, List.mem_filterMap]
  constructor
  · rintro ⟨p, hp, hread⟩
    obtain ⟨n, hn, heq⟩ := Option.map_eq_some_iff.1 hread
    cases heq
    exact ⟨hp, hn⟩
  · rintro ⟨hm, hname⟩
    exact ⟨m, hm, by rw [hname]; rfl⟩

/-- The parameter that an element with a name describes. -/
theorem toOption_parameter (e : Element) :
    e.parameter.toOption =
      (e.attr? "name").map fun name =>
        if name = "..." then ⟨"...other", ValueType.any.array.spelling, e.inlineDoc?⟩
        else ⟨Naming.sanitize name, e.typeSpelling, e.inlineDoc?⟩ := by
  rw [← e.toOption_require_bind, parameter]
  refine congrArg (fun make => (e.require "name" >>= make).toOption) (funext fun name => ?_)
  split <;> rfl

theorem toOption_callable (e : Element) (modifiers : List String) :
    (e.callable modifiers).toOption =
      (e.attr? "name").map fun name => ⟨name, e.signature, e.docstring, modifiers⟩ :=
  e.toOption_require_bind "name" _

theorem toOption_property (e : Element) :
    e.property.toOption =
      (e.attr? "name").map fun name => ⟨name, e.typeSpelling, some (collapseBlanks e.docstring),
        e.attr? "writable" = some "1"⟩ :=
  e.toOption_require_bind "name" _

/-- The callables that a constructor of a name makes. -/
theorem toOption_constructorCallables (e : Element) (className : String) :
    (e.constructorCallables className).toOption =
      (e.attr? "name").map fun name =>
        (if name = "new" then
          [⟨constructorName, ⟨e.parameters, instanceOf className⟩, e.docstring, []⟩] else []) ++
        [⟨name, ⟨e.parameters, instanceOf className⟩, e.docstring, ["static"]⟩] := by
  refine (e.toOption_require_bind "name" _).trans ?_
  refine congrArg (Option.map · _) (funext fun name => ?_)
  split <;> rfl

/-- A member of an enumeration is read if it has a name and a value. -/
theorem toOption_enumerationMember (m : Element) :
    m.enumerationMember.toOption =
      (m.attr? "name").bind fun name => (m.attr? "value").map fun value => (name, value) := by
  rw [enumerationMember, require, require]
  cases m.attr? "name" with
  | none => rfl
  | some name => cases m.attr? "value" <;> rfl

theorem toOption_classRecord (camel : Bool) (e : Element) :
    (e.classRecord camel).toOption =
      (e.attr? "name").map fun name => ⟨name, e.parentNames, (e.shell camel name).layout⟩ :=
  e.toOption_require_bind "name" _

theorem classRecord_of_name {name : String} (h : e.attr? "name" = some name) :
    e.classRecord camel = .ok ⟨name, e.parentNames, (e.shell camel name).layout⟩ := by
  rw [classRecord, require, h]
  rfl

theorem toOption_enumerationRecord (e : Element) :
    e.enumerationRecord.toOption =
      (e.attr? "name").map fun name => ⟨name, [], (e.enumeration name).layout⟩ :=
  e.toOption_require_bind "name" _

theorem enumerationRecord_of_name {name : String} (h : e.attr? "name" = some name) :
    e.enumerationRecord = .ok ⟨name, [], (e.enumeration name).layout⟩ := by
  rw [enumerationRecord, require, h]
  rfl

/-! ### Members -/

/-- What is laid out child by child, from those that can be read. -/
theorem exists_of_mem_filterMap_map {α : Type} {children : List Element}
    {read : Element → Option α} {layout : α → Layout} {l : Layout}
    (h : l ∈ children.filterMap fun m => (read m).map layout) : ∃ a, l = layout a := by
  obtain ⟨m, -, hm⟩ := List.mem_filterMap.1 h
  obtain ⟨a, -, rfl⟩ := Option.map_eq_some_iff.1 hm
  exact ⟨a, rfl⟩

theorem mem_constructorLayouts {className : String} {l : Layout}
    (h : l ∈ e.constructorLayouts camel className) :
    ∃ c : Callable, l = c.layout camel memberDepth := by
  obtain ⟨m, -, hm⟩ := List.mem_flatMap.1 h
  obtain ⟨c, -, rfl⟩ := List.mem_map.1 hm
  exact ⟨c, rfl⟩

/-- A member of a class or interface is a property or a callable. -/
theorem mem_memberLayouts {className : String} {l : Layout}
    (h : l ∈ e.memberLayouts camel className) :
    (∃ p : Property, l = p.layout memberDepth) ∨
      ∃ c : Callable, l = c.layout camel memberDepth := by
  rw [memberLayouts, List.mem_append, List.mem_append] at h
  rcases h with (h | h) | h
  · exact .inl (exists_of_mem_filterMap_map h)
  · -- an interface has no constructors and no functions
    split at h
    · cases h
    · rcases List.mem_append.1 h with h | h
      · exact .inr (mem_constructorLayouts h)
      · exact .inr (exists_of_mem_filterMap_map h)
  · exact .inr (exists_of_mem_filterMap_map h)

end Xml.Element

/-! ### Children of a namespace -/

theorem toOption_functionLayout (camel : Bool) (e : Element) :
    (functionLayout camel e).toOption =
      (e.attr? "name").map fun name =>
        Callable.layout camel 0 ⟨name, e.signature, e.docstring, ["export", "function"]⟩ := by
  rw [functionLayout, Element.toOption_bind_pure, Element.toOption_callable, Option.map_map]
  rfl

theorem toOption_constantLayout (e : Element) :
    (constantLayout e).toOption =
      (e.attr? "name").map fun name =>
        Constant.layout ⟨constantName name, e.attr? "value", e.typeSpelling⟩ :=
  e.toOption_require_bind "name" _

/-- A layout in front of the classes is that of a function or of a constant. -/
theorem looseLayout?_eq_some_iff {l : Layout} :
    looseLayout? camel e = some l ↔
      (e.kind = "function" ∧ ∃ name, e.attr? "name" = some name ∧
        Callable.layout camel 0 ⟨name, e.signature, e.docstring, ["export", "function"]⟩ = l) ∨
      (e.kind = "constant" ∧ ∃ name, e.attr? "name" = some name ∧
        Constant.layout ⟨constantName name, e.attr? "value", e.typeSpelling⟩ = l) := by
  rw [looseLayout?, toOption_functionLayout, toOption_constantLayout]
  by_cases hfunction : e.kind = "function"
  · simp [hfunction]
  · by_cases hconstant : e.kind = "constant"
    · simp [hconstant]
    · simp [hfunction, hconstant]

/-- A child that describes a class or an interface describes no enumeration. -/
theorem isEnumerationLike_of_isClassLike (h : isClassLike e = true) :
    isEnumerationLike e = false := by
  rw [isClassLike, Bool.or_eq_true, beq_iff_eq, beq_iff_eq] at h
  rcases h with h | h <;> rw [isEnumerationLike, h] <;> decide

/-- A record is that of a class or interface, or of an enumeration. -/
theorem record?_eq_some_iff {r : Record Layout} :
    record? camel e = some r ↔
      (isClassLike e = true ∧ ∃ name, e.attr? "name" = some name ∧
        ⟨name, e.parentNames, (e.shell camel name).layout⟩ = r) ∨
      (isEnumerationLike e = true ∧ ∃ name, e.attr? "name" = some name ∧
        ⟨name, [], (e.enumeration name).layout⟩ = r) := by
  rw [record?, Element.toOption_classRecord, Element.toOption_enumerationRecord]
  cases hclass : isClassLike e with
  | true => simp [isEnumerationLike_of_isClassLike hclass]
  | false =>
    cases henum : isEnumerationLike e with
    | true => simp
    | false => simp

/-- A record that is written comes from a child of the namespace. -/
theorem exists_child_of_mem_emission {settings : Settings} {r : Record Layout}
    (hr : r ∈ (orderedRecords settings e).emission) :
    ∃ child ∈ e.children, record? settings.camel child = some r := by
  have hmem : r ∈ records settings.camel e := (arranges_order _).perm.mem_iff.1 hr
  exact List.mem_filterMap.1 hmem

/-! ### Blocks of a module -/

/-- The block that a record leaves in a module. -/
def recordBlock (settings : Settings) (r : Record Layout) : String :=
  r.contents.text settings.documented

/-- The block that a class, an interface or an enumeration leaves in a module. -/
def declarationBlock? (settings : Settings) (child : Element) : Option String :=
  (record? settings.camel child).map (recordBlock settings)

/-- The blocks of a module: the header, functions and constants, and the records as they
are ordered. -/
theorem blocks_compile (settings : Settings) (versions : Table String String) (e : Element) :
    (compile settings versions e).blocks =
      (if (compile settings versions e).header = "" then []
        else [(compile settings versions e).header]) ++
      (looseLayouts settings.camel e).map (Layout.text settings.documented) ++
      (orderedRecords settings e).emission.map (recordBlock settings) := by
  have hlayouts : (compile settings versions e).layouts.map (Layout.text settings.documented) =
      (looseLayouts settings.camel e).map (Layout.text settings.documented) ++
        (orderedRecords settings e).emission.map (recordBlock settings) := by
    rw [compile, List.map_append, Ordering.blocks, List.map_map]
    rfl
  rw [Module.blocks, List.append_assoc, ← hlayouts]
  rfl

end GirTypings
