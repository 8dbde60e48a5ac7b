import GirTypings.Proofs.Constructor

/-!
# Groups of members

A class or interface is read in one pass over its children.  Each child that has a name adds
what it makes to one of four groups, or to none: the properties, the constructors with
their factories, the functions, and the methods.  The groups are put together only at the
end, so it does not matter how they are mixed in the document, and a child that is skipped
leaves all of them as they are.  Interfaces have no constructors and no functions.  The
parents are found in another way, by the namespace of a child and not by its short name.

* `groupOf?_eq_some_iff`: which group a child belongs to;
* `foldl_collect`: a pass collects, for each group, what its named children make;
* `memberLayouts_eq`: the members of a class or interface are these groups in order;
* `AgreeOnGroups.classRecord_eq`: elements with equal groups have equal records;
* `class_depends_on_groups`: all of this for an element.
-/

namespace GirTypings

open Declaration Gir Registry Xml Xml.Element

/-! ### Groups -/

/-- The groups that members stand in. -/
inductive MemberGroup where
  | properties
  | constructors
  | functions
  | methods
deriving DecidableEq, Repr

/-- The group that a child belongs to, if to any.  The children of an interface are asked
whether they are constructors or functions only to be skipped. -/
def groupOf? (isInterface : Bool) (m : Element) : Option MemberGroup :=
  if m.kind = "property" then some .properties
  else if m.isMethod then some .methods
  else if isInterface then none
  else if m.kind = "constructor" then some .constructors
  else if m.kind = "function" then some .functions
  else none

namespace MemberGroup

/-- All groups, in the order in which they are written. -/
def inOrder : List MemberGroup :=
  [properties, constructors, functions, methods]

/-- Whether the children of a kind belong to a group. -/
def selects (isInterface : Bool) : MemberGroup → Element → Bool
  | properties, m => m.kind == "property"
  | constructors, m => !isInterface && m.kind == "constructor"
  | functions, m => !isInterface && m.kind == "function"
  | methods, m => m.isMethod

/-- What an element of a name makes as a member of a group.  A constructor named `new` makes
the constructor of the class, and then a factory like every other. -/
def layouts (camel : Bool) (className : String) : MemberGroup → String → Element → List Layout
  | properties, name, m =>
    [Property.layout memberDepth ⟨name, m.typeSpelling, some (collapseBlanks m.docstring),
      m.attr? "writable" = some "1"⟩]
  | constructors, name, m =>
    ((if name = "new" then [classConstructor className m] else []) ++
      [factory className name m]).map (Callable.layout camel memberDepth)
  | functions, name, m =>
    [Callable.layout camel memberDepth ⟨name, m.signature, m.docstring, ["static"]⟩]
  | methods, name, m =>
    [Callable.layout camel memberDepth ⟨name, m.signature, m.docstring, []⟩]

end MemberGroup

/-- A child belongs to the group that its kind selects it for. -/
theorem groupOf?_eq_some_iff {isInterface : Bool} {m : Element} {g : MemberGroup} :
    groupOf? isInterface m = some g ↔ g.selects isInterface m = true := by
  by_cases hproperty : m.kind = "property"
  · cases g <;> simp [groupOf?, MemberGroup.selects, isMethod, hproperty]
  by_cases hmethod : m.isMethod = true
  · have hkind : m.kind = "method" ∨ m.kind = "virtual-method" := by simpa [isMethod] using hmethod
    rcases hkind with hkind | hkind <;>
      cases g <;> simp [groupOf?, MemberGroup.selects, isMethod, hkind]
  cases isInterface with
  | true => cases g <;> simp [groupOf?, MemberGroup.selects, hproperty, hmethod]
  | false =>
    by_cases hconstructor : m.kind = "constructor"
    · cases g <;> simp [groupOf?, MemberGroup.selects, isMethod, hconstructor]
    by_cases hfunction : m.kind = "function"
    · cases g <;> simp [groupOf?, MemberGroup.selects, isMethod, hfunction]
    · cases g <;>
        simp [groupOf?, MemberGroup.selects, hproperty, hmethod, hconstructor, hfunction]

/-! ### One pass -/

section

variable (camel isInterface : Bool) (className : String)

/-- Reads one child: what it makes, if it has a name, goes to the end of its group. -/
def collect (groups : MemberGroup → List Layout) (m : Element) : MemberGroup → List Layout :=
  fun g =>
    if groupOf? isInterface m = some g then
      groups g ++ (m.attr? "name").elim [] fun name => g.layouts camel className name m
    else groups g

/-- What the named members of a group make, in document order. -/
def layoutsIn (g : MemberGroup) (children : List Element) : List Layout :=
  (named (children.filter (g.selects isInterface))).flatMap fun (name, m) =>
    g.layouts camel className name m

/-- Interfaces have no constructors and no functions. -/
theorem layoutsIn_interface {g : MemberGroup} (hg : g = .constructors ∨ g = .functions)
    (children : List Element) : layoutsIn camel true className g children = [] := by
  have hnone : children.filter (g.selects true) = [] := by
    rw [List.filter_eq_nil_iff]
    intro m _
    rcases hg with rfl | rfl <;> exact Bool.false_ne_true
  rw [layoutsIn, hnone]
  rfl

/-- One child adds to its own group, and to no other. -/
theorem collect_apply (groups : MemberGroup → List Layout) (m : Element) (g : MemberGroup) :
    collect camel isInterface className groups m g =
      groups g ++ layoutsIn camel isInterface className g [m] := by
  rw [collect, layoutsIn]
  by_cases hselects : g.selects isInterface m = true
  · rw [if_pos (groupOf?_eq_some_iff.2 hselects), List.filter_cons_of_pos hselects, List.filter_nil]
    cases hname : m.attr? "name" with
    | none =>
      rw [named_cons_of_none hname]
      rfl
    | some name =>
      rw [named_cons_of_some hname, List.flatMap_cons, Option.elim_some]
      exact congrArg _ (List.append_nil _).symm
  · rw [if_neg fun h => hselects (groupOf?_eq_some_iff.1 h), List.filter_cons_of_neg hselects]
    exact (List.append_nil _).symm

/-- **What one pass collects**: for each group what its named members make, in document order,
whatever stands between them. -/
theorem foldl_collect (children : List Element) (groups : MemberGroup → List Layout)
    (g : MemberGroup) :
    children.foldl (collect camel isInterface className) groups g =
      groups g ++ layoutsIn camel isInterface className g children := by
  induction children generalizing groups with
  | nil => exact (List.append_nil _).symm
  | cons m rest ih =>
    have hcons : layoutsIn camel isInterface className g (m :: rest) =
        layoutsIn camel isInterface className g [m] ++ layoutsIn camel isInterface className g rest := by
      rw [layoutsIn, ← List.singleton_append, List.filter_append, named_append, List.flatMap_append]
      rfl
    rw [List.foldl_cons, ih, collect_apply, hcons, List.append_assoc]

end

/-! ### The members of a class or interface -/

section

variable (camel : Bool) (className : String) (e : Element)

theorem propertyLayouts_eq (isInterface : Bool) :
    e.propertyLayouts = layoutsIn camel isInterface className .properties e.children := by
  have hread : ∀ m : Element, m.property.toOption.map (Property.layout memberDepth) =
      (m.attr? "name").map fun name => Property.layout memberDepth
        ⟨name, m.typeSpelling, some (collapseBlanks m.docstring), m.attr? "writable" = some "1"⟩ := by
    intro m
    rw [toOption_property, Option.map_map]
    rfl
  rw [propertyLayouts, filterMap_eq_map_named hread, List.map_eq_flatMap]
  rfl

theorem callableLayouts_eq (modifiers : List String) (items : List Element) :
    (items.filterMap fun m => (m.callable modifiers).toOption.map (Callable.layout camel memberDepth)) =
      (named items).flatMap fun (name, m) =>
        [Callable.layout camel memberDepth ⟨name, m.signature, m.docstring, modifiers⟩] := by
  have hread : ∀ m : Element,
      (m.callable modifiers).toOption.map (Callable.layout camel memberDepth) =
        (m.attr? "name").map fun name =>
          Callable.layout camel memberDepth ⟨name, m.signature, m.docstring, modifiers⟩ := by
    intro m
    rw [toOption_callable, Option.map_map]
    rfl
  rw [filterMap_eq_map_named hread, List.map_eq_flatMap]

theorem constructorLayouts_eq :
    e.constructorLayouts camel className =
      layoutsIn camel false className .constructors e.children := by
  have hread : ∀ m : Element,
      ((m.constructorCallables className).toOption.getD []).map (Callable.layout camel memberDepth) =
        (m.attr? "name").elim [] fun name =>
          MemberGroup.constructors.layouts camel className name m := by
    intro m
    rw [toOption_constructorCallables]
    cases m.attr? "name" <;> rfl
  rw [constructorLayouts, funext hread, flatMap_named]
  rfl

/-- **The members of a class or interface** are what its named children make, group by
group. -/
theorem memberLayouts_eq :
    e.memberLayouts camel className =
      MemberGroup.inOrder.flatMap fun g => layoutsIn camel e.isInterface className g e.children := by
  have hmethods : e.methodLayouts camel =
      layoutsIn camel e.isInterface className .methods e.children :=
    callableLayouts_eq camel [] (e.children.filter isMethod)
  rw [memberLayouts, propertyLayouts_eq camel className e e.isInterface, hmethods]
  cases e.isInterface with
  | true =>
    have hconstructors := layoutsIn_interface camel className (.inl rfl) e.children
    have hfunctions := layoutsIn_interface camel className (.inr rfl) e.children
    simp [MemberGroup.inOrder, hconstructors, hfunctions]
  | false =>
    have hfunctions : e.functionLayouts camel =
        layoutsIn camel false className .functions e.children :=
      callableLayouts_eq camel ["static"] (e.children.filter (·.kind == "function"))
    rw [constructorLayouts_eq, hfunctions]
    simp [MemberGroup.inOrder]

end

/-! ### Records -/

/-- The children with a tag of the core namespace that give a name which is not empty. -/
def parentChildren (tag : String) (e : Element) : List Element :=
  (e.coreChildren tag).filter fun c => (c.filled? "name").isSome

theorem namesOf_eq (e : Element) (tag : String) :
    e.namesOf tag = (parentChildren tag e).filterMap (·.filled? "name") := by
  rw [namesOf, parentChildren, List.filterMap_filter]
  refine congrArg (List.filterMap · (e.coreChildren tag)) (funext fun c => ?_)
  cases c.filled? "name" <;> rfl

/-- Two classes, or two interfaces, that agree in their name, the class that they extend and
their documentation, and group by group in their named children. -/
structure AgreeOnGroups (e e' : Element) : Prop where
  kind : e.kind = e'.kind
  name : e.attr? "name" = e'.attr? "name"
  parent : e.attr? "parent" = e'.attr? "parent"
  doc : e.child? "doc" = e'.child? "doc"
  properties : named (e.children.filter (·.kind == "property")) =
    named (e'.children.filter (·.kind == "property"))
  /-- Only classes have constructors. -/
  constructors : e.isInterface = false → named (e.children.filter (·.kind == "constructor")) =
    named (e'.children.filter (·.kind == "constructor"))
  /-- Only classes have functions. -/
  functions : e.isInterface = false → named (e.children.filter (·.kind == "function")) =
    named (e'.children.filter (·.kind == "function"))
  methods : named (e.children.filter isMethod) = named (e'.children.filter isMethod)
  interfaces : parentChildren "implements" e = parentChildren "implements" e'
  prerequisites : parentChildren "prerequisite" e = parentChildren "prerequisite" e'

namespace AgreeOnGroups

variable {e e' : Element} (h : AgreeOnGroups e e')

include h

theorem isInterface_eq : e.isInterface = e'.isInterface := by
  rw [isInterface, isInterface, h.kind]

theorem layoutsIn_eq (camel : Bool) (className : String) (g : MemberGroup) :
    layoutsIn camel e.isInterface className g e.children =
      layoutsIn camel e.isInterface className g e'.children := by
  cases g with
  | properties => exact congrArg (List.flatMap _) h.properties
  | methods => exact congrArg (List.flatMap _) h.methods
  | constructors =>
    cases hinterface : e.isInterface with
    | true => rw [layoutsIn_interface camel className (.inl rfl),
        layoutsIn_interface camel className (.inl rfl)]
    | false => exact congrArg (List.flatMap _) (h.constructors hinterface)
  | functions =>
    cases hinterface : e.isInterface with
    | true => rw [layoutsIn_interface camel className (.inr rfl),
        layoutsIn_interface camel className (.inr rfl)]
    | false => exact congrArg (List.flatMap _) (h.functions hinterface)

theorem memberLayouts_eq (camel : Bool) (className : String) :
    e.memberLayouts camel className = e'.memberLayouts camel className := by
  rw [GirTypings.memberLayouts_eq, GirTypings.memberLayouts_eq, ← h.isInterface_eq]
  exact congrArg (List.flatMap · MemberGroup.inOrder) (funext (h.layoutsIn_eq camel className))

theorem namesOf_implements : e.namesOf "implements" = e'.namesOf "implements" := by
  rw [namesOf_eq, namesOf_eq, h.interfaces]

theorem parentNames_eq : e.parentNames = e'.parentNames := by
  rw [parentNames, parentNames, filled?, filled?, h.parent, h.namesOf_implements,
    namesOf_eq e "prerequisite", namesOf_eq e' "prerequisite", h.prerequisites]

theorem shell_eq (camel : Bool) (className : String) :
    e.shell camel className = e'.shell camel className := by
  rw [shell, shell, docstring, docstring, doc?, doc?, h.isInterface_eq, h.doc, h.parent,
    h.namesOf_implements, h.memberLayouts_eq]

/-- Their records are equal, or both have none for the same reason. -/
theorem classRecord_eq (camel : Bool) : e.classRecord camel = e'.classRecord camel := by
  have hrequire : e.require "name" = e'.require "name" := by
    rw [require, require, h.name, h.kind]
  rw [classRecord, classRecord, hrequire, h.parentNames_eq]
  simp only [h.shell_eq camel]

end AgreeOnGroups

/-- **A class or interface depends on its groups only.**  Its record has the parents and the
layout of a shell around its members, and these are what its named children make: the
properties first, then the constructors, each with its factory behind it, the functions and
the methods, each group in document order.  One pass over the children collects them.  So
elements that agree group by group have equal records, however their children are mixed and
whatever else stands between. -/
theorem class_depends_on_groups (settings : Settings) (e : Element) :
    (∀ name, e.attr? "name" = some name →
      e.classRecord settings.camel = .ok ⟨name, e.parentNames,
        Layout.comment 0 (e.shell settings.camel name).remarks ++
          .code (e.shell settings.camel name).header ::
            ((MemberGroup.inOrder.flatMap fun g =>
              layoutsIn settings.camel e.isInterface name g e.children).flatten ++
                [.code "\x7d"])⟩) ∧
    (∀ name g, e.children.foldl (collect settings.camel e.isInterface name) (fun _ => []) g =
      layoutsIn settings.camel e.isInterface name g e.children) ∧
    ∀ e', AgreeOnGroups e e' → e.classRecord settings.camel = e'.classRecord settings.camel := by
  refine ⟨fun name hname => ?_, fun name g => ?_, fun e' h => h.classRecord_eq settings.camel⟩
  · have hmembers : (e.shell settings.camel name).members =
        MemberGroup.inOrder.flatMap fun g =>
          layoutsIn settings.camel e.isInterface name g e.children :=
      memberLayouts_eq settings.camel name e
    rw [classRecord_of_name hname, Shell.layout, hmembers]
  · rw [foldl_collect, List.nil_append]

/-- A class with its members group by group. -/
def sortedClass : Element :=
  coreElement "class" (some "Box")
    [coreElement "implements" (some "Sized") [], coreElement "property" (some "size") [],
      coreElement "constructor" (some "new") [], coreElement "function" (some "open") [],
      coreElement "method" (some "close") [], coreElement "virtual-method" (some "draw") []]

/-- The same members mixed, with children that are skipped. -/
def shuffledClass : Element :=
  coreElement "class" (some "Box")
    [coreElement "method" (some "close") [], coreElement "property" none [],
      coreElement "function" (some "open") [], coreElement "field" (some "width") [],
      coreElement "virtual-method" (some "draw") [], coreElement "constructor" none [],
      coreElement "implements" none [], coreElement "constructor" (some "new") [],
      coreElement "property" (some "size") [], coreElement "implements" (some "Sized") []]

/-- Both make one record. -/
theorem classRecord_shuffled :
    AgreeOnGroups sortedClass shuffledClass ∧ sortedClass.attr? "name" = some "Box" ∧
    sortedClass.classRecord ({} : Settings).camel = shuffledClass.classRecord ({} : Settings).camel ∧
    (sortedClass.classRecord ({} : Settings).camel).toOption.map (fun r => r.contents.text false) =
      some ("export class Box \x7b\n    readonly size: any;\n    constructor();\n" ++
        "    static _new(): Box;\n    static open(): void;\n    close(): void;\n" ++
        "    draw(): void;\n\x7d") := by
  have hagree : AgreeOnGroups sortedClass shuffledClass :=
    ⟨rfl, rfl, rfl, rfl, rfl, fun _ => rfl, fun _ => rfl, rfl, rfl, rfl⟩
  obtain ⟨hrecord, -, hsame⟩ := class_depends_on_groups {} sortedClass
  refine ⟨hagree, rfl, hsame _ hagree, ?_⟩
  rw [hrecord "Box" rfl]
  decide +kernel

end GirTypings
