import GirTypings.Proofs.Outline
import GirTypings.Proofs.Skeleton

/-!
# Bare lines

The **bare lines** of a layout are the lines of its code.  A layout that is made of an
element has the bare lines of the one that is made of its skeleton: documentation is no
part of a declaration, and nothing else is lost.

The order of the records does not look at layouts at all, so the same holds of modules.

* `map_bare_looseLayout?_skeleton`, `map_bare_record?_skeleton`: one child of a namespace;
* `map_bare_looseLayouts_skeleton`, `map_bare_records_skeleton`: all children;
* `header_skeleton`, `map_bare_layouts_skeleton`: a module, whether documented or not.
-/

namespace GirTypings

open Declaration Gir Registry Xml

/-! ### Bare lines -/

namespace Declaration

/-- The lines of code of a layout. -/
def Layout.bareLines (l : Layout) : List String :=
  l.lines false

theorem Layout.bareLines_comment_append (depth : Int) (remarks : List String) (l : Layout) :
    bareLines (comment depth remarks ++ l) = bareLines l := by
  rw [bareLines, lines_append, lines_comment_bare]
  rfl

/-- The callable without its documentation. -/
def Callable.undocumented (c : Callable) : Callable :=
  ⟨c.name, c.signature.undocumented, "", c.modifiers⟩

/-- Documentation is no part of a declaration. -/
theorem Callable.declaration_undocumented (camel : Bool) (c : Callable) :
    c.undocumented.declaration camel = c.declaration camel := by
  have hparameters : parameterList (c.signature.parameters.map Parameter.undocumented) =
      parameterList c.signature.parameters := by
    rw [parameterList, List.map_map]
    rfl
  rw [declaration, declaration, head, head]
  show Text.joinWith " " (c.modifiers ++ [printedName camel c.name ++ "(" ++
    parameterList (c.signature.parameters.map Parameter.undocumented) ++ ")" ++ _ ++ ";"]) = _
  rw [hparameters]
  rfl

theorem Callable.bareLines_layout (camel : Bool) (depth : Int) (c : Callable) :
    (c.layout camel depth).bareLines = [indentLine depth (c.undocumented.declaration camel)] := by
  rw [layout, Layout.bareLines_comment_append, declaration_undocumented]
  rfl

theorem Property.bareLines_layout (depth : Int) (p : Property) :
    (p.layout depth).bareLines = [indentLine depth p.declaration] := by
  rw [layout, Layout.bareLines_comment_append]
  rfl

theorem Layout.bareLines_flatten (members : List Layout) :
    bareLines members.flatten = (members.map bareLines).flatten := by
  induction members with
  | nil => rfl
  | cons m rest ih =>
    rw [List.flatten_cons, bareLines, lines_append, List.map_cons, List.flatten_cons, ← ih]
    rfl

theorem Shell.bareLines_layout (s : Shell) :
    s.layout.bareLines = s.header :: ((s.members.map Layout.bareLines).flatten ++ ["\x7d"]) := by
  rw [layout, Layout.bareLines_comment_append, ← Layout.bareLines_flatten]
  exact congrArg (s.header :: ·) (Layout.lines_append ..)

theorem Enumeration.bareLines_layout (e : Enumeration) :
    e.layout.bareLines = e.header :: ((e.declaredMembers.map fun (identifier, value) =>
      memberLine identifier value) ++ ["\x7d"]) := by
  rw [layout, Layout.bareLines_comment_append]
  refine congrArg (e.header :: ·) ((Layout.lines_append ..).trans ?_)
  rw [Layout.lines, List.flatMap_map]
  exact congrArg (· ++ ["\x7d"]) List.map_eq_flatMap.symm

end Declaration

/-! ### One child -/

namespace Xml.Element

variable (e : Element)

/-- What is read from the children of some class, seen in a way in which it does not
depend on docs. -/
theorem map_filterMap_filter_skeleton {α β : Type} {p : Element → Bool}
    (hskeleton : ∀ c, p c.skeleton = p c) (hdoc : ∀ c, c.kind = "doc" → p c = false)
    {read : Element → Option α} {view : α → β}
    (hread : ∀ c, (read c.skeleton).map view = (read c).map view) :
    ((e.skeleton.children.filter p).filterMap read).map view =
      ((e.children.filter p).filterMap read).map view := by
  rw [e.filter_children_skeleton hskeleton hdoc, List.filterMap_map, List.map_filterMap,
    List.map_filterMap]
  exact congrArg (List.filterMap · _) (funext hread)

theorem namesOf_skeleton {tag : String} (htag : tag ≠ "doc") :
    e.skeleton.namesOf tag = e.namesOf tag := by
  rw [namesOf, namesOf, e.coreChildren_skeleton htag, List.filterMap_map]
  exact congrArg (List.filterMap · _) (funext fun c => c.filled?_skeleton "name")

theorem isInterface_skeleton : e.skeleton.isInterface = e.isInterface := by
  rw [isInterface, kind_skeleton, isInterface]

theorem parentNames_skeleton : e.skeleton.parentNames = e.parentNames := by
  rw [parentNames, parentNames, filled?_skeleton, e.namesOf_skeleton (by decide),
    e.namesOf_skeleton (by decide)]

/-! ### Members -/

theorem map_bare_callable_skeleton (camel : Bool) (depth : Int) (modifiers : List String) :
    (e.skeleton.callable modifiers).toOption.map (Layout.bareLines ∘ Callable.layout camel depth) =
      (e.callable modifiers).toOption.map (Layout.bareLines ∘ Callable.layout camel depth) := by
  rw [toOption_callable, toOption_callable, attr?_skeleton, signature_skeleton, Option.map_map,
    Option.map_map]
  refine congrArg (Option.map · _) (funext fun name => ?_)
  simp only [Function.comp_apply, Callable.bareLines_layout, Callable.undocumented,
    Signature.undocumented_undocumented]

theorem map_bare_property_skeleton (depth : Int) :
    e.skeleton.property.toOption.map (Layout.bareLines ∘ Property.layout depth) =
      e.property.toOption.map (Layout.bareLines ∘ Property.layout depth) := by
  rw [toOption_property, toOption_property, attr?_skeleton, attr?_skeleton,
    typeSpelling_skeleton, Option.map_map, Option.map_map]
  refine congrArg (Option.map · _) (funext fun name => ?_)
  simp only [Function.comp_apply, Property.bareLines_layout]
  rfl

theorem map_bare_constructorCallables_skeleton (camel : Bool) (depth : Int) (className : String) :
    ((e.skeleton.constructorCallables className).toOption.getD []).map
        (Layout.bareLines ∘ Callable.layout camel depth) =
      ((e.constructorCallables className).toOption.getD []).map
        (Layout.bareLines ∘ Callable.layout camel depth) := by
  rw [toOption_constructorCallables, toOption_constructorCallables, attr?_skeleton,
    parameters_skeleton]
  cases e.attr? "name" with
  | none => rfl
  | some name =>
    have hsignature : Signature.undocumented
          ⟨e.parameters.map Parameter.undocumented, instanceOf className⟩ =
        Signature.undocumented ⟨e.parameters, instanceOf className⟩ := by
      rw [Signature.undocumented, Signature.undocumented, List.map_map]
      rfl
    by_cases hnew : name = "new"
    · simp [hnew, Callable.bareLines_layout, Callable.undocumented, hsignature]
    · simp [hnew, Callable.bareLines_layout, Callable.undocumented, hsignature]

theorem map_bare_propertyLayouts_skeleton :
    e.skeleton.propertyLayouts.map Layout.bareLines = e.propertyLayouts.map Layout.bareLines := by
  refine e.map_filterMap_filter_skeleton (fun c => by rw [kind_skeleton])
    (fun c hc => by rw [hc]; decide) fun m => ?_
  rw [Option.map_map, Option.map_map]
  exact m.map_bare_property_skeleton memberDepth

theorem map_bare_constructorLayouts_skeleton (camel : Bool) (className : String) :
    (e.skeleton.constructorLayouts camel className).map Layout.bareLines =
      (e.constructorLayouts camel className).map Layout.bareLines := by
  rw [constructorLayouts, constructorLayouts,
    e.filter_children_skeleton (fun c => by rw [kind_skeleton]) (fun c hc => by rw [hc]; decide),
    List.flatMap_map, List.map_flatMap, List.map_flatMap]
  refine congrArg (List.flatMap · _) (funext fun m => ?_)
  rw [List.map_map, List.map_map]
  exact m.map_bare_constructorCallables_skeleton camel memberDepth className

theorem map_bare_functionLayouts_skeleton (camel : Bool) :
    (e.skeleton.functionLayouts camel).map Layout.bareLines =
      (e.functionLayouts camel).map Layout.bareLines := by
  refine e.map_filterMap_filter_skeleton (fun c => by rw [kind_skeleton])
    (fun c hc => by rw [hc]; decide) fun m => ?_
  rw [Option.map_map, Option.map_map]
  exact m.map_bare_callable_skeleton camel memberDepth ["static"]

theorem map_bare_methodLayouts_skeleton (camel : Bool) :
    (e.skeleton.methodLayouts camel).map Layout.bareLines =
      (e.methodLayouts camel).map Layout.bareLines := by
  refine e.map_filterMap_filter_skeleton (fun c => by rw [isMethod, kind_skeleton, isMethod])
    (fun c hc => by rw [isMethod, hc]; decide) fun m => ?_
  rw [Option.map_map, Option.map_map]
  exact m.map_bare_callable_skeleton camel memberDepth []

/-- The members of a class have the same bare lines, in the same order. -/
theorem map_bare_memberLayouts_skeleton (camel : Bool) (className : String) :
    (e.skeleton.memberLayouts camel className).map Layout.bareLines =
      (e.memberLayouts camel className).map Layout.bareLines := by
  rw [memberLayouts, memberLayouts, isInterface_skeleton, List.map_append, List.map_append,
    List.map_append, List.map_append, map_bare_propertyLayouts_skeleton,
    map_bare_methodLayouts_skeleton]
  -- what an interface does not have is left out on both sides
  cases e.isInterface with
  | true => rfl
  | false =>
    rw [if_neg Bool.false_ne_true, if_neg Bool.false_ne_true, List.map_append, List.map_append,
      map_bare_constructorLayouts_skeleton, map_bare_functionLayouts_skeleton]

end Xml.Element

/-! ### Children of a namespace -/

variable (camel : Bool) (e : Element)

theorem header_shell_skeleton (className : String) :
    (e.skeleton.shell camel className).header = (e.shell camel className).header := by
  have hkind : (e.skeleton.shell camel className).kind = (e.shell camel className).kind := by
    rw [Element.shell, Element.isInterface_skeleton, Element.shell]
  have hbase : (e.skeleton.shell camel className).base = (e.shell camel className).base :=
    e.attr?_skeleton "parent"
  rw [Shell.header, Shell.header, Shell.extended?, Shell.extended?, hkind, hbase]
  rfl

theorem bareLines_shell_skeleton (className : String) :
    (e.skeleton.shell camel className).layout.bareLines =
      (e.shell camel className).layout.bareLines := by
  rw [Shell.bareLines_layout, Shell.bareLines_layout, header_shell_skeleton]
  exact congrArg (fun lines => (e.shell camel className).header :: (lines.flatten ++ ["\x7d"]))
    (e.map_bare_memberLayouts_skeleton camel className)

theorem enumerationMember_skeleton : e.skeleton.enumerationMember = e.enumerationMember := by
  rw [Element.enumerationMember, Element.require_skeleton, Element.require_skeleton,
    Element.enumerationMember]

theorem bareLines_enumeration_skeleton (name : String) :
    (e.skeleton.enumeration name).layout.bareLines = (e.enumeration name).layout.bareLines := by
  have hmembers : (e.skeleton.enumeration name).members = (e.enumeration name).members := by
    rw [Element.enumeration, e.coreChildren_skeleton (by decide), List.filterMap_map]
    exact congrArg (List.filterMap · _)
      (funext fun m => congrArg Except.toOption (enumerationMember_skeleton m))
  rw [Enumeration.bareLines_layout, Enumeration.bareLines_layout, Enumeration.declaredMembers,
    Enumeration.declaredMembers, hmembers]
  rfl

/-- A class, an interface or an enumeration makes the same record but for comments. -/
theorem map_bare_record?_skeleton :
    (record? camel e.skeleton).map (Record.map Layout.bareLines) =
      (record? camel e).map (Record.map Layout.bareLines) := by
  have hclass : isClassLike e.skeleton = isClassLike e := by
    rw [isClassLike, Element.kind_skeleton, isClassLike]
  have henum : isEnumerationLike e.skeleton = isEnumerationLike e := by
    rw [isEnumerationLike, Element.kind_skeleton, isEnumerationLike]
  rw [record?, record?, hclass, henum, Element.toOption_classRecord, Element.toOption_classRecord,
    Element.toOption_enumerationRecord, Element.toOption_enumerationRecord,
    Element.attr?_skeleton, Element.parentNames_skeleton]
  split
  · simp only [Option.map_map, Function.comp_def, Record.map, bareLines_shell_skeleton]
  · split
    · simp only [Option.map_map, Function.comp_def, Record.map, bareLines_enumeration_skeleton]
    · rfl

/-- A function or a constant makes the same layout but for comments. -/
theorem map_bare_looseLayout?_skeleton :
    (looseLayout? camel e.skeleton).map Layout.bareLines =
      (looseLayout? camel e).map Layout.bareLines := by
  have hfunction : (functionLayout camel e.skeleton).toOption.map Layout.bareLines =
      (functionLayout camel e).toOption.map Layout.bareLines := by
    rw [functionLayout, functionLayout, Element.toOption_bind_pure, Element.toOption_bind_pure,
      Option.map_map, Option.map_map]
    exact e.map_bare_callable_skeleton camel 0 ["export", "function"]
  have hconstant : constantLayout e.skeleton = constantLayout e := by
    rw [constantLayout, Element.require_skeleton, Element.attr?_skeleton,
      Element.typeSpelling_skeleton, constantLayout]
  rw [looseLayout?, looseLayout?, Element.kind_skeleton, hconstant]
  split
  · exact hfunction
  · split <;> rfl

/-! ### All children of a namespace -/

/-- What is read from all children, seen in a way in which it does not depend on docs. -/
theorem map_filterMap_children_skeleton {α β : Type} {read : Element → Option α} {view : α → β}
    (hdoc : ∀ c, c.kind = "doc" → read c = none)
    (hread : ∀ c, (read c.skeleton).map view = (read c).map view) :
    (e.skeleton.children.filterMap read).map view = (e.children.filterMap read).map view := by
  have hkept : ∀ c : Element, (if c.kind != "doc" then (read c).map view else none) =
      (read c).map view := by
    intro c
    by_cases h : c.kind = "doc"
    · simp [h, hdoc c h]
    · simp [h]
  rw [Element.children_skeleton, List.filterMap_map, List.map_filterMap, List.map_filterMap,
    List.filterMap_filter]
  refine congrArg (List.filterMap · _) (funext fun c => ?_)
  rw [← hkept c, Function.comp_apply, hread]

theorem looseLayout?_of_doc {e : Element} (h : e.kind = "doc") : looseLayout? camel e = none := by
  rw [looseLayout?, h]
  rfl

theorem record?_of_doc {e : Element} (h : e.kind = "doc") : record? camel e = none := by
  rw [record?, isClassLike, isEnumerationLike, h]
  rfl

theorem map_bare_looseLayouts_skeleton :
    (looseLayouts camel e.skeleton).map Layout.bareLines =
      (looseLayouts camel e).map Layout.bareLines :=
  map_filterMap_children_skeleton e (fun _ => looseLayout?_of_doc camel)
    (map_bare_looseLayout?_skeleton camel)

theorem map_bare_records_skeleton :
    (records camel e.skeleton).map (Record.map Layout.bareLines) =
      (records camel e).map (Record.map Layout.bareLines) :=
  map_filterMap_children_skeleton e (fun _ => record?_of_doc camel)
    (map_bare_record?_skeleton camel)

/-! ### Modules -/

variable (settings : Settings) (versions : Table String String)

/-- The records are written in the same order, and are the same but for comments. -/
theorem map_bare_orderedRecords_skeleton :
    (orderedRecords settings e.skeleton).map Layout.bareLines =
      (orderedRecords settings e).map Layout.bareLines := by
  rw [orderedRecords, orderedRecords, ← order_map, ← order_map, map_bare_records_skeleton]

theorem imports_skeleton :
    (orderedRecords settings e.skeleton).imports = (orderedRecords settings e).imports := by
  rw [← Ordering.imports_map Layout.bareLines, map_bare_orderedRecords_skeleton,
    Ordering.imports_map]

theorem stalledNames_skeleton :
    (orderedRecords settings e.skeleton).stalledNames =
      (orderedRecords settings e).stalledNames := by
  rw [← Ordering.stalledNames_map Layout.bareLines, map_bare_orderedRecords_skeleton,
    Ordering.stalledNames_map]

/-- The header does not depend on docs, whether comments are written or not. -/
theorem header_skeleton :
    (compile settings versions e.skeleton).header = (compile settings versions e).header := by
  simp only [compile, imports_skeleton, Element.attr?_skeleton]

/-- **The declarations of a module have the same bare lines**, whether comments are
written or not. -/
theorem map_bare_layouts_skeleton :
    (compile settings versions e.skeleton).layouts.map Layout.bareLines =
      (compile settings versions e).layouts.map Layout.bareLines := by
  have hblocks : (orderedRecords settings e.skeleton).blocks.map Layout.bareLines =
      (orderedRecords settings e).blocks.map Layout.bareLines := by
    have h := congrArg Ordering.blocks (map_bare_orderedRecords_skeleton e settings)
    rw [Ordering.blocks, Ordering.blocks, Ordering.emission_map, Ordering.emission_map,
      List.map_map, List.map_map] at h
    rw [Ordering.blocks, Ordering.blocks, List.map_map, List.map_map]
    exact h
  show (looseLayouts settings.camel e.skeleton ++ _).map _ =
    (looseLayouts settings.camel e ++ _).map _
  rw [List.map_append, List.map_append, map_bare_looseLayouts_skeleton, hblocks]

end GirTypings
