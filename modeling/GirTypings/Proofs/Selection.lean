import GirTypings.Proofs.Provenance

/-!
# Which children matter

A module is made of two selections from the children of a namespace: the functions and
constants that have a name, and the classes, interfaces and enumerations that have one.
Each reader answers exactly for the children of its selection (`isSome_looseLayout?`,
`isSome_record?`), so a child outside both leaves no trace, and it does not matter how
the two selections are mixed.

* `map_some_looseLayouts`, `map_some_records`: each child of a selection makes one layout
  or one record, in document order, and nothing else makes any;
* `compile_eq_of_selections_eq`: equal selections make equal modules.
-/

namespace GirTypings

open Declaration Gir Registry Xml

/-! ### The two selections -/

/-- Whether an element has a name, perhaps an empty one. -/
def isNamed (e : Element) : Bool :=
  (e.attr? "name").isSome

/-- Whether an element describes a function or a constant. -/
def isLoose (e : Element) : Bool :=
  e.kind == "function" || e.kind == "constant"

/-- Whether an element describes a class, an interface or an enumeration. -/
def isRegistered (e : Element) : Bool :=
  isClassLike e || isEnumerationLike e

/-- The functions and constants of a namespace that have a name. -/
def looseChildren (e : Element) : List Element :=
  e.children.filter fun child => isLoose child && isNamed child

/-- The classes, interfaces and enumerations of a namespace that have a name. -/
def registeredChildren (e : Element) : List Element :=
  e.children.filter fun child => isRegistered child && isNamed child

/-! ### What is read from them -/

variable (camel : Bool) (e : Element)

theorem isSome_looseLayout? : (looseLayout? camel e).isSome = (isLoose e && isNamed e) := by
  rw [looseLayout?, toOption_functionLayout, toOption_constantLayout, isLoose, isNamed]
  by_cases hfunction : e.kind = "function"
  · simp [hfunction]
  · by_cases hconstant : e.kind = "constant" <;> simp [hfunction, hconstant]

theorem isSome_record? : (record? camel e).isSome = (isRegistered e && isNamed e) := by
  rw [record?, Element.toOption_classRecord, Element.toOption_enumerationRecord, isRegistered,
    isNamed]
  cases isClassLike e with
  | true => simp
  | false => cases isEnumerationLike e <;> simp

/-- A reader makes one thing of each item that it answers for, in order. -/
theorem map_some_filterMap {α β : Type} {read : α → Option β} {selects : α → Bool}
    (h : ∀ a, (read a).isSome = selects a) (items : List α) :
    (items.filterMap read).map some = (items.filter selects).map read := by
  induction items with
  | nil => rfl
  | cons a rest ih =>
    cases hread : read a with
    | none =>
      have hskip : selects a = false := by rw [← h, hread]; rfl
      rw [List.filterMap_cons_none hread, List.filter_cons, hskip, ih]
      rfl
    | some b =>
      have htake : selects a = true := by rw [← h, hread]; rfl
      rw [List.filterMap_cons_some hread, List.filter_cons, if_pos htake, List.map_cons,
        List.map_cons, ih, hread]

/-- Each named function or constant makes one layout, in document order. -/
theorem map_some_looseLayouts :
    (looseLayouts camel e).map some = (looseChildren e).map (looseLayout? camel) :=
  map_some_filterMap (isSome_looseLayout? camel) e.children

/-- Each named class, interface or enumeration makes one record, in document order. -/
theorem map_some_records :
    (records camel e).map some = (registeredChildren e).map (record? camel) :=
  map_some_filterMap (isSome_record? camel) e.children

/-! ### Blocks -/

/-- The block of the header, if there is a header. -/
def Module.headerBlocks (m : Module) : List String :=
  if m.header = "" then [] else [m.header]

/-- The block that a function or a constant leaves in a module. -/
def looseBlock? (settings : Settings) (child : Element) : Option String :=
  (looseLayout? settings.camel child).map (Layout.text settings.documented)

/-- The blocks of functions and constants. -/
def looseBlocks (settings : Settings) (e : Element) : List String :=
  (looseLayouts settings.camel e).map (Layout.text settings.documented)

/-- The blocks of classes, interfaces and enumerations, as they are ordered. -/
def recordBlocks (settings : Settings) (e : Element) : List String :=
  (orderedRecords settings e).emission.map (recordBlock settings)

theorem blocks_eq (settings : Settings) (versions : Table String String) (e : Element) :
    (compile settings versions e).blocks =
      (compile settings versions e).headerBlocks ++
        (looseBlocks settings e ++ recordBlocks settings e) :=
  (blocks_compile settings versions e).trans (List.append_assoc ..)

/-- Each named function or constant leaves one block, in document order. -/
theorem map_some_looseBlocks (settings : Settings) (e : Element) :
    (looseBlocks settings e).map some = (looseChildren e).map (looseBlock? settings) := by
  have h := congrArg (List.map (Option.map (Layout.text settings.documented)))
    (map_some_looseLayouts settings.camel e)
  rw [List.map_map, List.map_map] at h
  rw [looseBlocks, List.map_map]
  exact h

/-! ### Modules -/

/-- **A module depends on the two selections only.**  Two namespaces with the same name
and version, the same named functions and constants in the same order, and the same named
classes, interfaces and enumerations in the same order make the same module, however the
two selections are mixed and whatever else stands between. -/
theorem compile_eq_of_selections_eq (settings : Settings) (versions : Table String String)
    {e e' : Element} (hname : e.attr? "name" = e'.attr? "name")
    (hversion : e.attr? "version" = e'.attr? "version")
    (hloose : looseChildren e = looseChildren e')
    (hregistered : registeredChildren e = registeredChildren e') :
    compile settings versions e = compile settings versions e' := by
  have hlayouts : looseLayouts settings.camel e = looseLayouts settings.camel e' := by
    apply (List.map_inj_right fun _ _ => Option.some.inj).1
    rw [map_some_looseLayouts, map_some_looseLayouts, hloose]
  have hrecords : records settings.camel e = records settings.camel e' := by
    apply (List.map_inj_right fun _ _ => Option.some.inj).1
    rw [map_some_records, map_some_records, hregistered]
  -- order, imports and stalled names are made of the records alone
  have hordered : orderedRecords settings e = orderedRecords settings e' :=
    congrArg order hrecords
  rw [compile, compile, hname, hversion, hlayouts, hordered]

/-- An element of the core namespace with perhaps a name. -/
def coreElement (kind : String) (name : Option String) (content : List Element) : Element :=
  .mk ⟨some coreNamespace, kind⟩ (name.map fun n => ⟨⟨none, "name"⟩, n⟩).toList
    (content.map .element)

/-- A namespace with some content. -/
def bareNamespace (content : List Node) : Element :=
  .mk ⟨some coreNamespace, "namespace"⟩
    [⟨⟨none, "name"⟩, "Sample"⟩, ⟨⟨none, "version"⟩, "1.0"⟩] content

/-- Functions and classes in two groups. -/
def grouped : Element :=
  bareNamespace
    [.element (coreElement "function" (some "f") []),
      .element (coreElement "constant" (some "K") []),
      .element (coreElement "class" (some "A") []),
      .element (coreElement "enumeration" (some "E") [])]

/-- The same functions and classes mixed, with children that nothing is made of. -/
def mixed : Element :=
  bareNamespace
    [.element (coreElement "class" none []),
      .element (coreElement "class" (some "A") []),
      .element (coreElement "function" (some "f") []),
      .element (coreElement "record" (some "R") []),
      .element (coreElement "enumeration" (some "E") []),
      .element (coreElement "function" none []),
      .element (coreElement "constant" (some "K") []),
      .text "and more"]

/-- The two selections are the same, and so are the modules. -/
theorem compile_grouped_eq_compile_mixed :
    grouped.attr? "name" = mixed.attr? "name" ∧
    grouped.attr? "version" = mixed.attr? "version" ∧
    looseChildren grouped = looseChildren mixed ∧
    registeredChildren grouped = registeredChildren mixed ∧
    compile {} [] grouped = compile {} [] mixed := by
  have hloose : looseChildren grouped = looseChildren mixed := by rfl
  have hregistered : registeredChildren grouped = registeredChildren mixed := by rfl
  exact ⟨rfl, rfl, hloose, hregistered,
    compile_eq_of_selections_eq {} [] rfl rfl hloose hregistered⟩

end GirTypings
