import GirTypings.Proofs.Provenance
import GirTypings.Proofs.Solid

/-!
# Values on one line

An element **has one-line values** if no value of an attribute in it, at any depth, holds a
line feed.  What is read from such an element says nothing of several lines, for text goes
into documentation only; so the layout or record that a child of a namespace makes is solid.

* `Element.HasOneLineValues`: what is asked of an element;
* `isSolid_looseLayout?`, `isSolid_record?`: what it makes of the children of a namespace.
-/

namespace GirTypings

open Declaration Gir Registry Text Xml

/-! ### Values of attributes -/

namespace Xml

mutual

/-- The values of all attributes of an element and inside it, at any depth. -/
def Element.attributeValues : Element → List String
  | .mk _ attributes content => attributes.map Attribute.value ++ contentAttributeValues content

/-- The values of all attributes in some content, at any depth. -/
def contentAttributeValues : List Node → List String
  | [] => []
  | .text _ :: rest => contentAttributeValues rest
  | .element e :: rest => e.attributeValues ++ contentAttributeValues rest

end

/-- Whether the values of all attributes, at any depth, are on one line. -/
def Element.HasOneLineValues (e : Element) : Prop :=
  ∀ v ∈ e.attributeValues, OneLine v

instance (e : Element) : Decidable e.HasOneLineValues :=
  inferInstanceAs (Decidable (∀ v ∈ e.attributeValues, OneLine v))

theorem mem_contentAttributeValues {content : List Node} {c : Element}
    (hc : c ∈ content.filterMap Node.element?) {v : String} (hv : v ∈ c.attributeValues) :
    v ∈ contentAttributeValues content := by
  induction content with
  | nil => cases hc
  | cons node rest ih =>
    cases node with
    | text run =>
      rw [contentAttributeValues]
      exact ih hc
    | element e =>
      have hc : c ∈ e :: rest.filterMap Node.element? := hc
      rw [contentAttributeValues, List.mem_append]
      rcases List.mem_cons.1 hc with rfl | hc
      · exact .inl hv
      · exact .inr (ih hc)

namespace Element.HasOneLineValues

variable {e : Element} (h : e.HasOneLineValues)

include h

theorem attr? {short v : String} (hv : e.attr? short = some v) : OneLine v := by
  obtain ⟨a, ha, rfl⟩ := Option.map_eq_some_iff.1 hv
  have hmem := List.mem_map_of_mem (f := Attribute.value) (List.mem_of_find?_eq_some ha)
  cases e with
  | mk name attributes content => exact h _ (List.mem_append_left _ hmem)

theorem filled? {short v : String} (hv : e.filled? short = some v) : OneLine v :=
  h.attr? (Option.filter_eq_some_iff.1 hv).1

theorem getD_attr? (short : String) : OneLine ((e.attr? short).getD "") := by
  cases hv : e.attr? short with
  | none =>
    show OneLine ""
    decide
  | some v => exact h.attr? hv

theorem child {c : Element} (hc : c ∈ e.children) : c.HasOneLineValues := by
  cases e with
  | mk name attributes content =>
    intro v hv
    exact h v (List.mem_append_right _ (mem_contentAttributeValues hc hv))

theorem child? {kind : String} {c : Element} (hc : e.child? kind = some c) :
    c.HasOneLineValues :=
  h.child (List.mem_of_find?_eq_some hc)

theorem coreChild {tag : String} {c : Element} (hc : c ∈ e.coreChildren tag) :
    c.HasOneLineValues :=
  h.child (List.mem_filter.1 hc).1

end Element.HasOneLineValues

/-! ### What is read from an element -/

namespace Element

theorem oneLine_of_mem_inlineDoc? {e : Element} {t : String} (ht : t ∈ e.inlineDoc?) :
    OneLine t := by
  obtain ⟨doc, -, rfl⟩ := Option.map_eq_some_iff.1 ht
  exact oneLine_collapseBlanks doc

variable {e : Element} (h : e.HasOneLineValues)

include h

theorem isOneLine_parameter {p : Parameter} (hp : e.parameter.toOption = some p) :
    p.IsOneLine := by
  have hdoc : ∀ t ∈ e.inlineDoc?, OneLine t := fun _ ht => oneLine_of_mem_inlineDoc? ht
  rw [toOption_parameter] at hp
  obtain ⟨name, hname, rfl⟩ := Option.map_eq_some_iff.1 hp
  split
  · exact ⟨(by decide : OneLine "...other"), oneLine_spelling _, hdoc⟩
  · exact ⟨Naming.oneLine_sanitize (h.attr? hname), oneLine_spelling _, hdoc⟩

theorem isOneLine_signature : e.signature.IsOneLine := by
  refine ⟨fun p hp => ?_, ?_⟩
  · obtain ⟨c, hc, hread⟩ := List.mem_filterMap.1 ((firstBy_sublist _).subset hp)
    rw [parameterElements] at hc
    split at hc
    · cases hc
    · next list hlist =>
      exact isOneLine_parameter ((h.child? hlist).child (List.mem_filter.1 hc).1) hread
  · show e.returnValue.IsOneLine
    rw [returnValue]
    split
    · exact ⟨by decide, nofun⟩
    · next r hr =>
      split
      · exact ⟨oneLine_spelling _, fun _ ht => oneLine_of_mem_inlineDoc? ht⟩
      · exact ⟨(by decide : OneLine Scalar.null.spelling), fun _ ht => oneLine_of_mem_inlineDoc? ht⟩

theorem isOneLine_callable {modifiers : List String} (hmodifiers : ∀ m ∈ modifiers, OneLine m)
    {c : Callable} (hc : (e.callable modifiers).toOption = some c) : c.IsOneLine := by
  rw [toOption_callable] at hc
  obtain ⟨name, hname, rfl⟩ := Option.map_eq_some_iff.1 hc
  exact ⟨h.attr? hname, isOneLine_signature h, hmodifiers⟩

theorem isOneLine_property {p : Property} (hp : e.property.toOption = some p) :
    p.IsOneLine := by
  rw [toOption_property] at hp
  obtain ⟨name, hname, rfl⟩ := Option.map_eq_some_iff.1 hp
  refine ⟨h.attr? hname, oneLine_spelling _, fun t ht => ?_⟩
  rw [← Option.some.inj ht]
  exact oneLine_collapseBlanks _

/-- A constructor says nothing more than its element and the name of the class. -/
theorem isOneLine_of_mem_constructorCallables {className : String} (hclass : OneLine className)
    {c : Callable} (hc : c ∈ (e.constructorCallables className).toOption.getD []) :
    c.IsOneLine := by
  rw [toOption_constructorCallables] at hc
  cases hname : e.attr? "name" with
  | none =>
    rw [hname] at hc
    cases hc
  | some name =>
    have hsignature : Signature.IsOneLine ⟨e.parameters, instanceOf className⟩ := by
      refine ⟨(isOneLine_signature h).parameters, hclass, fun t ht => ?_⟩
      rw [← Option.some.inj ht]
      simp +decide [hclass]
    rw [hname, Option.map_some, Option.getD_some, List.mem_append] at hc
    rcases hc with hc | hc
    · split at hc
      · rw [List.mem_singleton.1 hc]
        exact ⟨(by decide : OneLine constructorName), hsignature, nofun⟩
      · cases hc
    · rw [List.mem_singleton.1 hc]
      exact ⟨h.attr? hname, hsignature, (by decide : ∀ m ∈ ["static"], OneLine m)⟩

/-- Every member of a class or an interface is solid. -/
theorem isSolid_of_mem_memberLayouts {camel : Bool} {className : String}
    (hclass : OneLine className) {l : Layout} (hl : l ∈ e.memberLayouts camel className) :
    l.IsSolid := by
  have hcallables : ∀ {p : Element → Bool} {modifiers : List String},
      (∀ m ∈ modifiers, OneLine m) →
      l ∈ (e.children.filter p).filterMap (fun m =>
        (m.callable modifiers).toOption.map (Callable.layout camel memberDepth)) → l.IsSolid := by
    intro p modifiers hmodifiers hl
    obtain ⟨m, hm, hread⟩ := List.mem_filterMap.1 hl
    obtain ⟨c, hc, rfl⟩ := Option.map_eq_some_iff.1 hread
    exact isSolid_callable _ (isOneLine_callable (h.child (List.mem_filter.1 hm).1) hmodifiers hc)
  rw [memberLayouts, List.mem_append, List.mem_append] at hl
  rcases hl with (hl | hl) | hl
  · obtain ⟨m, hm, hread⟩ := List.mem_filterMap.1 hl
    obtain ⟨p, hp, rfl⟩ := Option.map_eq_some_iff.1 hread
    exact isSolid_property _ (isOneLine_property (h.child (List.mem_filter.1 hm).1) hp)
  · -- an interface has no constructors and no functions
    split at hl
    · cases hl
    rcases List.mem_append.1 hl with hl | hl
    · obtain ⟨m, hm, hread⟩ := List.mem_flatMap.1 hl
      obtain ⟨c, hc, rfl⟩ := List.mem_map.1 hread
      exact isSolid_callable _ (isOneLine_of_mem_constructorCallables
        (h.child (List.mem_filter.1 hm).1) hclass hc)
    · exact hcallables (by decide) hl
  · exact hcallables (by decide) hl

theorem oneLine_of_mem_namesOf {tag name : String} (hname : name ∈ e.namesOf tag) :
    OneLine name := by
  obtain ⟨c, hc, hfilled⟩ := List.mem_filterMap.1 hname
  exact (h.coreChild hc).filled? hfilled

theorem oneLine_of_mem_parentNames {name : String} (hname : name ∈ e.parentNames) :
    OneLine name := by
  rw [parentNames, List.mem_append, List.mem_append, Option.mem_toList] at hname
  rcases hname with (hname | hname) | hname
  · exact h.filled? hname
  · exact oneLine_of_mem_namesOf h hname
  · exact oneLine_of_mem_namesOf h hname

theorem isOneLine_shell {camel : Bool} {name : String} (hname : OneLine name) :
    (e.shell camel name).IsOneLine where
  name := hname
  kind := by
    show OneLine (if e.isInterface then "interface" else "class")
    split <;> decide
  base := fun _ hb => h.attr? hb
  interfaces := fun _ hi => oneLine_of_mem_namesOf h hi
  members := fun _ hm => isSolid_of_mem_memberLayouts h hname hm

theorem isOneLine_enumeration {name : String} (hname : OneLine name) :
    (e.enumeration name).IsOneLine where
  name := hname
  members := by
    intro m hm
    obtain ⟨c, hc, hread⟩ := List.mem_filterMap.1 hm
    rw [toOption_enumerationMember] at hread
    obtain ⟨name, hname, hpair⟩ := Option.bind_eq_some_iff.1 hread
    obtain ⟨value, hvalue, rfl⟩ := Option.map_eq_some_iff.1 hpair
    exact ⟨(h.coreChild hc).attr? hname, (h.coreChild hc).attr? hvalue⟩

end Element

end Xml

/-! ### Children of a namespace -/

variable {camel : Bool} {e : Element} (h : e.HasOneLineValues)

include h

theorem isSolid_looseLayout? {l : Layout} (hl : looseLayout? camel e = some l) : l.IsSolid := by
  rcases looseLayout?_eq_some_iff.1 hl with ⟨-, name, hname, rfl⟩ | ⟨-, name, hname, rfl⟩
  · exact isSolid_callable 0 ⟨h.attr? hname, Element.isOneLine_signature h,
      (by decide : ∀ m ∈ ["export", "function"], OneLine m)⟩
  · exact isSolid_constant (oneLine_constantName (h.attr? hname)) fun v hv => h.attr? hv

/-- A record of a child says nothing of several lines. -/
theorem isSolid_record? {r : Record Layout} (hr : record? camel e = some r) :
    r.contents.IsSolid ∧ ∀ p ∈ r.parents, OneLine p := by
  rcases record?_eq_some_iff.1 hr with ⟨-, name, hname, rfl⟩ | ⟨-, name, hname, rfl⟩
  · exact ⟨isSolid_shell (Element.isOneLine_shell h (h.attr? hname)),
      fun p hp => Element.oneLine_of_mem_parentNames h hp⟩
  · exact ⟨isSolid_enumeration (Element.isOneLine_enumeration h (h.attr? hname)), nofun⟩

end GirTypings
