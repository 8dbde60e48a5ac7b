import GirTypings.Proofs.Provenance

/-!
# Skeletons

The **skeleton** of an element is what is left of it without its text and without the
elements of kind `doc` inside it, at any depth.  The readers of attributes, types,
parameters and return values see no difference between an element and its skeleton, but
for the documentation, which is gone: each of them commutes with leaving documentation
out.

* `skeleton_withoutDocs`: leaving out the elements of kind `doc` alone, with all that is
  in them, does not change the skeleton;
* `children_skeleton`: the children of a skeleton;
* `valueType_skeleton`, `signature_skeleton`: types are kept, and signatures up to their
  documentation;
* `namespaceOf_skeleton`, `includedVersions_skeleton`: what is read from a repository.
-/

namespace GirTypings

open Gir Xml

namespace Xml

mutual

/-- The element without the elements of kind `doc` inside it, at any depth. -/
def Element.withoutDocs : Element → Element
  | .mk name attributes content => .mk name attributes (contentWithoutDocs content)

/-- Some content without the elements of kind `doc` in it, at any depth. -/
def contentWithoutDocs : List Node → List Node
  | [] => []
  | .text run :: rest => .text run :: contentWithoutDocs rest
  | .element e :: rest =>
    if e.kind = "doc" then contentWithoutDocs rest
    else .element e.withoutDocs :: contentWithoutDocs rest

end

mutual

/-- The element without text and without the elements of kind `doc` inside it, at any
depth. -/
def Element.skeleton : Element → Element
  | .mk name attributes content => .mk name attributes (contentSkeleton content)

/-- The elements of some content that are not of kind `doc`, as skeletons. -/
def contentSkeleton : List Node → List Node
  | [] => []
  | .text _ :: rest => contentSkeleton rest
  | .element e :: rest =>
    if e.kind = "doc" then contentSkeleton rest
    else .element e.skeleton :: contentSkeleton rest

end

/-- An element that documents another. -/
def docElement (text : String) : Element :=
  .mk ⟨some coreNamespace, "doc"⟩ [] [.text text]

namespace Element

/-! ### Names and attributes -/

@[simp] theorem name_skeleton (e : Element) : e.skeleton.name = e.name := by
  cases e
  rfl

@[simp] theorem kind_skeleton (e : Element) : e.skeleton.kind = e.kind := by
  rw [kind, name_skeleton, kind]

@[simp] theorem attr?_skeleton (e : Element) (short : String) :
    e.skeleton.attr? short = e.attr? short := by
  cases e
  rfl

@[simp] theorem filled?_skeleton (e : Element) (short : String) :
    e.skeleton.filled? short = e.filled? short := by
  rw [filled?, attr?_skeleton, filled?]

@[simp] theorem require_skeleton (e : Element) (short : String) :
    e.skeleton.require short = e.require short := by
  rw [require, attr?_skeleton, kind_skeleton, require]

theorem kind_withoutDocs (e : Element) : e.withoutDocs.kind = e.kind := by
  cases e
  rfl

end Element

/-! ### Content -/

mutual

/-- Leaving out the elements of kind `doc` does not change the skeleton. -/
theorem Element.skeleton_withoutDocs : (e : Element) → e.withoutDocs.skeleton = e.skeleton
  | .mk name attributes content => by
    rw [Element.withoutDocs, Element.skeleton, Element.skeleton,
      contentSkeleton_contentWithoutDocs content]

theorem contentSkeleton_contentWithoutDocs :
    (content : List Node) → contentSkeleton (contentWithoutDocs content) = contentSkeleton content
  | [] => rfl
  | .text _ :: rest => by
    rw [contentWithoutDocs, contentSkeleton, contentSkeleton,
      contentSkeleton_contentWithoutDocs rest]
  | .element e :: rest => by
    rw [contentWithoutDocs, contentSkeleton]
    by_cases hdoc : e.kind = "doc"
    · rw [if_pos hdoc, if_pos hdoc, contentSkeleton_contentWithoutDocs rest]
    · rw [if_neg hdoc, if_neg hdoc, contentSkeleton, e.kind_withoutDocs, if_neg hdoc,
        e.skeleton_withoutDocs, contentSkeleton_contentWithoutDocs rest]

end

/-- The elements that the skeleton of some content holds. -/
theorem filterMap_contentSkeleton (content : List Node) :
    (contentSkeleton content).filterMap Node.element? =
      ((content.filterMap Node.element?).filter (·.kind != "doc")).map Element.skeleton := by
  induction content with
  | nil => rw [contentSkeleton]; rfl
  | cons node rest ih =>
    cases node with
    | text run => rw [contentSkeleton, ih]; rfl
    | element e =>
      have hhead : (Node.element e :: rest).filterMap Node.element? =
          e :: rest.filterMap Node.element? := rfl
      rw [contentSkeleton, hhead, List.filter_cons]
      by_cases hdoc : e.kind = "doc"
      · rw [if_pos hdoc, ih, hdoc]
        rfl
      · rw [if_neg hdoc, if_pos (by simpa using hdoc), List.map_cons, ← ih]
        rfl

namespace Element

variable (e : Element)

/-- The children of a skeleton are the skeletons of the children that are no docs. -/
theorem children_skeleton :
    e.skeleton.children = (e.children.filter (·.kind != "doc")).map skeleton := by
  cases e with
  | mk name attributes content => exact filterMap_contentSkeleton content

/-- A class that holds no docs is not narrowed by leaving them out. -/
theorem kind_ne_doc_and {p : Element → Bool} (hdoc : ∀ c, c.kind = "doc" → p c = false)
    (c : Element) : ((c.kind != "doc") && p c) = p c := by
  by_cases h : c.kind = "doc"
  · rw [hdoc c h, Bool.and_false]
  · simp [h]

/-- The children of a class that skeletons respect and that holds no docs. -/
theorem filter_children_skeleton {p : Element → Bool} (hskeleton : ∀ c, p c.skeleton = p c)
    (hdoc : ∀ c, c.kind = "doc" → p c = false) :
    e.skeleton.children.filter p = (e.children.filter p).map skeleton := by
  rw [children_skeleton, List.filter_map, List.filter_filter]
  simp only [Function.comp_def, hskeleton, Bool.and_comm (p _), kind_ne_doc_and hdoc]

theorem any_children_skeleton {p : Element → Bool} (hskeleton : ∀ c, p c.skeleton = p c)
    (hdoc : ∀ c, c.kind = "doc" → p c = false) :
    e.skeleton.children.any p = e.children.any p := by
  rw [children_skeleton, List.any_map, List.any_filter]
  simp only [Function.comp_def, hskeleton, kind_ne_doc_and hdoc]

/-- An element of the core namespace is of the kind that its local name says. -/
theorem kind_of_name {e : Element} {tag : String} (h : e.name = ⟨some coreNamespace, tag⟩) :
    e.kind = tag := by
  have hprefix : shortPrefix (some coreNamespace) = "" := by decide +kernel
  rw [kind, h, shortName, hprefix, String.empty_append]

theorem coreChildren_skeleton {tag : String} (htag : tag ≠ "doc") :
    e.skeleton.coreChildren tag = (e.coreChildren tag).map skeleton := by
  refine e.filter_children_skeleton (fun c => by rw [name_skeleton]) fun c hc => ?_
  -- docs are told by their kind and core children by their full name, which says the kind
  rw [beq_eq_false_iff_ne]
  intro hname
  exact htag ((kind_of_name hname).symm.trans hc)

theorem child?_skeleton {k : String} (hk : k ≠ "doc") :
    e.skeleton.child? k = (e.child? k).map skeleton := by
  have h := e.filter_children_skeleton (p := (·.kind == k)) (fun c => by rw [kind_skeleton])
    fun c hc => by simpa [hc] using hk.symm
  rw [child?, child?, ← List.head?_filter, ← List.head?_filter, h, List.head?_map]

theorem child?_doc_skeleton : e.skeleton.child? "doc" = none := by
  rw [child?, List.find?_eq_none, children_skeleton]
  intro c hc
  obtain ⟨d, hd, rfl⟩ := List.mem_map.1 hc
  have hkind := (List.mem_filter.1 hd).2
  rw [kind_skeleton]
  simpa using hkind

/-! ### Docs and types -/

theorem doc?_skeleton : e.skeleton.doc? = none := by
  rw [doc?, child?_doc_skeleton, Option.map_none]

theorem inlineDoc?_skeleton : e.skeleton.inlineDoc? = none := by
  rw [inlineDoc?, doc?_skeleton, Option.map_none]

end Element

mutual

/-- The type of a value does not depend on docs, at whatever depth of its arrays. -/
theorem Element.valueType_skeleton : (e : Element) → e.skeleton.valueType = e.valueType
  | .mk name attributes content => by
    rw [Element.skeleton, Element.valueType, Element.valueType, typeIn_contentSkeleton content]

theorem typeIn_contentSkeleton :
    (content : List Node) → typeIn (contentSkeleton content) = typeIn content
  | [] => rfl
  | .text _ :: rest => by
    rw [contentSkeleton, typeIn, typeIn_contentSkeleton rest]
  | .element e :: rest => by
    rw [contentSkeleton, typeIn]
    by_cases hdoc : e.kind = "doc"
    · simp [hdoc, typeIn_contentSkeleton rest]
    · rw [if_neg hdoc, typeIn, e.kind_skeleton, e.attr?_skeleton, e.valueType_skeleton,
        typeIn_contentSkeleton rest]

end

namespace Element

variable (e : Element)

theorem typeSpelling_skeleton : e.skeleton.typeSpelling = e.typeSpelling := by
  rw [typeSpelling, valueType_skeleton, typeSpelling]

end Element

end Xml

/-! ### Signatures -/

/-- The parameter without its documentation. -/
def Parameter.undocumented (p : Parameter) : Parameter :=
  { p with doc := none }

/-- The return value without its documentation. -/
def ReturnValue.undocumented (r : ReturnValue) : ReturnValue :=
  { r with doc := none }

/-- The signature without its documentation. -/
def Signature.undocumented (s : Signature) : Signature :=
  ⟨s.parameters.map Parameter.undocumented, s.returns.undocumented⟩

@[simp] theorem Signature.undocumented_undocumented (s : Signature) :
    s.undocumented.undocumented = s.undocumented := by
  have htwice : Parameter.undocumented ∘ Parameter.undocumented = Parameter.undocumented := rfl
  rw [undocumented, undocumented, List.map_map, htwice]
  rfl

namespace Xml.Element

variable (e : Element)

theorem toOption_parameter_skeleton :
    e.skeleton.parameter.toOption = e.parameter.toOption.map Parameter.undocumented := by
  rw [toOption_parameter, toOption_parameter, attr?_skeleton, inlineDoc?_skeleton,
    typeSpelling_skeleton, Option.map_map]
  refine congrArg (Option.map · _) (funext fun name => ?_)
  rw [Function.comp_apply]
  split <;> rfl

theorem parameterElements_skeleton :
    e.skeleton.parameterElements = e.parameterElements.map skeleton := by
  rw [parameterElements, parameterElements, e.child?_skeleton (by decide)]
  cases e.child? "parameters" with
  | none => rfl
  | some list =>
    exact list.filter_children_skeleton (fun c => by rw [kind_skeleton])
      fun c hc => by rw [hc]; decide

theorem parameters_skeleton : e.skeleton.parameters = e.parameters.map Parameter.undocumented := by
  have hread : (fun p : Element => p.skeleton.parameter.toOption) =
      fun p => p.parameter.toOption.map Parameter.undocumented :=
    funext toOption_parameter_skeleton
  have hname : ∀ p : Parameter, p.undocumented.name = p.name := fun _ => rfl
  have hfirst := firstBy_map hname (e.parameterElements.filterMap fun p => p.parameter.toOption)
  rw [parameters, parameters, ← hfirst, parameterElements_skeleton, List.filterMap_map,
    List.map_filterMap, ← hread]
  rfl

theorem returnValue_skeleton : e.skeleton.returnValue = e.returnValue.undocumented := by
  rw [returnValue, returnValue, e.child?_skeleton (by decide)]
  cases e.child? "return-value" with
  | none => rfl
  | some r =>
    have hany := r.any_children_skeleton (p := fun c => c.kind == "type" || c.kind == "array")
      (fun c => by rw [kind_skeleton]) fun c hc => by rw [hc]; decide
    simp only [Option.map_some, hany, typeSpelling_skeleton, inlineDoc?_skeleton]
    split <;> rfl

/-- **A signature loses its documentation and nothing else.** -/
theorem signature_skeleton : e.skeleton.signature = e.signature.undocumented := by
  rw [signature, parameters_skeleton, returnValue_skeleton]
  rfl

end Xml.Element

/-! ### Documents -/

theorem namespaceOf_skeleton (repository : Element) :
    Gir.namespaceOf repository.skeleton = (Gir.namespaceOf repository).map Element.skeleton := by
  rw [Gir.namespaceOf, Gir.namespaceOf, repository.coreChildren_skeleton (by decide)]
  cases repository.coreChildren "namespace" <;> rfl

theorem includedVersions_skeleton (repository : Element) :
    includedVersions repository.skeleton = includedVersions repository := by
  have hinclusion : inclusion? ∘ Element.skeleton = inclusion? := by
    funext c
    rw [Function.comp_apply, inclusion?, Element.filled?_skeleton, Element.filled?_skeleton,
      inclusion?]
  rw [includedVersions, includedVersions, repository.coreChildren_skeleton (by decide),
    List.filterMap_map, hinclusion]

end GirTypings
