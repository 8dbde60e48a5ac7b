import GirTypings.Proofs.Reading
import GirTypings.Proofs.Selection

/-!
# What comes of a document

A text is compiled, or it cannot be for one of three reasons, and which of these it is
depends on little of what the text says: whether it is a document, the kind of its root, and
whether that has a namespace (`ComesTo`).  Nothing inside the namespace is a reason.

An element that lacks what its reader needs **raises** a skip, and it may stand anywhere in
the namespace: among its children, among the members of a class or of an enumeration, or
among the parameters of a callable (`Raises`).  Wherever it is raised, the journal **notes**
it (`Notes`).

* `notes_memberJournal`, `notes_childJournal`: what is raised is noted;
* `compileDocument_eq_iff`: a text is compiled to what it comes to, and to nothing else;
* `outcome_of_document`: the reasons by their wording, and the module otherwise.
-/

namespace GirTypings

open Declaration Gir Registry Xml

/-! ### Skips -/

/-- Whether a journal notes that an element is left out, and why. -/
def Notes (journal : List Entry) (s : Skip) : Prop :=
  ∃ channel whose : String,
    (⟨.debug, channelName channel, "Skipping " ++ whose ++ ": " ++ s.message⟩ : Entry) ∈ journal

namespace Notes

variable {s : Skip} {journal more : List Entry}

theorem append_left (h : Notes journal s) (more : List Entry) : Notes (journal ++ more) s := by
  obtain ⟨channel, whose, hentry⟩ := h
  exact ⟨channel, whose, List.mem_append_left more hentry⟩

theorem append_right (journal : List Entry) (h : Notes more s) : Notes (journal ++ more) s := by
  obtain ⟨channel, whose, hentry⟩ := h
  exact ⟨channel, whose, List.mem_append_right journal hentry⟩

theorem flatMap {α : Type} {items : List α} {item : α} {journalOf : α → List Entry}
    (hitem : item ∈ items) (h : Notes (journalOf item) s) :
    Notes (items.flatMap journalOf) s := by
  obtain ⟨channel, whose, hentry⟩ := h
  exact ⟨channel, whose, List.mem_flatMap.2 ⟨item, hitem, hentry⟩⟩

end Notes

theorem notes_skipEntry {α : Type} {result : Except Skip α} {s : Skip} (channel whose : String)
    (h : result = .error s) : Notes (Element.skipEntry channel whose result) s := by
  rw [h]
  exact ⟨channel, whose, List.mem_singleton_self _⟩

/-- A reader that needs one thing first raises what reading that thing does. -/
theorem bind_pure_eq_error_iff {ε α β : Type} {x : Except ε α} {f : α → β} {s : ε} :
    (x >>= fun a => pure (f a)) = .error s ↔ x = .error s := by
  cases x with
  | error e => simp [bind, Except.bind]
  | ok a => exact iff_of_false nofun nofun

theorem require_eq_error_iff {e : Element} {short : String} {s : Skip} :
    e.require short = .error s ↔ e.attr? short = none ∧ s = ⟨e.kind, short⟩ := by
  rw [Element.require]
  cases e.attr? short with
  | none => simp [eq_comm]
  | some value => simp

/-! ### Members -/

/-- Whether the signature of a member of a class or interface is read. -/
def ReadsSignature (isInterface : Bool) (m : Element) : Prop :=
  m.isMethod ∨ isInterface = false ∧
    (m.kind = "function" ∨ m.kind = "constructor" ∧ (m.attr? "name").isSome)

/-- What the readers of a member of a class or interface raise. -/
inductive MemberRaises (isInterface : Bool) (className : String) (m : Element) : Skip → Prop
  | property {s : Skip} (hkind : m.kind = "property") (h : m.property = .error s) :
      MemberRaises isInterface className m s
  | method {s : Skip} (hkind : m.isMethod) (h : m.callable [] = .error s) :
      MemberRaises isInterface className m s
  | function {s : Skip} (hclass : isInterface = false) (hkind : m.kind = "function")
      (h : m.callable ["static"] = .error s) : MemberRaises isInterface className m s
  | constructor {s : Skip} (hclass : isInterface = false) (hkind : m.kind = "constructor")
      (h : m.constructorCallables className = .error s) : MemberRaises isInterface className m s
  | parameter {p : Element} {s : Skip} (hread : ReadsSignature isInterface m)
      (hp : p ∈ m.parameterElements) (h : p.parameter = .error s) :
      MemberRaises isInterface className m s

theorem notes_signatureJournal {e p : Element} {s : Skip} (hp : p ∈ e.parameterElements)
    (h : p.parameter = .error s) : Notes e.signatureJournal s := by
  refine ⟨"signature", "parameter of " ++ e.summary, List.mem_filterMap.2 ⟨p, hp, ?_⟩⟩
  rw [h, ← String.append_assoc]
  rfl

variable {isInterface : Bool} {className : String} {m : Element} {s : Skip}

theorem kind_of_isMethod (h : m.isMethod = true) :
    m.kind = "method" ∨ m.kind = "virtual-method" := by
  simpa [Element.isMethod] using h

/-- The journal of a method: its signature, and then its name. -/
theorem memberJournal_of_isMethod (h : m.isMethod = true) :
    m.memberJournal isInterface className =
      m.signatureJournal ++
        Element.skipEntry "class_graph" ("member of " ++ className) (m.require "name") := by
  have hproperty : m.kind ≠ "property" := by
    rcases kind_of_isMethod h with hkind | hkind <;> rw [hkind] <;> decide
  simp only [Element.memberJournal, if_neg hproperty, if_pos h]

/-- The journal of a function of a class: the same. -/
theorem memberJournal_of_function (h : m.kind = "function") :
    m.memberJournal false className =
      m.signatureJournal ++
        Element.skipEntry "class_graph" ("member of " ++ className) (m.require "name") := by
  simp [Element.memberJournal, Element.isMethod, h]

/-- The journal of a constructor of a class: its signature only if it has a name. -/
theorem memberJournal_of_constructor (h : m.kind = "constructor") :
    m.memberJournal false className =
      if (m.attr? "name").isSome then m.signatureJournal
      else Element.skipEntry "class_graph" ("member of " ++ className) (m.require "name") := by
  simp [Element.memberJournal, Element.isMethod, h]

/-- **What the readers of a member raise is noted.** -/
theorem notes_memberJournal (h : MemberRaises isInterface className m s) :
    Notes (m.memberJournal isInterface className) s := by
  cases h with
  | property hkind h =>
    simp only [Element.memberJournal, if_pos hkind]
    exact notes_skipEntry _ _ (bind_pure_eq_error_iff.1 h)
  | method hkind h =>
    rw [memberJournal_of_isMethod hkind]
    exact .append_right _ (notes_skipEntry _ _ (bind_pure_eq_error_iff.1 h))
  | function hclass hkind h =>
    rw [hclass, memberJournal_of_function hkind]
    exact .append_right _ (notes_skipEntry _ _ (bind_pure_eq_error_iff.1 h))
  | constructor hclass hkind h =>
    have hname : m.require "name" = .error s := bind_pure_eq_error_iff.1 h
    rw [hclass, memberJournal_of_constructor hkind, (require_eq_error_iff.1 hname).1]
    exact notes_skipEntry _ _ hname
  | parameter hread hp h =>
    have hnotes := notes_signatureJournal hp h
    rcases hread with hkind | ⟨hclass, hkind | ⟨hkind, hname⟩⟩
    · rw [memberJournal_of_isMethod hkind]
      exact hnotes.append_left _
    · rw [hclass, memberJournal_of_function hkind]
      exact hnotes.append_left _
    · rw [hclass, memberJournal_of_constructor hkind, if_pos hname]
      exact hnotes

/-! ### Children of a namespace -/

/-- What the readers of a child of a namespace raise, the readers inside it included. -/
inductive Raises (camel : Bool) (e : Element) : Skip → Prop
  | record {s : Skip} (hkind : isClassLike e) (h : e.classRecord camel = .error s) :
      Raises camel e s
  | enumeration {s : Skip} (hkind : isEnumerationLike e) (h : e.enumerationRecord = .error s) :
      Raises camel e s
  | function {s : Skip} (hkind : e.kind = "function") (h : functionLayout camel e = .error s) :
      Raises camel e s
  | constant {s : Skip} (hkind : e.kind = "constant") (h : constantLayout e = .error s) :
      Raises camel e s
  | parameter {p : Element} {s : Skip} (hkind : e.kind = "function")
      (hp : p ∈ e.parameterElements) (h : p.parameter = .error s) : Raises camel e s
  | member {className : String} {m : Element} {s : Skip} (hkind : isClassLike e)
      (hname : e.attr? "name" = some className) (hm : m ∈ e.children)
      (h : MemberRaises e.isInterface className m s) : Raises camel e s
  | enumerationMember {name : String} {m : Element} {s : Skip} (hkind : isEnumerationLike e)
      (hname : e.attr? "name" = some name) (hm : m ∈ e.coreChildren "member")
      (h : m.enumerationMember = .error s) : Raises camel e s

variable {camel : Bool} {e : Element}

/-- The journal of a class or interface: what is inside, and then its name. -/
theorem childJournal_of_isClassLike (space : String) (h : isClassLike e = true) :
    childJournal space e =
      e.classJournal ++
        Element.skipEntry "generator" ("element of namespace " ++ space) (e.require "name") := by
  simp only [childJournal, if_pos h]

/-- The journal of an enumeration: the same. -/
theorem childJournal_of_isEnumerationLike (space : String) (h : isEnumerationLike e = true) :
    childJournal space e =
      e.enumerationJournal ++
        Element.skipEntry "generator" ("element of namespace " ++ space) (e.require "name") := by
  have hclass : ¬ isClassLike e = true := fun hclass => by
    rw [isEnumerationLike_of_isClassLike hclass] at h
    cases h
  simp only [childJournal, if_neg hclass, if_pos h]

/-- The journal of a function of a namespace: its signature, and then its name. -/
theorem childJournal_of_function (space : String) (h : e.kind = "function") :
    childJournal space e =
      e.signatureJournal ++
        Element.skipEntry "generator" ("element of namespace " ++ space) (e.require "name") := by
  simp [childJournal, isClassLike, isEnumerationLike, h]

/-- The journal of a constant: its name. -/
theorem childJournal_of_constant (space : String) (h : e.kind = "constant") :
    childJournal space e =
      Element.skipEntry "generator" ("element of namespace " ++ space) (e.require "name") := by
  simp [childJournal, isClassLike, isEnumerationLike, h]

/-- **What the readers of a child of a namespace raise is noted.** -/
theorem notes_childJournal (space : String) (h : Raises camel e s) :
    Notes (childJournal space e) s := by
  cases h with
  | record hkind h =>
    rw [childJournal_of_isClassLike space hkind]
    exact .append_right _ (notes_skipEntry _ _ (bind_pure_eq_error_iff.1 h))
  | enumeration hkind h =>
    rw [childJournal_of_isEnumerationLike space hkind]
    exact .append_right _ (notes_skipEntry _ _ (bind_pure_eq_error_iff.1 h))
  | function hkind h =>
    -- the layout needs the callable, and the callable the name
    have hname : e.require "name" = .error s :=
      bind_pure_eq_error_iff.1 (bind_pure_eq_error_iff.1 h)
    rw [childJournal_of_function space hkind]
    exact .append_right _ (notes_skipEntry _ _ hname)
  | constant hkind h =>
    rw [childJournal_of_constant space hkind]
    exact notes_skipEntry _ _ (bind_pure_eq_error_iff.1 h)
  | parameter hkind hp h =>
    rw [childJournal_of_function space hkind]
    exact (notes_signatureJournal hp h).append_left _
  | member hkind hname hm h =>
    rw [childJournal_of_isClassLike space hkind, Element.classJournal, hname]
    exact .append_left (.flatMap hm (notes_memberJournal h)) _
  | enumerationMember hkind hname hm h =>
    rw [childJournal_of_isEnumerationLike space hkind, Element.enumerationJournal, hname]
    exact .append_left (.flatMap hm (notes_skipEntry _ _ h)) _

theorem notes_compileJournal (settings : Settings) {space child : Element}
    (hchild : child ∈ space.children) (h : Raises settings.camel child s) :
    Notes (compileJournal settings space) s :=
  .append_left (.flatMap hchild (notes_childJournal _ h)) _

/-! ### Documents -/

/-- The name that a namespace has in a repository. -/
def namespaceName : ExpandedName :=
  ⟨some coreNamespace, "namespace"⟩

/-- The first namespace of a repository, if it has one. -/
def firstNamespace? (root : Element) : Option Element :=
  root.children.find? fun child => child.name = namespaceName

theorem firstNamespace?_eq_none_iff {root : Element} :
    firstNamespace? root = none ↔ ∀ child ∈ root.children, child.name ≠ namespaceName := by
  rw [firstNamespace?, List.find?_eq_none]
  simp

theorem namespaceOf_eq (root : Element) :
    Gir.namespaceOf root = (firstNamespace? root).elim (.error .noNamespace) .ok := by
  have hhead : (root.coreChildren "namespace").head? = firstNamespace? root := by
    rw [Element.coreChildren, List.head?_filter, firstNamespace?]
    rfl
  rw [Gir.namespaceOf, ← hhead]
  cases root.coreChildren "namespace" <;> rfl

/-- What a text comes to, by what it is. -/
inductive ComesTo (settings : Settings) (text : String) :
    Except StructuralError Compilation → Prop
  | malformed (h : document? text = none) : ComesTo settings text (.error .malformed)
  | noRepository {root : Element} (h : document? text = some root)
      (hkind : root.kind ≠ "repository") : ComesTo settings text (.error .noRepository)
  | noNamespace {root : Element} (h : document? text = some root)
      (hkind : root.kind = "repository") (hspace : firstNamespace? root = none) :
      ComesTo settings text (.error .noNamespace)
  | compiled {root space : Element} (h : document? text = some root)
      (hkind : root.kind = "repository") (hspace : firstNamespace? root = some space) :
      ComesTo settings text
        (.ok ⟨compile settings (includedVersions root) space, compileJournal settings space⟩)

variable {settings : Settings} {text : String}

theorem comesTo_compileDocument (settings : Settings) (text : String) :
    ComesTo settings text (compileDocument settings text) := by
  rw [compileDocument, repository]
  cases hdocument : document? text with
  | none => exact .malformed hdocument
  | some root =>
    dsimp only
    split
    · next hkind =>
      simp only [bind, Except.bind, namespaceOf_eq]
      cases hspace : firstNamespace? root with
      | none => exact .noNamespace hdocument hkind hspace
      | some space => exact .compiled hdocument hkind hspace
    · next hkind => exact .noRepository hdocument hkind

/-- A text comes to one thing only. -/
theorem ComesTo.unique {x y : Except StructuralError Compilation} (hx : ComesTo settings text x)
    (hy : ComesTo settings text y) : x = y := by
  -- two different constructors say different things of the same text
  cases hx <;> cases hy <;> simp_all

/-- **A text is compiled to what it comes to.** -/
theorem compileDocument_eq_iff {x : Except StructuralError Compilation} :
    compileDocument settings text = x ↔ ComesTo settings text x :=
  ⟨fun h => h ▸ comesTo_compileDocument settings text,
    (comesTo_compileDocument settings text).unique⟩

theorem comesTo_malformed_iff :
    ComesTo settings text (.error .malformed) ↔ document? text = none := by
  constructor
  · intro h
    cases h with
    | malformed h => exact h
  · exact .malformed

theorem comesTo_noRepository_iff :
    ComesTo settings text (.error .noRepository) ↔
      ∃ root, document? text = some root ∧ root.kind ≠ "repository" := by
  constructor
  · intro h
    cases h with
    | noRepository h hkind => exact ⟨_, h, hkind⟩
  · rintro ⟨root, h, hkind⟩
    exact .noRepository h hkind

theorem comesTo_noNamespace_iff :
    ComesTo settings text (.error .noNamespace) ↔
      ∃ root, document? text = some root ∧ root.kind = "repository" ∧
        ∀ child ∈ root.children, child.name ≠ namespaceName := by
  constructor
  · intro h
    cases h with
    | noNamespace h hkind hspace => exact ⟨_, h, hkind, firstNamespace?_eq_none_iff.1 hspace⟩
  · rintro ⟨root, h, hkind, hspace⟩
    exact .noNamespace h hkind (firstNamespace?_eq_none_iff.2 hspace)

theorem comesTo_ok_iff {c : Compilation} :
    ComesTo settings text (.ok c) ↔
      ∃ root space, document? text = some root ∧ root.kind = "repository" ∧
        firstNamespace? root = some space ∧
        c = ⟨compile settings (includedVersions root) space, compileJournal settings space⟩ := by
  constructor
  · intro h
    cases h with
    | compiled h hkind hspace => exact ⟨_, _, h, hkind, hspace, rfl⟩
  · rintro ⟨root, space, h, hkind, hspace, rfl⟩
    exact .compiled h hkind hspace

/-! ### Reasons -/

theorem eq_of_message_eq {cause other : StructuralError}
    (h : cause.message = other.message) : cause = other := by
  cases cause <;> cases other <;> revert h <;> decide

/-- Whether a text cannot be compiled, with some wording of the reason. -/
def FailsWith (settings : Settings) (text message : String) : Prop :=
  ∃ cause, compileDocument settings text = .error cause ∧ cause.message = message

/-- The wording tells the reason. -/
theorem failsWith_iff (cause : StructuralError) {message : String} (h : cause.message = message) :
    FailsWith settings text message ↔ ComesTo settings text (.error cause) := by
  rw [← compileDocument_eq_iff]
  constructor
  · rintro ⟨other, hother, hmessage⟩
    rw [hother, eq_of_message_eq (hmessage.trans h.symm)]
  · exact fun hcause => ⟨cause, hcause, h⟩

/-- **What comes of a text.**  It is malformed exactly if it is no document, there is no
repository exactly if its root is of another kind, and no namespace exactly if the repository
has no child of that name; in every other case there comes the module of the first such child,
with the versions that the repository includes.  Whatever elements inside the namespace lack
what their readers need, these skips are noted and are no reason to stop. -/
theorem outcome_of_document (settings : Settings) (text : String) :
    (FailsWith settings text "Malformed GIR document" ↔ document? text = none) ∧
    (FailsWith settings text "Cannot find repository." ↔
      ∃ root, document? text = some root ∧ root.kind ≠ "repository") ∧
    (FailsWith settings text "Cannot find namespace." ↔
      ∃ root, document? text = some root ∧ root.kind = "repository" ∧
        ∀ child ∈ root.children, child.name ≠ namespaceName) ∧
    (∀ c, compileDocument settings text = .ok c ↔
      ∃ root space, document? text = some root ∧ root.kind = "repository" ∧
        firstNamespace? root = some space ∧
        c = ⟨compile settings (includedVersions root) space, compileJournal settings space⟩) ∧
    ∀ space child : Element, child ∈ space.children → ∀ s, Raises settings.camel child s →
      Notes (compileJournal settings space) s := by
  refine ⟨?_, ?_, ?_, fun c => ?_, fun space child hchild s h =>
    notes_compileJournal settings hchild h⟩
  · exact (failsWith_iff .malformed rfl).trans comesTo_malformed_iff
  · exact (failsWith_iff .noRepository rfl).trans comesTo_noRepository_iff
  · exact (failsWith_iff .noNamespace rfl).trans comesTo_noNamespace_iff
  · exact compileDocument_eq_iff.trans comesTo_ok_iff

/-! ### A document -/

/-- The characters of a document in which nothing has a name. -/
def namelessChars : List Char :=
  "<repository xmlns='".toList ++ coreNamespace.toList ++
    "'><namespace><function><parameters><parameter/></parameters></function>".toList ++
    "</namespace></repository>".toList

/-- The pieces of the document. -/
def namelessPieces : List Piece :=
  [.opens ⟨none, "repository"⟩ [(⟨none, "xmlns"⟩, coreNamespace.toList)] false,
    .opens ⟨none, "namespace"⟩ [] false, .opens ⟨none, "function"⟩ [] false,
    .opens ⟨none, "parameters"⟩ [] false, .opens ⟨none, "parameter"⟩ [] true,
    .closes ⟨none, "parameters"⟩, .closes ⟨none, "function"⟩, .closes ⟨none, "namespace"⟩,
    .closes ⟨none, "repository"⟩]

/-- The function in the document, with its parameter. -/
def namelessFunction : Element :=
  coreElement "function" none [coreElement "parameters" none [coreElement "parameter" none []]]

/-- The root of the document. -/
def namelessRoot : Element :=
  coreElement "repository" none [coreElement "namespace" none [namelessFunction]]

theorem document?_nameless : document? (.ofList namelessChars) = some namelessRoot := by
  have hstart : ['<', 'r'] <+: namelessChars := by decide
  have hlayout : layout? namelessChars =
      some (⟨8388451, false, false, true, [], []⟩, namelessPieces, []) := by
    decide +kernel
  have hroot : rootOf? ⟨8388451, false, false, true, [], []⟩ namelessPieces [] =
      some namelessRoot := by
    cbv
  rw [document?_of_layout? hstart (by decide) hlayout, hroot]

/-- The document is compiled, and both that the parameter and that the function have no name is
noted. -/
theorem outcome_of_nameless :
    ∃ c, compileDocument {} (.ofList namelessChars) = .ok c ∧
      Notes c.journal ⟨"parameter", "name"⟩ ∧ Notes c.journal ⟨"function", "name"⟩ := by
  obtain ⟨-, -, -, hcompiled, hnoted⟩ := outcome_of_document {} (.ofList namelessChars)
  have hfunction : namelessFunction ∈ (coreElement "namespace" none [namelessFunction]).children :=
    List.mem_singleton_self _
  refine ⟨_, (hcompiled _).2 ⟨namelessRoot, _, document?_nameless, rfl, rfl, rfl⟩, ?_, ?_⟩
  · exact hnoted _ _ hfunction _ (.parameter rfl (List.mem_singleton_self _) rfl)
  · exact hnoted _ _ hfunction _ (.function rfl rfl)

end GirTypings
