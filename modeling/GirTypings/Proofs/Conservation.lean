import Mathlib.Data.List.Basic
import GirTypings.Proofs.Selection

/-!
# No child is lost

A child of a namespace is **declared** if it is of one of the six kinds that make
declarations and has a name; every other child is **omitted**.  A declared child leaves
one block in the text and no entry of the compiler in the journal, an omitted child the
reverse.  The readers inside a child write to channels of their own, whatever they leave
out (`TellsOmissions`), so they do not disturb this.

* `compilerEntries_childJournal`: what the compiler notes of one child;
* `perm_declaredBlocks`: the blocks after the header come from the declared children, one
  from each;
* `children_declared_or_omitted`: the account of a whole namespace.
-/

namespace GirTypings

open Declaration Gir Registry Xml

/-! ### The entries of the compiler -/

/-- The channel of the compiler of namespaces. -/
def compilerChannel : String :=
  "gir_to_dts.generator"

/-- The entries at the lowest level that the compiler of namespaces itself writes. -/
def compilerEntries (journal : List Entry) : List Entry :=
  journal.filter fun entry => entry.level = .debug ∧ entry.channel = compilerChannel

theorem compilerEntries_append (journal more : List Entry) :
    compilerEntries (journal ++ more) = compilerEntries journal ++ compilerEntries more :=
  List.filter_append ..

theorem compilerEntries_flatMap {α : Type} (items : List α) (journal : α → List Entry) :
    compilerEntries (items.flatMap journal) =
      items.flatMap fun item => compilerEntries (journal item) :=
  List.filter_flatMap ..

/-- Whether a journal was written to other channels than that of the compiler. -/
def OfReaders (journal : List Entry) : Prop :=
  ∀ entry ∈ journal, entry.channel ≠ compilerChannel

namespace OfReaders

theorem nil : OfReaders [] :=
  fun _ h => nomatch h

theorem singleton {entry : Entry} (h : entry.channel ≠ compilerChannel) : OfReaders [entry] := by
  intro other hother
  rwa [List.mem_singleton.1 hother]

theorem compilerEntries_eq_nil {journal : List Entry} (h : OfReaders journal) :
    compilerEntries journal = [] := by
  rw [compilerEntries, List.filter_eq_nil_iff]
  intro entry hentry
  simp [h entry hentry]

end OfReaders

/-! ### The journals of the readers -/

/-- Whether a journal tells what readers leave out: at the lowest level, and on channels of
their own. -/
def TellsOmissions (journal : List Entry) : Prop :=
  ∀ entry ∈ journal, entry.level = .debug ∧ entry.channel ≠ compilerChannel

namespace TellsOmissions

theorem ofReaders {journal : List Entry} (h : TellsOmissions journal) : OfReaders journal :=
  fun entry hentry => (h entry hentry).2

theorem nil : TellsOmissions [] :=
  fun _ h => nomatch h

theorem singleton {entry : Entry} (hlevel : entry.level = .debug)
    (hchannel : entry.channel ≠ compilerChannel) : TellsOmissions [entry] :=
  List.forall_mem_singleton.2 ⟨hlevel, hchannel⟩

theorem append {journal more : List Entry} (h : TellsOmissions journal)
    (hmore : TellsOmissions more) : TellsOmissions (journal ++ more) := by
  intro entry hentry
  exact (List.mem_append.1 hentry).elim (h entry) (hmore entry)

theorem flatMap {α : Type} {items : List α} {journal : α → List Entry}
    (h : ∀ item ∈ items, TellsOmissions (journal item)) :
    TellsOmissions (items.flatMap journal) := by
  intro entry hentry
  obtain ⟨item, hitem, hjournal⟩ := List.mem_flatMap.1 hentry
  exact h item hitem entry hjournal

end TellsOmissions

theorem channelName_signature_ne : channelName "signature" ≠ compilerChannel := by decide

theorem channelName_class_graph_ne : channelName "class_graph" ≠ compilerChannel := by decide

theorem tellsOmissions_skipEntry {α : Type} (whose : String) (result : Except Skip α) :
    TellsOmissions (Element.skipEntry "class_graph" whose result) := by
  cases result with
  | ok => exact .nil
  | error => exact .singleton rfl channelName_class_graph_ne

theorem tellsOmissions_signatureJournal (e : Element) : TellsOmissions e.signatureJournal := by
  intro entry hentry
  obtain ⟨p, -, hp⟩ := List.mem_filterMap.1 hentry
  split at hp
  · cases hp
  · obtain rfl := Option.some.inj hp
    exact ⟨rfl, channelName_signature_ne⟩

theorem tellsOmissions_memberJournal (isInterface : Bool) (className : String) (m : Element) :
    TellsOmissions (m.memberJournal isInterface className) := by
  have hskip := tellsOmissions_skipEntry ("member of " ++ className) (m.require "name")
  have hsignature := tellsOmissions_signatureJournal m
  rw [Element.memberJournal]
  repeat' split
  · exact hskip
  · exact hsignature.append hskip
  · exact .singleton rfl channelName_class_graph_ne
  · exact hsignature.append hskip
  · exact hsignature
  · exact hskip
  · exact .nil

theorem tellsOmissions_classJournal (e : Element) : TellsOmissions e.classJournal := by
  rw [Element.classJournal]
  split
  · exact .nil
  · exact .flatMap fun m _ => tellsOmissions_memberJournal e.isInterface _ m

theorem tellsOmissions_enumerationJournal (e : Element) :
    TellsOmissions e.enumerationJournal := by
  rw [Element.enumerationJournal]
  split
  · exact .nil
  · exact .flatMap fun m _ => tellsOmissions_skipEntry _ m.enumerationMember

theorem ofReaders_journal (o : Ordering Layout) : OfReaders o.journal := by
  rw [Ordering.journal]
  split
  · exact .nil
  · exact .singleton channelName_class_graph_ne

/-! ### One child -/

/-- Whether a child of a namespace is declared. -/
def isDeclared (e : Element) : Bool :=
  (isLoose e || isRegistered e) && isNamed e

/-- The entry for a child of a namespace that is left out: of a known kind without a name,
or of another kind. -/
def omission (space : String) (e : Element) : Entry where
  level := .debug
  channel := compilerChannel
  message :=
    if isLoose e || isRegistered e then
      "Skipping element of namespace " ++ space ++ ": " ++ Skip.message ⟨e.kind, "name"⟩
    else "Ignoring <" ++ e.kind ++ "> in namespace " ++ space

/-- What the compiler notes of a child of a known kind, behind what a reader wrote. -/
theorem compilerEntries_append_skipEntry {journal : List Entry} (hjournal : OfReaders journal)
    (space : String) {e : Element} (h : (isLoose e || isRegistered e) = true) :
    compilerEntries (journal ++
        Element.skipEntry "generator" ("element of namespace " ++ space) (e.require "name")) =
      if isDeclared e then [] else [omission space e] := by
  rw [compilerEntries_append, hjournal.compilerEntries_eq_nil, List.nil_append, isDeclared, h,
    isNamed, omission, if_pos h, Element.require]
  cases e.attr? "name" with
  | some name => rfl
  | none =>
    have hmessage : "Skipping " ++ ("element of namespace " ++ space) =
        "Skipping element of namespace " ++ space := String.append_assoc.symm
    rw [Element.skipEntry, hmessage]
    rfl

/-- **What the compiler notes of one child**: nothing if the child is declared, and one
entry if it is omitted. -/
theorem compilerEntries_childJournal (space : String) (e : Element) :
    compilerEntries (childJournal space e) = if isDeclared e then [] else [omission space e] := by
  simp only [childJournal]
  by_cases hclass : isClassLike e = true
  · rw [if_pos hclass]
    exact compilerEntries_append_skipEntry (tellsOmissions_classJournal e).ofReaders space
      (by simp [isRegistered, hclass])
  rw [if_neg hclass]
  by_cases henum : isEnumerationLike e = true
  · rw [if_pos henum]
    exact compilerEntries_append_skipEntry (tellsOmissions_enumerationJournal e).ofReaders space
      (by simp [isRegistered, henum])
  rw [if_neg henum]
  by_cases hfunction : e.kind = "function"
  · rw [if_pos hfunction]
    exact compilerEntries_append_skipEntry (tellsOmissions_signatureJournal e).ofReaders space
      (by simp [isLoose, hfunction])
  rw [if_neg hfunction]
  by_cases hconstant : e.kind = "constant"
  · rw [if_pos hconstant]
    exact compilerEntries_append_skipEntry .nil space (by simp [isLoose, hconstant])
  -- a child of any other kind
  have hunknown : (isLoose e || isRegistered e) = false := by
    simp [isLoose, isRegistered, hclass, henum, hfunction, hconstant]
  rw [if_neg hconstant, isDeclared, omission, hunknown]
  rfl

/-- The compiler notes the omitted children, in document order. -/
theorem compilerEntries_compileJournal (settings : Settings) (e : Element) :
    compilerEntries (compileJournal settings e) =
      (e.children.filter fun child => !isDeclared child).map
        (omission ((e.attr? "name").getD "")) := by
  rw [compileJournal, compilerEntries_append, (ofReaders_journal _).compilerEntries_eq_nil,
    List.append_nil, compilerEntries_flatMap]
  induction e.children with
  | nil => rfl
  | cons child rest ih =>
    rw [List.flatMap_cons, ih, compilerEntries_childJournal]
    cases h : isDeclared child <;> simp [h]

/-! ### Blocks -/

/-- The blocks of a module behind its header. -/
def declaredBlocks (settings : Settings) (e : Element) : List String :=
  looseBlocks settings e ++ recordBlocks settings e

/-- The block that a child leaves in a module. -/
def childBlock? (settings : Settings) (child : Element) : Option String :=
  (looseBlock? settings child).or (declarationBlock? settings child)

theorem isSome_looseBlock? (settings : Settings) (child : Element) :
    (looseBlock? settings child).isSome = (isLoose child && isNamed child) := by
  rw [looseBlock?, Option.isSome_map, isSome_looseLayout?]

theorem isSome_declarationBlock? (settings : Settings) (child : Element) :
    (declarationBlock? settings child).isSome = (isRegistered child && isNamed child) := by
  rw [declarationBlock?, Option.isSome_map, isSome_record?]

theorem isSome_childBlock? (settings : Settings) (child : Element) :
    (childBlock? settings child).isSome = isDeclared child := by
  rw [childBlock?, Option.isSome_or, isSome_looseBlock?, isSome_declarationBlock?, isDeclared,
    Bool.and_or_distrib_right]

/-- What is registered is neither a function nor a constant. -/
theorem isLoose_of_isRegistered {e : Element} (h : isRegistered e = true) :
    isLoose e = false := by
  simp only [isRegistered, isClassLike, isEnumerationLike, Bool.or_eq_true, beq_iff_eq] at h
  rcases h with (h | h) | (h | h) <;> rw [isLoose, h] <;> decide

/-- No child leaves two blocks. -/
theorem looseBlock?_eq_none_or (settings : Settings) (child : Element) :
    looseBlock? settings child = none ∨ declarationBlock? settings child = none := by
  cases h : isRegistered child with
  | true =>
    left
    rw [← Option.not_isSome_iff_eq_none, isSome_looseBlock?, isLoose_of_isRegistered h]
    exact Bool.false_ne_true
  | false =>
    right
    rw [← Option.not_isSome_iff_eq_none, isSome_declarationBlock?, h]
    exact Bool.false_ne_true

/-- What two readers make one after the other is what they make together, if they never
answer for the same item. -/
theorem perm_filterMap_or {α β : Type} {f g : α → Option β}
    (h : ∀ a, f a = none ∨ g a = none) (items : List α) :
    (items.filterMap f ++ items.filterMap g).Perm
      (items.filterMap fun a => (f a).or (g a)) := by
  induction items with
  | nil => exact .nil
  | cons a rest ih =>
    rw [List.filterMap_cons, List.filterMap_cons, List.filterMap_cons]
    rcases h a with hf | hg
    · rw [hf, Option.none_or]
      cases g a with
      | none => exact ih
      | some b => exact List.perm_middle.trans (ih.cons b)
    · rw [hg, Option.or_none]
      cases f a with
      | none => exact ih
      | some b => exact ih.cons b

/-- **The blocks behind the header are those of the children**, one from each child that
is declared.  Only their order is another, for the records are put into theirs. -/
theorem perm_declaredBlocks (settings : Settings) (e : Element) :
    (declaredBlocks settings e).Perm (e.children.filterMap (childBlock? settings)) := by
  have hloose : looseBlocks settings e = e.children.filterMap (looseBlock? settings) := by
    rw [looseBlocks, looseLayouts, List.map_filterMap]
    rfl
  have hrecords : (recordBlocks settings e).Perm
      (e.children.filterMap (declarationBlock? settings)) := by
    have hperm := (arranges_order (records settings.camel e)).perm.map (recordBlock settings)
    rw [records, List.map_filterMap] at hperm
    exact hperm
  -- the two groups are apart in the text and mixed in the document
  rw [declaredBlocks, hloose]
  exact (hrecords.append_left _).trans (perm_filterMap_or (looseBlock?_eq_none_or settings) _)

/-! ### A whole namespace -/

/-- **Every child is declared or omitted, and counts once.**  The text of a module is made
of the header and of the blocks of the declared children, one from each; the compiler
notes the omitted children, one entry for each and in document order; no child is both or
neither.  So there are as many children as blocks behind the header and entries of the
compiler together. -/
theorem children_declared_or_omitted (settings : Settings) (versions : Table String String)
    (e : Element) :
    (compile settings versions e).text =
      Text.joinWith "\n\n"
        ((compile settings versions e).headerBlocks ++ declaredBlocks settings e) ++ "\n" ∧
    ((declaredBlocks settings e).map some).Perm
      ((e.children.filter isDeclared).map (childBlock? settings)) ∧
    compilerEntries (compileJournal settings e) =
      (e.children.filter fun child => !isDeclared child).map
        (omission ((e.attr? "name").getD "")) ∧
    (∀ (space : String) (child : Element),
      (childBlock? settings child).isSome = isDeclared child ∧
      compilerEntries (childJournal space child) =
        if isDeclared child then [] else [omission space child]) ∧
    e.children.length =
      (declaredBlocks settings e).length +
        (compilerEntries (compileJournal settings e)).length := by
  have hblocks : ((declaredBlocks settings e).map some).Perm
      ((e.children.filter isDeclared).map (childBlock? settings)) := by
    rw [← map_some_filterMap (isSome_childBlock? settings)]
    exact (perm_declaredBlocks settings e).map some
  have hentries := compilerEntries_compileJournal settings e
  refine ⟨?_, hblocks, hentries, fun space child => ?_, ?_⟩
  · rw [Module.text, blocks_eq]
    rfl
  · exact ⟨isSome_childBlock? settings child, compilerEntries_childJournal space child⟩
  · have hlength := hblocks.length_eq
    rw [List.length_map, List.length_map] at hlength
    rw [hlength, hentries, List.length_map]
    exact List.length_eq_length_filter_add isDeclared

end GirTypings
