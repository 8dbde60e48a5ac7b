import Mathlib
import GirTypings.Files.Tree
import GirTypings.Module

/-!
# Reading documents

A document is read in two steps.  Its characters are **laid out** first, as the type of the
document, the pieces of the outermost element and those after it (`layout?`); then the
pieces become a tree (`rootOf?`).  A text that starts with markup is read as its characters
stand, and the bytes of a text hold the text, so that a file with such a document can be
read step by step.

* `textOfBytes?_toUTF8`: the bytes of a text hold it, with its newlines made line feeds;
* `rootOf?_of_tokens?`: what the pieces make where no entities are declared;
* `document?_of_layout?`: a laid out document is what its pieces make;
* `compileDocument_of_document?`: what a document is compiled to.
-/

namespace GirTypings

open Files Gir Xml

/-! ### Bytes -/

theorem fromUTF8?_toUTF8 (t : String) : String.fromUTF8? t.toUTF8 = some t := by
  rw [String.fromUTF8?, String.toUTF8_eq_toByteArray, dif_pos t.isValidUTF8]
  rfl

/-- **The bytes of a text hold it**, with its newlines made line feeds. -/
theorem textOfBytes?_toUTF8 (t : String) :
    Tree.textOfBytes? t.toUTF8 = some (Text.unifyNewlines t) := by
  rw [Tree.textOfBytes?, fromUTF8?_toUTF8]
  rfl

/-! ### Documents -/

namespace Xml

deriving instance DecidableEq for Doctype

/-- What the characters of a document are laid out as: its type, the pieces of the
outermost element, and those after it. -/
def layout? (cs : List Char) : Option (Doctype × List Piece × List Piece) := do
  guard (cs.all isDocumentChar)
  let (doctype, pieces) ←
    (do return (← prolog (allowance (byteCount cs)), ← piece.many) : Scanner Char _).all?
      (Text.unifyNewlineChars cs)
  return (doctype, ← splitRoot? 0 pieces)

/-- The outermost element that the pieces of a document make. -/
def rootOf? (doctype : Doctype) (inside outside : List Piece) : Option Element := do
  guard (outside.all Piece.isEpilog)
  guard (opensWithin doctype.allowed doctype.entities (inside.flatMap Piece.entityNames))
  elementOf? [] (← doctype.tokens? doctype.entities inside)

/-- Nothing is opened where there are no entities. -/
theorem opensWithin_nil (limit : Nat) (names : List String) : opensWithin limit [] names = true := by
  have hnothing : openedSize [] [] names = (0, []) := by
    induction names with
    | nil => rw [openedSize]
    | cons name rest ih =>
      rw [openedSize]
      exact ih
  rw [opensWithin, hnothing]
  exact decide_eq_true (Nat.zero_le limit)

/-- Where no entities are declared, the outermost element is what the tokens make. -/
theorem rootOf?_of_tokens? {doctype : Doctype} (hentities : doctype.entities = [])
    {inside outside : List Piece} (houtside : outside.all Piece.isEpilog = true) {tokens : List Token}
    (htokens : doctype.tokens? [] inside = some tokens) :
    rootOf? doctype inside outside = elementOf? [] tokens := by
  have hepilog : guard (outside.all Piece.isEpilog = true) = some () :=
    (Option.guard_eq_some' ()).2 houtside
  have hopened : guard (opensWithin doctype.allowed [] (inside.flatMap Piece.entityNames) = true) =
      some () :=
    (Option.guard_eq_some' ()).2 (opensWithin_nil _ _)
  simp only [rootOf?, hentities, hepilog, hopened, htokens, bind, Option.bind_some]

/-- **A laid out document is what its pieces make**, if its text starts with markup. -/
theorem document?_of_layout? {cs : List Char} {c : Char} (hstart : ['<', c] <+: cs)
    (hc : c ≠ '\x00') {doctype : Doctype} {inside outside : List Piece}
    (hlayout : layout? cs = some (doctype, inside, outside)) :
    document? (.ofList cs) = rootOf? doctype inside outside := by
  obtain ⟨rest, rfl⟩ := hstart
  have hrecognize : recognize? (.ofList ('<' :: c :: rest)) = some ('<' :: c :: rest) := by
    simp [recognize?, String.toList_ofList, hc]
  have hsplit : document? (.ofList ('<' :: c :: rest)) =
      (layout? ('<' :: c :: rest)).bind fun x => rootOf? x.1 x.2.1 x.2.2 := by
    simp only [document?, hrecognize, layout?, rootOf?, bind, Option.bind_assoc, pure,
      Option.bind_some]
    rfl
  exact hsplit.trans (by rw [show layout? ('<' :: c :: rest) = _ from hlayout]; rfl)

end Xml

/-- A file with a document that starts with markup holds what its pieces make. -/
theorem document?_of_bytes {cs : List Char} {c : Char}
    (hstart : ['<', c] <+: Text.unifyNewlineChars cs) (hc : c ≠ '\x00') {doctype : Doctype}
    {inside outside : List Piece}
    (hlayout : layout? (Text.unifyNewlineChars cs) = some (doctype, inside, outside)) :
    (Tree.textOfBytes? (String.ofList cs).toUTF8).bind document? =
      rootOf? doctype inside outside := by
  rw [textOfBytes?_toUTF8, Option.bind_some, Text.unifyNewlines, String.toList_ofList,
    document?_of_layout? hstart hc hlayout]

/-- **A document whose root has a namespace is compiled.** -/
theorem compileDocument_of_document? {settings : Settings} {text : String} {root space : Element}
    (hroot : document? text = some root) (hkind : root.kind = "repository")
    (hspace : namespaceOf root = .ok space) :
    compileDocument settings text =
      .ok ⟨compile settings (includedVersions root) space, compileJournal settings space⟩ := by
  rw [compileDocument, repository, hroot]
  simp only [hkind, if_pos]
  simp only [bind, Except.bind, hspace, pure, Except.pure]

/-! ### A document -/

/-- The characters of a document with an empty namespace of some version. -/
def gtkChars (version : String) : List Char :=
  "<repository xmlns='".toList ++ coreNamespace.toList ++
    "'><namespace name='Gtk' version='".toList ++ version.toList ++ "'/></repository>".toList

/-- The bytes of the document. -/
def gtkBytes (version : String) : ByteArray :=
  (String.ofList (gtkChars version)).toUTF8

/-- The pieces of the document. -/
def gtkPieces (version : String) : List Piece :=
  [.opens ⟨none, "repository"⟩ [(⟨none, "xmlns"⟩, coreNamespace.toList)] false,
    .opens ⟨none, "namespace"⟩
      [(⟨none, "name"⟩, "Gtk".toList), (⟨none, "version"⟩, version.toList)] true,
    .closes ⟨none, "repository"⟩]

/-- The namespace in the document. -/
def gtkNamespace (version : String) : Element :=
  .mk ⟨some coreNamespace, "namespace"⟩
    [⟨⟨none, "name"⟩, "Gtk"⟩, ⟨⟨none, "version"⟩, version⟩] []

/-- The root of the document. -/
def gtkRoot (version : String) : Element :=
  .mk ⟨some coreNamespace, "repository"⟩ [] [.element (gtkNamespace version)]

/-- The text of its module. -/
def gtkText (version : String) : String :=
  "// Generated by gir_to_dts 0.1.0 from Gtk-" ++ version ++ ".gir\n"

/-- The versions that documents are shown of. -/
def gtkVersions : List String :=
  ["3.0", "4.0"]

theorem layout?_gtk : ∀ version ∈ gtkVersions,
    ['<', 'r'] <+: Text.unifyNewlineChars (gtkChars version) ∧
    layout? (Text.unifyNewlineChars (gtkChars version)) =
      some (⟨8388495, false, false, true, [], []⟩, gtkPieces version, []) := by
  decide +kernel

theorem rootOf?_gtk : ∀ version ∈ gtkVersions,
    rootOf? ⟨8388495, false, false, true, [], []⟩ (gtkPieces version) [] =
      some (gtkRoot version) := by
  rw [gtkVersions, List.forall_mem_cons, List.forall_mem_singleton]
  constructor
  · cbv
  · cbv

theorem document?_gtk {version : String} (h : version ∈ gtkVersions) :
    (Tree.textOfBytes? (gtkBytes version)).bind document? = some (gtkRoot version) := by
  obtain ⟨hstart, hlayout⟩ := layout?_gtk version h
  rw [gtkBytes, document?_of_bytes hstart (by decide) hlayout, rootOf?_gtk version h]

/-- What the document comes to. -/
def gtkCompilation (version : String) : Compilation :=
  ⟨compile {} [] (gtkNamespace version), []⟩

theorem compile_gtk : ∀ version ∈ gtkVersions,
    includedVersions (gtkRoot version) = [] ∧
    compileJournal {} (gtkNamespace version) = [] ∧
    (gtkCompilation version).result.writable = true ∧
    (gtkCompilation version).result.stalled = [] ∧
    (gtkCompilation version).result.text = gtkText version := by
  decide +kernel

/-- What a file with the document compiles to. -/
theorem compileDocument_gtk {version : String} (h : version ∈ gtkVersions) :
    (Tree.textOfBytes? (gtkBytes version)).map (compileDocument {}) =
      some (.ok (gtkCompilation version)) := by
  obtain ⟨text, htext, hroot⟩ := Option.bind_eq_some_iff.1 (document?_gtk h)
  obtain ⟨hversions, hjournal, -⟩ := compile_gtk version h
  have hcompiled : compileDocument {} text = _ := compileDocument_of_document? hroot rfl rfl
  rw [htext, Option.map_some, hcompiled, hversions, hjournal, gtkCompilation]

end GirTypings
