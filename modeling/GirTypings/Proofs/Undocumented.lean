import GirTypings.Proofs.BareLines
import GirTypings.Proofs.Selection

/-!
# Text without documentation

If doc comments are not wanted, what documentation says cannot be told from the module.
An element and its skeleton make modules that differ in comments only, so without comments
they come to the same; and two elements that differ in docs have the same skeleton.

* `output_skeleton`: a module without comments;
* `bare_output_without_docs`: leaving out docs changes nothing in such a module, and
  documents that differ in docs only have the same.
-/

namespace GirTypings

open Declaration Gir Registry Xml

variable (e : Element) (settings : Settings) (versions : Table String String)

/-! ### What comes out -/

/-- What compiling a namespace comes to: everything but how the text was laid out. -/
structure Output where
  /-- The name of the namespace. -/
  space : String
  /-- Its version. -/
  version : String
  /-- The text of the module. -/
  text : String
  /-- The imported namespaces. -/
  imports : List String
  /-- The names of the classes that could not be ordered. -/
  stalled : List String
  /-- Whether the text is made of characters. -/
  writable : Bool
deriving DecidableEq

/-- What a module comes to. -/
def Module.output (m : Module) : Output :=
  ⟨m.space, m.version, m.text, m.imports, m.stalled, m.writable⟩

/-- The text of a module without comments is made of bare lines. -/
theorem text_of_bare {m : Module} (h : m.documented = false) :
    m.text = Text.joinWith "\n\n"
      (m.headerBlocks ++ (m.layouts.map Layout.bareLines).map Text.joinLines) ++ "\n" := by
  rw [Module.text, Module.blocks, h, List.map_map]
  rfl

/-- **Without comments an element and its skeleton come to the same.** -/
theorem output_skeleton (hbare : settings.documented = false) :
    (compile settings versions e.skeleton).output = (compile settings versions e).output := by
  have htext : (compile settings versions e.skeleton).text =
      (compile settings versions e).text := by
    rw [text_of_bare (m := compile settings versions e.skeleton) hbare,
      text_of_bare (m := compile settings versions e) hbare, map_bare_layouts_skeleton,
      Module.headerBlocks, Module.headerBlocks, header_skeleton]
  rw [Module.output, htext]
  simp only [compile, imports_skeleton, stalledNames_skeleton, Element.attr?_skeleton]
  rfl

/-! ### Documents -/

/-- What a document with a root comes to, if it has one. -/
def rootOutput (settings : Settings) : Option Element → Except StructuralError Output
  | none => .error .malformed
  | some root =>
    if root.kind = "repository" then
      (Gir.namespaceOf root).map fun space =>
        (compile settings (includedVersions root) space).output
    else .error .noRepository

theorem map_output_compileDocument (text : String) :
    (compileDocument settings text).map (·.result.output) =
      rootOutput settings (document? text) := by
  rw [compileDocument, Gir.repository]
  cases document? text with
  | none => rfl
  | some root =>
    simp only [rootOutput]
    split
    · simp only [bind, Except.bind, pure, Except.pure]
      cases Gir.namespaceOf root <;> rfl
    · rfl

theorem rootOutput_skeleton (hbare : settings.documented = false) (root : Option Element) :
    rootOutput settings (root.map Element.skeleton) = rootOutput settings root := by
  cases root with
  | none => rfl
  | some root =>
    rw [Option.map_some, rootOutput, rootOutput, Element.kind_skeleton, namespaceOf_skeleton,
      includedVersions_skeleton]
    cases Gir.namespaceOf root with
    | error => rfl
    | ok space => simp only [Except.map, output_skeleton space settings _ hbare]

/-- **Documentation does not show in a module without comments.**  Leaving out the elements
of kind `doc`, at any depth and with all that is in them, changes nothing that a namespace
comes to; neither does any other change of such elements and of text, in a namespace or
in a whole document.  What is read from a text comes to what its root does. -/
theorem bare_output_without_docs (settings : Settings) (hbare : settings.documented = false) :
    (∀ versions e, (compile settings versions e.withoutDocs).output =
      (compile settings versions e).output) ∧
    (∀ versions e e', Element.skeleton e = Element.skeleton e' →
      (compile settings versions e).output = (compile settings versions e').output) ∧
    (∀ root root', Option.map Element.skeleton root = Option.map Element.skeleton root' →
      rootOutput settings root = rootOutput settings root') ∧
    ∀ text, (compileDocument settings text).map (·.result.output) =
      rootOutput settings (document? text) := by
  have hsame : ∀ versions e e', Element.skeleton e = Element.skeleton e' →
      (compile settings versions e).output = (compile settings versions e').output := by
    intro versions e e' h
    rw [← output_skeleton e settings versions hbare, h, output_skeleton e' settings versions hbare]
  refine ⟨fun versions e => ?_, hsame, fun root root' h => ?_, map_output_compileDocument settings⟩
  · exact hsame versions _ _ e.skeleton_withoutDocs
  · rw [← rootOutput_skeleton settings hbare, h, rootOutput_skeleton settings hbare]

/-- A namespace with a class and its method, and with some docs in front of all that can be
documented. -/
def spoken (docs : List Element) : Element :=
  coreElement "namespace" (some "Sample") (docs ++
    [coreElement "class" (some "Speaker") (docs ++
      [coreElement "method" (some "say") (docs ++
        [coreElement "parameters" none (docs ++
          [coreElement "parameter" (some "words") (docs ++
            [coreElement "array" none (docs ++ [coreElement "type" (some "utf8") []])])]),
         coreElement "return-value" none (docs ++ [coreElement "type" (some "gboolean") []])])])])

/-- A document with a spoken namespace. -/
def spokenDocument (docs : List Element) : Element :=
  coreElement "repository" none (docs ++ [spoken docs])

/-- A class and its method come to the same with docs and without, and so does a document. -/
theorem bare_output_of_spoken :
    Settings.documented { documentation := .bool false } = false ∧
    Element.skeleton (spoken [docElement "Loud */", docElement "and clear."]) =
      Element.skeleton (spoken []) ∧
    (compile { documentation := .bool false } []
      (spoken [docElement "Loud */", docElement "and clear."])).output =
        (compile { documentation := .bool false } [] (spoken [])).output ∧
    (compile { documentation := .bool false, originComment := .bool false } [] (spoken [])).text =
      "export class Speaker \x7b\n    say(words: string[]): boolean;\n\x7d\n" ∧
    Option.map Element.skeleton (spokenDocument [docElement "Loud */"]) =
      Option.map Element.skeleton (spokenDocument []) ∧
    rootOutput { documentation := .bool false } (spokenDocument [docElement "Loud */"]) =
      rootOutput { documentation := .bool false } (spokenDocument []) := by
  have hsilent : Settings.documented { documentation := .bool false } = false := rfl
  have hspoken : Element.skeleton (spoken [docElement "Loud */", docElement "and clear."]) =
      Element.skeleton (spoken []) := by rfl
  have hdocument : Option.map Element.skeleton (spokenDocument [docElement "Loud */"]) =
      Option.map Element.skeleton (spokenDocument []) := by rfl
  obtain ⟨-, htrees, hdocuments, -⟩ :=
    bare_output_without_docs { documentation := .bool false } hsilent
  refine ⟨hsilent, hspoken, htrees [] _ _ hspoken, ?_, hdocument, hdocuments _ _ hdocument⟩
  decide +kernel

end GirTypings
