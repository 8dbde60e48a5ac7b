import GirTypings.Proofs.Annotation
import GirTypings.Proofs.BareLines
import GirTypings.Proofs.OneLineValues
import GirTypings.Proofs.Selection

/-!
# Reading the blocks of a module back

The blocks of a module are written with an empty line between neighbours.  If no value of
an attribute holds a line feed, and neither do the versions that are imported, all
layouts are solid, so the blocks are the paragraphs of the text: an empty line in the text
is a boundary between blocks and nothing else.  Text of any kind in the document, and so
all documentation, is free.

* `isSolid_of_mem_layouts`, `solid_of_mem_blocks`: layouts and blocks are solid;
* `decode_text_eq_blocks`: the blocks are read back from the text.
-/

namespace GirTypings

open Declaration Gir Registry Text Xml

variable {e : Element} (h : e.HasOneLineValues)

include h

/-! ### Modules -/

omit h in
/-- A version that is looked up is one of those in the table. -/
theorem oneLine_of_lookup {versions : Table String String}
    (hversions : ∀ v ∈ versions, OneLine v.2) {n v : String} (hv : versions.lookup n = some v) :
    OneLine v := by
  obtain ⟨front, back, rfl, -⟩ := List.lookup_eq_some_iff.1 hv
  exact hversions (n, v) (by simp)

theorem oneLine_of_mem_imports {settings : Settings} {n : String}
    (hn : n ∈ (orderedRecords settings e).imports) : OneLine n := by
  have hmem := (firstBy_sublist _).subset hn
  obtain ⟨r, hr, hforeign⟩ := List.mem_flatMap.1 hmem
  obtain ⟨p, hp, rfl⟩ := List.mem_map.1 hforeign
  obtain ⟨c, hc, hrecord⟩ := exists_child_of_mem_emission hr
  exact oneLine_namespaceOf ((isSolid_record? (h.child hc) hrecord).2 p (List.mem_filter.1 hp).1)

variable {settings : Settings} {versions : Table String String}

/-- **The layouts of a module are solid.** -/
theorem isSolid_of_mem_layouts {l : Layout} (hl : l ∈ (compile settings versions e).layouts) :
    l.IsSolid := by
  rcases List.mem_append.1 hl with hl | hl
  · obtain ⟨c, hc, hread⟩ := List.mem_filterMap.1 hl
    exact isSolid_looseLayout? (h.child hc) hread
  · obtain ⟨r, hr, rfl⟩ := List.mem_map.1 hl
    obtain ⟨c, hc, hrecord⟩ := exists_child_of_mem_emission hr
    exact (isSolid_record? (h.child hc) hrecord).1

/-- The header of a module. -/
def moduleHeader (settings : Settings) (versions : Table String String) (e : Element) : Header where
  comment := originComment settings ((e.attr? "name").getD "") ((e.attr? "version").getD "")
  imports := (orderedRecords settings e).imports.map fun n =>
    (n, (versions.lookup n).getD settings.fallbackVersion)

omit h in
theorem header_compile (settings : Settings) (versions : Table String String) (e : Element) :
    (compile settings versions e).header = (moduleHeader settings versions e).text := rfl

theorem isLine_of_mem_moduleHeader (hfallback : OneLine settings.fallbackVersion)
    (hversions : ∀ v ∈ versions, OneLine v.2) {l : String}
    (hl : l ∈ (moduleHeader settings versions e).lines) : IsLine l := by
  have hspace := h.getD_attr? "name"
  have hversion := h.getD_attr? "version"
  refine isLine_of_mem_header ?_ (fun i hi => ?_) hl
  · show OneLine (originComment settings _ _)
    rw [originComment]
    split
    · simp +decide [hspace, hversion]
    · decide
  · obtain ⟨n, hn, rfl⟩ := List.mem_map.1 hi
    refine ⟨oneLine_of_mem_imports h hn, ?_⟩
    show OneLine ((versions.lookup n).getD settings.fallbackVersion)
    cases hv : versions.lookup n with
    | none => exact hfallback
    | some v => exact oneLine_of_lookup hversions hv

/-- **The blocks of a module are solid.** -/
theorem solid_of_mem_blocks (hfallback : OneLine settings.fallbackVersion)
    (hversions : ∀ v ∈ versions, OneLine v.2) {b : String}
    (hb : b ∈ (compile settings versions e).blocks) : Solid b.toList := by
  rcases List.mem_append.1 hb with hb | hb
  · split at hb
    · cases hb
    · next hne =>
      rw [List.mem_singleton.1 hb]
      refine (eq_empty_or_solid_header fun l hl => ?_).resolve_left hne
      exact isLine_of_mem_moduleHeader h hfallback hversions hl
  · obtain ⟨l, hl, rfl⟩ := List.mem_map.1 hb
    exact solid_joinLines ((isProper_of_mem_layouts hl).lines_ne_nil _)
      fun _ hline => (isSolid_of_mem_layouts h hl).isLine hline

/-! ### Documents -/

/-- The versions that a repository tells are on one line. -/
theorem oneLine_of_mem_includedVersions {inclusion : String × String}
    (hmem : inclusion ∈ includedVersions e) : OneLine inclusion.2 := by
  obtain ⟨⟨name, version⟩, htold, heq⟩ := List.mem_map.1 (Table.value_mem_of_mem_ofEntries hmem)
  obtain ⟨c, hc, hread⟩ := List.mem_filterMap.1 htold
  obtain ⟨_, -, hrest⟩ := Option.bind_eq_some_iff.1 hread
  obtain ⟨version', hversion, hpair⟩ := Option.bind_eq_some_iff.1 hrest
  rw [← heq, ← (Prod.mk.inj (Option.some.inj hpair)).2]
  exact (h.coreChild hc).filled? hversion

theorem hasOneLineValues_of_namespaceOf {space : Element}
    (hspace : Gir.namespaceOf e = .ok space) : space.HasOneLineValues := by
  rw [Gir.namespaceOf] at hspace
  split at hspace
  · cases hspace
  · next first rest hchildren =>
    cases hspace
    exact h.coreChild (hchildren ▸ List.mem_cons_self ..)

omit h

/-- The number of blocks does not depend on docs, whether comments are written or not. -/
theorem length_blocks_skeleton (settings : Settings) (versions : Table String String)
    (e : Element) :
    (compile settings versions e.skeleton).blocks.length =
      (compile settings versions e).blocks.length := by
  have hlayouts := congrArg List.length (map_bare_layouts_skeleton e settings versions)
  rw [List.length_map, List.length_map] at hlayouts
  rw [Module.blocks, Module.blocks, List.length_append, List.length_append, List.length_map,
    List.length_map, hlayouts, header_skeleton]

/-- What stands between the empty lines of a text, up to the line feed at its end. -/
def decode (t : String) : List String :=
  paragraphs (.ofList t.toList.dropLast)

theorem decode_append_newline (body : String) : decode (body ++ "\n") = paragraphs body := by
  have hbody : (body ++ "\n").toList.dropLast = body.toList := by
    rw [String.toList_append]
    exact List.dropLast_concat
  rw [decode, hbody, String.ofList_toList]

/-- What a text of solid blocks is decoded to. -/
theorem decode_text {m : Module} (h : ∀ b ∈ m.blocks, Solid b.toList) :
    decode m.text = if m.blocks = [] then [""] else m.blocks := by
  rw [Module.text, decode_append_newline]
  split
  · next hnil =>
    rw [hnil]
    rfl
  · next hne => exact paragraphs_joinWith hne h

/-- A text of solid blocks ends in a line feed, and in no more than one. -/
theorem exists_text_eq_append_newline {m : Module} (h : ∀ b ∈ m.blocks, Solid b.toList) :
    ∃ body, m.text = body ++ "\n" ∧ ∀ rest, body ≠ rest ++ "\n" := by
  refine ⟨joinWith "\n\n" m.blocks, rfl, fun rest => ?_⟩
  by_cases hnil : m.blocks = []
  · intro heq
    rw [hnil] at heq
    exact absurd (String.append_eq_empty_iff.1 heq.symm).2 (by decide)
  · exact (endsInLine_joinWith hnil h).ne_append_newline rest

/-- **The blocks of a module are read back from its text**, for every document whose
attributes have values on one line, if the version to import where none is included is on
one line too.  The text ends in one line feed; what stands between the empty lines in
front of it are the blocks, if there are any: the header, one block for each named function
or constant in document order, and one for each record in the order of the registry.  No
block is empty, and as many are read back from any other document that differs in docs
and text only. -/
theorem decode_text_eq_blocks {settings : Settings} (hfallback : OneLine settings.fallbackVersion)
    {repository space : Element} (hvalues : repository.HasOneLineValues)
    (hspace : Gir.namespaceOf repository = .ok space) :
    let m := compile settings (includedVersions repository) space
    (∃ body, m.text = body ++ "\n" ∧ ∀ rest, body ≠ rest ++ "\n") ∧
    (m.blocks ≠ [] → decode m.text = m.blocks) ∧
    (∀ b ∈ m.blocks, b ≠ "") ∧
    m.blocks = m.headerBlocks ++ (looseBlocks settings space ++ recordBlocks settings space) ∧
    (looseBlocks settings space).map some = (looseChildren space).map (looseBlock? settings) ∧
    (∃ found : List (Record Layout),
      found.map some = (registeredChildren space).map (record? settings.camel) ∧
      (order found).emission.Perm found ∧
      recordBlocks settings space = (order found).emission.map (recordBlock settings)) ∧
    ∀ repository' space', repository'.HasOneLineValues →
      Element.skeleton repository' = Element.skeleton repository →
      Gir.namespaceOf repository' = .ok space' →
      (decode (compile settings (includedVersions repository') space').text).length =
        (decode m.text).length := by
  have hsolid : ∀ {r s : Element}, r.HasOneLineValues → Gir.namespaceOf r = .ok s →
      ∀ b ∈ (compile settings (includedVersions r) s).blocks, Solid b.toList :=
    fun hr hs _ => solid_of_mem_blocks (hasOneLineValues_of_namespaceOf hr hs) hfallback
      fun _ hv => oneLine_of_mem_includedVersions hr hv
  have hblocks := hsolid hvalues hspace
  refine ⟨exists_text_eq_append_newline hblocks, fun hne => ?_, fun b hb => (hblocks b hb).ne_empty,
    blocks_eq .., map_some_looseBlocks settings space, ?_, ?_⟩
  · rw [decode_text hblocks, if_neg hne]
  · exact ⟨records settings.camel space, map_some_records settings.camel space,
      (arranges_order _).perm, rfl⟩
  -- another document with the same skeleton has the same header and as many layouts
  intro repository' space' hvalues' hskeleton hspace'
  have hversions : includedVersions repository' = includedVersions repository := by
    rw [← includedVersions_skeleton, hskeleton, includedVersions_skeleton]
  have hspaces : space'.skeleton = space.skeleton := by
    have h := namespaceOf_skeleton repository'
    rw [hskeleton, namespaceOf_skeleton, hspace, hspace'] at h
    exact (Except.ok.inj h).symm
  have hlength : (compile settings (includedVersions repository') space').blocks.length =
      (compile settings (includedVersions repository) space).blocks.length := by
    rw [hversions, ← length_blocks_skeleton, hspaces, length_blocks_skeleton]
  -- so either both have no blocks, or both are decoded to their blocks
  rw [decode_text hblocks, decode_text (hsolid hvalues' hspace')]
  simp only [← List.length_eq_zero_iff, hlength]
  split
  · rfl
  · exact hlength

/-- A namespace with a class and a function, each documented by a text. -/
def narrated (text : String) : Element :=
  coreElement "namespace" (some "Sample")
    [coreElement "class" (some "Gap") [docElement text],
      coreElement "function" (some "leap") [docElement text]]

/-- A document with nothing but a narrated namespace. -/
def narratedDocument (text : String) : Element :=
  coreElement "repository" none [narrated text]

/-- A text with empty and blank lines and with line breaks of several kinds. -/
def gaps : String :=
  "Over\n\n\x0d\n \u2028\n\nit."

/-- Empty lines in docs are not read as empty lines of the text. -/
theorem decode_text_narrated :
    OneLine (Settings.fallbackVersion { originComment := .bool false }) ∧
    (narratedDocument gaps).HasOneLineValues ∧
    Gir.namespaceOf (narratedDocument gaps) = .ok (narrated gaps) ∧
    decode (compile { originComment := .bool false } (includedVersions (narratedDocument gaps))
      (narrated gaps)).text =
      ["/**\n * Over\n *\n *\n *\n *\n *\n * it.\n * @returns \x7bvoid\x7d\n */\n" ++
          "export function leap(): void;",
        "/**\n * Over\n *\n *\n *\n *\n *\n * it.\n */\nexport class Gap \x7b\n\x7d"] ∧
    (narratedDocument "Over it.").HasOneLineValues ∧
    (narratedDocument "Over it.").skeleton = (narratedDocument gaps).skeleton ∧
    Gir.namespaceOf (narratedDocument "Over it.") = .ok (narrated "Over it.") ∧
    (decode (compile { originComment := .bool false }
      (includedVersions (narratedDocument "Over it.")) (narrated "Over it.")).text).length = 2 := by
  have hfallback : OneLine (Settings.fallbackVersion { originComment := .bool false }) := by decide
  have hgaps : (narratedDocument gaps).HasOneLineValues := by decide
  have hplain : (narratedDocument "Over it.").HasOneLineValues := by decide
  have hskeleton : (narratedDocument "Over it.").skeleton = (narratedDocument gaps).skeleton := by
    rfl
  obtain ⟨-, hdecode, -, -, -, -, hsame⟩ := decode_text_eq_blocks hfallback hgaps rfl
  have hblocks : (compile { originComment := .bool false }
      (includedVersions (narratedDocument gaps)) (narrated gaps)).blocks =
      ["/**\n * Over\n *\n *\n *\n *\n *\n * it.\n * @returns \x7bvoid\x7d\n */\n" ++
          "export function leap(): void;",
        "/**\n * Over\n *\n *\n *\n *\n *\n * it.\n */\nexport class Gap \x7b\n\x7d"] := by
    decide +kernel
  have hread := hdecode (by rw [hblocks]; exact List.cons_ne_nil _ _)
  refine ⟨hfallback, hgaps, rfl, hread.trans hblocks, hplain, hskeleton, rfl, ?_⟩
  rw [hsame _ _ hplain hskeleton rfl, hread, hblocks]
  rfl

end GirTypings
