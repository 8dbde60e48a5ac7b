import Mathlib.Data.List.Perm.Basic
import GirTypings.Proofs.Decoding
import GirTypings.Proofs.Row

/-!
# What is imported

A module imports the namespaces that its classes and interfaces qualify a parent with,
each once, in the order in which they are used first by the records as these are written.
The version of each is the last that the repository tells, or a fixed one.  In the text the
imports are lines of their own at the start, and no other line begins like one: every line
of a declaration begins with its keyword, a star, a bracket or a space.

* `mem_spacesOf_iff`: which namespaces the parents of a class belong to;
* `exists_emitted_children`: the children of a namespace in the order of writing;
* `lookup_includedVersions`: which version of a namespace counts;
* `not_isImport_of_mem_layouts`: no line of a declaration begins like an import;
* `imports_of_written_classes`: all of this for a document.
-/

namespace GirTypings

open Declaration Gir Registry Text Xml

/-! ### Namespaces of parents -/

/-- Whether a name is qualified with a namespace: that is what stands before its first
dot. -/
def Qualifies (space name : String) : Prop :=
  ∃ rest, name = space ++ ("." ++ rest) ∧ '.' ∉ space.toList

theorem isForeign_and_namespaceOf_iff {space name : String} :
    (isForeign name = true ∧ Registry.namespaceOf name = space) ↔ Qualifies space name := by
  constructor
  · rintro ⟨hforeign, rfl⟩
    obtain ⟨before, after, hsplit, hbefore⟩ :=
      List.eq_append_cons_of_mem (List.contains_iff_mem.1 hforeign)
    have hspace : (Registry.namespaceOf name).toList = before := by
      rw [Registry.namespaceOf, String.toList_ofList, hsplit, List.takeWhile_append_of_pos]
      · simp
      · exact fun c hc => bne_iff_ne.2 fun h => hbefore (h ▸ hc)
    refine ⟨.ofList after, String.toList_inj.1 ?_, hspace ▸ hbefore⟩
    simp [hspace, hsplit]
  · rintro ⟨rest, rfl, hspace⟩
    have hsplit : (space ++ ("." ++ rest)).toList = space.toList ++ '.' :: rest.toList := by
      rw [String.toList_append, String.toList_append]
      rfl
    refine ⟨?_, String.toList_inj.1 ?_⟩
    · rw [isForeign, hsplit]
      simp
    · rw [Registry.namespaceOf, String.toList_ofList, hsplit, List.takeWhile_append_of_pos]
      · simp
      · exact fun c hc => bne_iff_ne.2 fun h => hspace (h ▸ hc)

/-- Whether a class or an interface names a parent: as the class that it extends, as an
interface that it implements, or as a prerequisite. -/
def NamesParent (c : Element) (parent : String) : Prop :=
  c.filled? "parent" = some parent ∨
    (∃ i ∈ c.coreChildren "implements", i.filled? "name" = some parent) ∨
    ∃ i ∈ c.coreChildren "prerequisite", i.filled? "name" = some parent

theorem mem_parentNames_iff {c : Element} {parent : String} :
    parent ∈ c.parentNames ↔ NamesParent c parent := by
  rw [Element.parentNames, List.mem_append, List.mem_append, Option.mem_toList, or_assoc,
    Element.namesOf, Element.namesOf, List.mem_filterMap, List.mem_filterMap]
  rfl

/-- The namespaces that a child of a namespace qualifies its parents with, in the order of
the parents.  An enumeration has none. -/
def spacesOf (child : Element) : List String :=
  if isClassLike child then (child.parentNames.filter isForeign).map Registry.namespaceOf else []

theorem mem_spacesOf_iff {child : Element} {n : String} :
    n ∈ spacesOf child ↔
      isClassLike child = true ∧ ∃ p, NamesParent child p ∧ Qualifies n p := by
  rw [spacesOf]
  split
  · next hclass =>
    rw [List.mem_map]
    refine ⟨?_, ?_⟩
    · rintro ⟨p, hp, hspace⟩
      obtain ⟨hparent, hforeign⟩ := List.mem_filter.1 hp
      exact ⟨hclass, p, mem_parentNames_iff.1 hparent,
        isForeign_and_namespaceOf_iff.1 ⟨hforeign, hspace⟩⟩
    · rintro ⟨-, p, hparent, hqualifies⟩
      obtain ⟨hforeign, hspace⟩ := isForeign_and_namespaceOf_iff.2 hqualifies
      exact ⟨p, List.mem_filter.2 ⟨mem_parentNames_iff.2 hparent, hforeign⟩, hspace⟩
  · next hclass => simp [hclass]

/-- A record uses the namespaces of the child that it comes from. -/
theorem map_namespaceOf_foreignParents {camel : Bool} {child : Element} {r : Record Layout}
    (h : record? camel child = some r) :
    r.foreignParents.map Registry.namespaceOf = spacesOf child := by
  rw [spacesOf]
  rcases record?_eq_some_iff.1 h with ⟨hclass, name, -, rfl⟩ | ⟨henum, name, -, rfl⟩
  · rw [if_pos hclass]
    rfl
  · rw [if_neg fun hclass => ?_]
    · rfl
    · rw [isEnumerationLike_of_isClassLike hclass] at henum
      cases henum

/-! ### The children in the order of writing -/

/-- Items that are read as some list, put into the order of another with the same members. -/
theorem exists_perm_map_eq {α β : Type} {f : α → β} {items : List α} {read : List β}
    (h : read.Perm (items.map f)) : ∃ sorted : List α, sorted.Perm items ∧ sorted.map f = read := by
  have hsame : List.Forall₂ (fun b a => b = f a) (items.map f) items :=
    List.forall₂_map_left_iff.2 (List.forall₂_same.2 fun _ _ => rfl)
  obtain ⟨sorted, hread, hperm⟩ := List.perm_comp_forall₂ h hsame
  rw [← List.forall₂_map_right_iff, List.forall₂_eq_eq_eq] at hread
  exact ⟨sorted, hperm, hread.symm⟩

/-- The classes, interfaces and enumerations of a namespace in the order in which their
records are written. -/
theorem exists_emitted_children (settings : Settings) (e : Element) :
    ∃ emitted : List Element, emitted.Perm (registeredChildren e) ∧
      emitted.map (record? settings.camel) = (orderedRecords settings e).emission.map some := by
  have hperm := (arranges_order (records settings.camel e)).perm.map some
  rw [map_some_records] at hperm
  exact exists_perm_map_eq hperm

/-- What is said of each record in turn can be said of the children that they come from. -/
theorem flatMap_of_map_eq {α β γ : Type} {read : α → Option β} {f : β → List γ} {g : α → List γ}
    {items : List α} {results : List β} (h : ∀ a ∈ items, ∀ b, read a = some b → f b = g a)
    (hmap : items.map read = results.map some) : results.flatMap f = items.flatMap g := by
  induction items generalizing results with
  | nil =>
    rw [List.map_eq_nil_iff.1 hmap.symm]
    rfl
  | cons a rest ih =>
    cases results with
    | nil => cases hmap
    | cons b more =>
      obtain ⟨hread, hrest⟩ := List.cons.inj hmap
      obtain ⟨ha, hmore⟩ := List.forall_mem_cons.1 h
      rw [List.flatMap_cons, List.flatMap_cons, ih hmore hrest, ha b hread]

/-! ### Versions -/

/-- The version that a repository tells for a namespace: that of the last `include` with
its name and a version. -/
def toldVersion? (repository : Element) (n : String) : Option String :=
  (repository.coreChildren "include").reverse.findSome? fun i =>
    if i.filled? "name" = some n then i.filled? "version" else none

theorem lookup_filterMap_inclusion? (includes : List Element) (n : String) :
    (includes.filterMap inclusion?).lookup n =
      includes.findSome? fun i => if i.filled? "name" = some n then i.filled? "version" else none := by
  induction includes with
  | nil => rfl
  | cons i rest ih =>
    rw [List.findSome?_cons, ← ih]
    cases hname : i.filled? "name" with
    | none =>
      have hread : inclusion? i = none := by rw [inclusion?, hname]; rfl
      rw [List.filterMap_cons_none hread]
      rfl
    | some name =>
      cases hversion : i.filled? "version" with
      | none =>
        have hread : inclusion? i = none := by rw [inclusion?, hname, hversion]; rfl
        rw [List.filterMap_cons_none hread, ite_self]
      | some version =>
        have hread : inclusion? i = some (name, version) := by
          rw [inclusion?, hname, hversion]; rfl
        rw [List.filterMap_cons_some hread, List.lookup_cons]
        by_cases h : n = name
        · rw [h, beq_self_eq_true, if_pos rfl]
        · rw [beq_false_of_ne h, if_neg fun heq => h (Option.some.inj heq).symm]

theorem lookup_includedVersions (repository : Element) (n : String) :
    (includedVersions repository).lookup n = toldVersion? repository n := by
  rw [includedVersions, Table.lookup_ofEntries, ← List.filterMap_reverse,
    lookup_filterMap_inclusion?]
  rfl

/-! ### Lines that begin like an import -/

/-- Whether a line begins like one that imports a namespace. -/
def IsImport (line : String) : Prop :=
  "import ".toList <+: line.toList

theorem not_isImport_of_head? {line : String} (h : line.toList.head? ≠ some 'i') :
    ¬ IsImport line := by
  rintro ⟨rest, hline⟩
  rw [← hline] at h
  exact h rfl

theorem not_isImport_empty : ¬ IsImport "" :=
  not_isImport_of_head? (by decide)

theorem not_isImport_append {front : String} (h : front.toList.head?.any (· != 'i') = true)
    (rest : String) : ¬ IsImport (front ++ rest) := by
  obtain ⟨c, hc, hne⟩ := (Option.any_eq_true _ _).1 h
  refine not_isImport_of_head? fun hhead => bne_iff_ne.1 hne ?_
  rw [String.toList_append, List.head?_append, hc] at hhead
  exact Option.some.inj hhead

theorem not_isImport_indentLine (depth : Int) {line : String} (h : ¬ IsImport line) :
    ¬ IsImport (indentLine depth line) := by
  rw [indentLine]
  split
  · exact h
  · cases depth.toNat with
    | zero =>
      rw [margin, String.empty_append]
      exact h
    | succ n =>
      rw [margin, String.append_assoc]
      exact not_isImport_append (by decide) _

/-- Inside a class every line is set in. -/
theorem not_isImport_of_member (line : String) :
    ¬ IsImport (indentLine Element.memberDepth line) := by
  rw [indentLine]
  split
  · next hempty =>
    rw [hempty]
    exact not_isImport_empty
  · exact not_isImport_append (by decide) _

/-- A line of a comment begins with a slash or a blank. -/
theorem head?_of_mem_docBlock {remarks : List String} {line : String} (h : line ∈ docBlock remarks) :
    line.toList.head? = some '/' ∨ line.toList.head? = some ' ' := by
  rcases List.mem_cons.1 h with rfl | h
  · exact .inl rfl
  rcases List.mem_append.1 h with h | h
  · obtain ⟨r, -, rfl⟩ := List.mem_map.1 h
    have hne : (commentLine r).toList ≠ [] := by
      rw [commentLine, String.toList_ofList, Ne, trimRightChars_eq_nil]
      exact fun hblank => absurd (hblank '*' (by simp)) (by decide)
    obtain ⟨rest, hrest⟩ := isPrefix_trimRightChars (' ' :: '*' :: ' ' :: guardChars r.toList)
    have hspace := congrArg List.head? hrest
    rw [← String.toList_ofList (l := trimRightChars _), ← commentLine,
      List.head?_append_of_ne_nil _ hne] at hspace
    exact .inr hspace
  · rw [List.mem_singleton.1 h]
    exact .inr rfl

theorem not_isImport_of_mem_docBlock {remarks : List String} {line : String}
    (h : line ∈ docBlock remarks) : ¬ IsImport line := by
  refine not_isImport_of_head? fun hhead => ?_
  rcases head?_of_mem_docBlock h with h | h <;> rw [hhead] at h <;> cases h

/-- Whether no line of a layout begins like an import. -/
def Layout.ImportsNothing (l : Layout) : Prop :=
  ∀ documented, ∀ line ∈ l.lines documented, ¬ IsImport line

namespace Layout.ImportsNothing

theorem append {l m : Layout} (hl : ImportsNothing l) (hm : ImportsNothing m) :
    ImportsNothing (l ++ m) := by
  intro documented line hline
  rw [Layout.lines_append, List.mem_append] at hline
  exact hline.elim (hl documented line) (hm documented line)

theorem code {t : String} (h : ¬ IsImport t) : ImportsNothing [.code t] := by
  intro documented line hline
  rwa [List.mem_singleton.1 (show line ∈ [t] from hline)]

theorem comment (depth : Int) (remarks : List String) :
    ImportsNothing (Layout.comment depth remarks) := by
  intro documented line hline
  rw [Layout.comment] at hline
  split at hline
  · cases hline
  rw [Layout.lines, List.flatMap_singleton, Part.lines] at hline
  split at hline
  · obtain ⟨inner, hinner, rfl⟩ := List.mem_map.1 hline
    exact not_isImport_indentLine depth (not_isImport_of_mem_docBlock hinner)
  · cases hline

theorem flatten {ls : List Layout} (h : ∀ l ∈ ls, ImportsNothing l) :
    ImportsNothing ls.flatten := by
  induction ls with
  | nil => exact nofun
  | cons l rest ih =>
    obtain ⟨hl, hrest⟩ := List.forall_mem_cons.1 h
    exact hl.append (ih hrest)

theorem member {camel : Bool} {className : String} {e : Element} {l : Layout}
    (hl : l ∈ e.memberLayouts camel className) : ImportsNothing l := by
  rcases Element.mem_memberLayouts hl with ⟨p, rfl⟩ | ⟨c, rfl⟩
  · exact (comment _ _).append (code (not_isImport_of_member _))
  · exact (comment _ _).append (code (not_isImport_of_member _))

theorem function (camel : Bool) (c : Callable) (h : c.modifiers = ["export", "function"]) :
    ImportsNothing (c.layout camel 0) := by
  refine (comment _ _).append (code (not_isImport_indentLine 0 ?_))
  rw [Callable.declaration, h]
  exact not_isImport_append (by decide) _

theorem constant (c : Constant) : ImportsNothing [.code c.declaration] := by
  refine code ?_
  -- no rewriting with the definition: its equation takes seconds to generate
  show ¬ IsImport ("export const " ++ c.name ++ " = " ++ literal c.type c.value ++ ";")
  simp only [String.append_assoc]
  exact not_isImport_append (by decide) _

theorem enumeration (e : Enumeration) : ImportsNothing e.layout := by
  have hheader : ¬ IsImport e.header := by
    rw [Enumeration.header, String.append_assoc]
    exact not_isImport_append (by decide) _
  have hmembers : ImportsNothing (e.declaredMembers.map fun m =>
      .code (Enumeration.memberLine m.1 m.2)) := by
    intro documented line hline
    obtain ⟨p, hp, hline⟩ := List.mem_flatMap.1 hline
    obtain ⟨m, -, rfl⟩ := List.mem_map.1 hp
    rw [List.mem_singleton.1 hline, Enumeration.memberLine]
    simp only [String.append_assoc]
    exact not_isImport_append (by decide) _
  exact (comment _ _).append ((code hheader).append
    (hmembers.append (code (not_isImport_of_head? (by decide)))))

theorem shell {s : Shell} (h : ∀ m ∈ s.members, ImportsNothing m) : ImportsNothing s.layout := by
  have hheader : ¬ IsImport s.header := by
    rw [Shell.header]
    simp only [String.append_assoc]
    exact not_isImport_append (by decide) _
  exact (comment _ _).append ((code hheader).append
    ((flatten h).append (code (not_isImport_of_head? (by decide)))))

end Layout.ImportsNothing

/-- **No line of a declaration begins like an import.** -/
theorem not_isImport_of_mem_layouts {settings : Settings} {versions : Table String String}
    {e : Element} {l : Layout} (hl : l ∈ (compile settings versions e).layouts) :
    Layout.ImportsNothing l := by
  rcases List.mem_append.1 hl with hl | hl
  · obtain ⟨c, -, hread⟩ := List.mem_filterMap.1 hl
    rcases looseLayout?_eq_some_iff.1 hread with ⟨-, name, -, rfl⟩ | ⟨-, name, -, rfl⟩
    · exact .function settings.camel _ rfl
    · exact .constant _
  · obtain ⟨r, hr, rfl⟩ := List.mem_map.1 hl
    obtain ⟨c, -, hrecord⟩ := exists_child_of_mem_emission hr
    rcases record?_eq_some_iff.1 hrecord with ⟨-, name, -, rfl⟩ | ⟨-, name, -, rfl⟩
    · exact .shell fun m hm => .member hm
    · exact .enumeration _

/-! ### The rows of a module -/

section

variable {e : Element} (h : e.HasOneLineValues) {settings : Settings}
  {versions : Table String String}

include h

/-- The rows of a declaration do not begin like an import. -/
theorem not_isImport_of_mem_rows_text {l : Layout}
    (hl : l ∈ (compile settings versions e).layouts) {documented : Bool} {row : String}
    (hrow : row ∈ rows (l.text documented)) : ¬ IsImport row := by
  have hsolid := isSolid_of_mem_layouts h hl
  have hne := (isProper_of_mem_layouts hl).lines_ne_nil documented
  rw [Layout.text, rows_joinLines hne fun line hline => (hsolid.isLine hline).2] at hrow
  exact not_isImport_of_mem_layouts hl documented row hrow

/-- **The rows of a module** are the lines of its header, and others that do not begin like
an import. -/
theorem exists_rows_text (hfallback : OneLine settings.fallbackVersion)
    (hversions : ∀ v ∈ versions, OneLine v.2) :
    ∃ rest, rows (compile settings versions e).text =
        (moduleHeader settings versions e).lines ++ rest ∧ ∀ row ∈ rest, ¬ IsImport row := by
  have hdeclared : ∀ row ∈ rows (joinWith "\n\n"
      ((compile settings versions e).layouts.map (Layout.text settings.documented)) ++ "\n"),
      ¬ IsImport row := by
    intro row hrow
    rcases mem_rows_blocks hrow with rfl | ⟨b, hb, hmem⟩
    · exact not_isImport_empty
    · obtain ⟨l, hl, rfl⟩ := List.mem_map.1 hb
      exact not_isImport_of_mem_rows_text h hl hmem
  have hlines : ∀ l ∈ (moduleHeader settings versions e).lines, IsLine l :=
    fun l hl => isLine_of_mem_moduleHeader h hfallback hversions hl
  have hheader := (header_compile settings versions e).trans (text_header hlines)
  by_cases hnil : (moduleHeader settings versions e).lines = []
  · have hnone : (compile settings versions e).header = "" := by rw [hheader, hnil]; rfl
    rw [hnil]
    refine ⟨_, (List.nil_append _).symm, fun row hrow => hdeclared row ?_⟩
    rwa [Module.text, Module.blocks, if_pos hnone] at hrow
  · have hne := (solid_joinLines hnil hlines).ne_empty
    rw [Module.text, Module.blocks, if_neg (hheader ▸ hne), List.singleton_append,
      rows_cons_blocks, hheader, rows_joinLines hnil fun l hl => (hlines l hl).2]
    refine ⟨_, rfl, fun row hrow => ?_⟩
    rcases List.mem_cons.1 hrow with rfl | hrow
    · exact not_isImport_empty
    · split at hrow
      · cases hrow
      · exact hdeclared row hrow

end

/-! ### Documents -/

/-- The comment on the origin of a module, if it is wanted. -/
def originLines (settings : Settings) (space : Element) : List String :=
  if settings.commented then
    ["// Generated by gir_to_dts 0.1.0 from " ++ (space.attr? "name").getD "" ++ "-" ++
      (space.attr? "version").getD "" ++ ".gir"]
  else []

theorem lines_originComment (settings : Settings) (space : Element) :
    (if originComment settings ((space.attr? "name").getD "")
        ((space.attr? "version").getD "") = "" then ([] : List String)
      else ["// " ++ originComment settings ((space.attr? "name").getD "")
        ((space.attr? "version").getD "")]) = originLines settings space := by
  have hfront : "Generated by " ++ programName ++ " " ++ programVersion ++ " from " =
      "Generated by gir_to_dts 0.1.0 from " := rfl
  rw [originComment, originLines, hfront]
  by_cases hcommented : settings.commented = true
  · simp only [hcommented, if_true, String.append_assoc, String.append_eq_empty_iff]
    rw [if_neg fun h => absurd h.1 (by decide), ← String.append_assoc]
    rfl
  · simp only [hcommented]
    rfl

theorem lines_moduleHeader (settings : Settings) (repository space : Element) :
    (moduleHeader settings (includedVersions repository) space).lines =
      originLines settings space ++ (orderedRecords settings space).imports.map fun n =>
        Header.importLine n ((toldVersion? repository n).getD settings.fallbackVersion) := by
  rw [Header.lines, moduleHeader, lines_originComment, List.map_map]
  simp only [lookup_includedVersions, Function.comp_def]

/-- **What is imported, exactly**, for every document whose attributes have values on one
line, if the version to import where none is included is on one line too.  No namespace is
imported twice; a namespace is imported if some named class or interface, stalled or not,
has a parent that is qualified with it, and only then; the imports are in the order in which
the classes use them first, as these are written.  The text starts with the comment on the
origin, if it is wanted, and one line for each import in this order, with the version that
the repository tells last or else the fixed one; no other line begins like an import. -/
theorem imports_of_written_classes {settings : Settings}
    (hfallback : OneLine settings.fallbackVersion) {repository space : Element}
    (hvalues : repository.HasOneLineValues) (hspace : Gir.namespaceOf repository = .ok space) :
    let m := compile settings (includedVersions repository) space
    (∀ text, Gir.repository text = .ok repository →
      (compileDocument settings text).map Compilation.result = .ok m) ∧
    m.imports.Nodup ∧
    (∀ n, n ∈ m.imports ↔ ∃ child ∈ space.children, isClassLike child = true ∧
      isNamed child = true ∧ ∃ p, NamesParent child p ∧ Qualifies n p) ∧
    (∃ emitted : List Element, emitted.Perm (registeredChildren space) ∧
      emitted.map (record? settings.camel) =
        (orderedRecords settings space).emission.map some ∧
      m.imports.Pairwise fun a b =>
        (emitted.flatMap spacesOf).idxOf a < (emitted.flatMap spacesOf).idxOf b) ∧
    ∃ rest, rows m.text = originLines settings space ++
        m.imports.map (fun n => "import " ++ n ++ " from 'gi://" ++ n ++ "?version=" ++
          (toldVersion? repository n).getD settings.fallbackVersion ++ "';") ++ rest ∧
      ∀ row ∈ rest, ¬ IsImport row := by
  obtain ⟨emitted, hperm, hread⟩ := exists_emitted_children settings space
  have himports : (orderedRecords settings space).imports =
      firstUses (emitted.flatMap spacesOf) :=
    congrArg firstUses (flatMap_of_map_eq (fun _ _ _ => map_namespaceOf_foreignParents) hread)
  refine ⟨fun text htext => ?_, ?_, fun n => ?_, ⟨emitted, hperm, hread, ?_⟩, ?_⟩
  · rw [compileDocument, htext]
    show Except.map _ (Gir.namespaceOf repository >>= _) = _
    rw [hspace]
    rfl
  · show (orderedRecords settings space).imports.Nodup
    rw [himports]
    exact nodup_firstUses _
  · show n ∈ (orderedRecords settings space).imports ↔ _
    rw [himports, mem_firstUses, List.mem_flatMap]
    constructor
    · rintro ⟨child, hchild, hn⟩
      obtain ⟨hclass, hparent⟩ := mem_spacesOf_iff.1 hn
      obtain ⟨hmem, hnamed⟩ := List.mem_filter.1 (hperm.mem_iff.1 hchild)
      exact ⟨child, hmem, hclass, (Bool.and_eq_true_iff.1 hnamed).2, hparent⟩
    · rintro ⟨child, hmem, hclass, hnamed, hparent⟩
      refine ⟨child, hperm.mem_iff.2 (List.mem_filter.2 ⟨hmem, ?_⟩),
        mem_spacesOf_iff.2 ⟨hclass, hparent⟩⟩
      rw [isRegistered, hclass, hnamed]
      rfl
  · show List.Pairwise _ (orderedRecords settings space).imports
    rw [himports]
    exact pairwise_idxOf_firstUses _
  · obtain ⟨rest, hrows, hrest⟩ := exists_rows_text
      (hasOneLineValues_of_namespaceOf hvalues hspace) hfallback
      fun _ hv => oneLine_of_mem_includedVersions hvalues hv
    rw [lines_moduleHeader] at hrows
    exact ⟨rest, hrows, hrest⟩

/-- An element of the core namespace without content, with attributes that are not
qualified. -/
def leaf (kind : String) (attributes : List (String × String)) : Node :=
  .element (.mk ⟨some coreNamespace, kind⟩
    (attributes.map fun (name, value) => ⟨⟨none, name⟩, value⟩) [])

/-- A class in front of its parent, which extends a class of another namespace, and a class
that extends itself. -/
def borrowingSpace : Element :=
  .mk ⟨some coreNamespace, "namespace"⟩ [⟨⟨none, "name"⟩, "Sample"⟩, ⟨⟨none, "version"⟩, "1.0"⟩]
    [.element (.mk ⟨some coreNamespace, "class"⟩
        [⟨⟨none, "name"⟩, "Child"⟩, ⟨⟨none, "parent"⟩, "Parent"⟩]
        [leaf "implements" [("name", "Gio.File")], leaf "implements" [("name", "Gtk.Buildable")]]),
      leaf "class" [("name", "Parent"), ("parent", "Gtk.Widget")],
      .element (.mk ⟨some coreNamespace, "class"⟩
        [⟨⟨none, "name"⟩, "Loop"⟩, ⟨⟨none, "parent"⟩, "Loop"⟩]
        [leaf "prerequisite" [("name", "Pango.Font.Map")]])]

/-- A document that tells two versions of one namespace, and an empty version of another. -/
def borrowing : Element :=
  .mk ⟨some coreNamespace, "repository"⟩ []
    [leaf "include" [("name", "Gtk"), ("version", "3.0")],
      leaf "include" [("name", "Gtk"), ("version", "4.0")],
      leaf "include" [("name", "Gio"), ("version", "")], .element borrowingSpace]

/-- The late parent uses its namespace first, and the stalled class is not left out. -/
theorem imports_of_borrowing :
    OneLine (Settings.fallbackVersion {}) ∧ borrowing.HasOneLineValues ∧
    Gir.namespaceOf borrowing = .ok borrowingSpace ∧
    (compile {} (includedVersions borrowing) borrowingSpace).imports = ["Gtk", "Gio", "Pango"] ∧
    ∃ rest, rows (compile {} (includedVersions borrowing) borrowingSpace).text =
        ["// Generated by gir_to_dts 0.1.0 from Sample-1.0.gir",
          "import Gtk from 'gi://Gtk?version=4.0';", "import Gio from 'gi://Gio?version=3.0';",
          "import Pango from 'gi://Pango?version=3.0';"] ++ rest ∧
      ∀ row ∈ rest, ¬ IsImport row := by
  have hfallback : OneLine (Settings.fallbackVersion {}) := by decide
  have hvalues : borrowing.HasOneLineValues := by decide
  have himports : (compile {} (includedVersions borrowing) borrowingSpace).imports =
      ["Gtk", "Gio", "Pango"] := by decide +kernel
  obtain ⟨-, -, -, -, rest, hrows, hrest⟩ := imports_of_written_classes hfallback hvalues rfl
  rw [himports] at hrows
  exact ⟨hfallback, hvalues, rfl, himports, rest, hrows, hrest⟩

end GirTypings
