import GirTypings.Proofs.Reading
import GirTypings.Proofs.Turn

/-!
# What a run keeps

A run that ends well has compiled every document that its arguments name and written each
module.  What the documents came to, each at its turn, are the **products** of the run.
Modules go to files of their names, so of the products of one name only the last is left:
documents of two versions of a namespace have one name, and the later module silently takes
the place of the earlier one.

* `file?_steps`: what is where after turns without a flaw;
* `modules_kept_iff_one_text_a_name`: which products are kept, and when all of them are.
-/

namespace GirTypings.CommandLine

open Files

/-- What documents come to, each at its turn: the texts of their modules. -/
def Progress.products (settings : Settings) (directory : Location) (output : Path) :
    Progress → List Source → List (Source × String)
  | _, [] => []
  | p, s :: rest =>
    let later := products settings directory output (p.step settings directory output s) rest
    match compileSource settings directory p.tree s with
    | .ok c => (s, c.result.text) :: later
    | .error _ => later

/-- The file of a product: its place and its bytes. -/
def productFile (directory : Location) (output : Path) (product : Source × String) :
    Location × ByteArray :=
  (moduleLocation directory output product.1, product.2.toUTF8)

/-- What the last product that goes to a place has for it. -/
def lastFile? (directory : Location) (output : Path) (products : List (Source × String))
    (l : Location) : Option ByteArray :=
  (products.map (productFile directory output)).reverse.lookup l

section

variable {settings : Settings} {directory : Location} {output : Path}
  {products : List (Source × String)}

/-- The last product of a name is the last one that goes to its place. -/
theorem lastFile?_of_last {before later : List (Source × String)} {x : Source × String}
    (hlast : ∀ y ∈ later, y.1.name ≠ x.1.name) :
    lastFile? directory output (before ++ x :: later) (moduleLocation directory output x.1) =
      some x.2.toUTF8 := by
  rw [lastFile?, List.lookup_eq_some_iff]
  refine ⟨(later.map (productFile directory output)).reverse,
    (before.map (productFile directory output)).reverse, by simp [productFile], ?_⟩
  intro file hfile
  obtain ⟨y, hy, rfl⟩ := List.mem_map.1 (List.mem_reverse.1 hfile)
  refine bne_iff_ne.2 fun hplace => hlast y hy ?_
  exact (name_eq_of_moduleLocation_eq hplace).symm

theorem lastFile?_eq_none {l : Location}
    (h : ∀ x ∈ products, moduleLocation directory output x.1 ≠ l) :
    lastFile? directory output products l = none := by
  rw [lastFile?, List.lookup_eq_none_iff]
  intro file hfile
  obtain ⟨x, hx, rfl⟩ := List.mem_map.1 (List.mem_reverse.1 hfile)
  exact bne_iff_ne.2 (h x hx).symm

/-- What goes to the place of a product is a product of the same name. -/
theorem exists_lastFile?_eq (directory : Location) (output : Path) {x : Source × String}
    (hx : x ∈ products) :
    ∃ y ∈ products, x.1.name = y.1.name ∧
      lastFile? directory output products (moduleLocation directory output x.1) =
        some y.2.toUTF8 := by
  have hsome : (lastFile? directory output products (moduleLocation directory output x.1)) ≠
      none := by
    rw [lastFile?, Ne, List.lookup_eq_none_iff]
    intro hnone
    have hfile := hnone _ (List.mem_reverse.2 (List.mem_map_of_mem hx))
    exact bne_iff_ne.1 hfile rfl
  obtain ⟨bytes, hbytes⟩ := Option.ne_none_iff_exists'.1 hsome
  obtain ⟨before, after, hsplit, -⟩ := List.lookup_eq_some_iff.1 hbytes
  have hmem : (moduleLocation directory output x.1, bytes) ∈
      products.map (productFile directory output) := by
    rw [← List.mem_reverse, hsplit]
    exact List.mem_append_right _ (List.mem_cons_self ..)
  obtain ⟨y, hy, hfile⟩ := List.mem_map.1 hmem
  obtain ⟨hplace, rfl⟩ := Prod.mk.inj hfile
  exact ⟨y, hy, (name_eq_of_moduleLocation_eq hplace).symm, hbytes⟩

variable {p : Progress} {sources : List Source}

/-- Every document of turns without a flaw has a product. -/
theorem map_fst_products (h : Flawless settings directory output p sources) :
    (p.products settings directory output sources).map Prod.fst = sources := by
  induction sources generalizing p with
  | nil => rfl
  | cons s rest ih =>
    obtain ⟨c, tree, hcompiled, -, -, hrest⟩ := h.first
    simp only [Progress.products, hcompiled, List.map_cons, ih hrest]

/-- **What is where after turns without a flaw**: at the place of a module the last product
that goes there, and everywhere else what was there. -/
theorem file?_steps (h : Flawless settings directory output p sources) (l : Location) :
    (p.steps settings directory output sources).tree.file? l =
      (lastFile? directory output (p.products settings directory output sources) l).or
        (p.tree.file? l) := by
  induction sources generalizing p with
  | nil => rfl
  | cons s rest ih =>
    obtain ⟨c, tree, hcompiled, hwritten, htree, hrest⟩ := h.first
    rw [steps_cons, ih hrest, htree, Tree.file?_of_writeBytes? hwritten, locationFrom_modulePath]
    simp only [lastFile?, Progress.products, hcompiled, List.map_cons, List.reverse_cons,
      List.lookup_append, Option.or_assoc, productFile]
    congr 1
    by_cases heq : l = moduleLocation directory output s
    · simp [heq]
    · simp [heq, List.lookup_cons, beq_false_of_ne heq]

end

namespace Surroundings

variable {s : Surroundings} {arguments : List String} {i : Invocation} {plan : Plan}
  {settings : Settings}

/-- What the documents of a plan come to. -/
def products (s : Surroundings) (plan : Plan) (settings : Settings) : List (Source × String) :=
  s.start.products settings s.directory plan.output plan.sources

/-- Where the module of a source goes. -/
def place (s : Surroundings) (plan : Plan) (source : Source) : Location :=
  moduleLocation s.directory plan.output source

/-- A run that ends well had no flaw. -/
theorem Compiles.flawless (h : s.Compiles arguments i plan settings)
    (hend : (s.run arguments).ending.exitCode = 0) :
    Flawless settings s.directory plan.output s.start plan.sources := by
  rw [h.run_eq] at hend
  cases hhalted : (s.final plan settings).halted with
  | true =>
    rw [hhalted] at hend
    cases hend
  | false =>
    refine ⟨hhalted, ?_⟩
    by_contra hfailures
    have hsome : (s.final plan settings).failures ≠ 0 := hfailures
    simp [hhalted, Ending.exitCode, hsome] at hend

/-- What is where after a run that ends well. -/
theorem Compiles.file?_run (h : s.Compiles arguments i plan settings)
    (hend : (s.run arguments).ending.exitCode = 0) (l : Location) :
    (s.run arguments).tree.file? l =
      (lastFile? s.directory plan.output (s.products plan settings) l).or (s.tree.file? l) := by
  have hflawless := h.flawless hend
  rw [h.run_eq]
  exact file?_steps hflawless l

/-- **Which modules a run keeps.**  A run that compiles named documents and ends well has a
product of each document.  Of the products of one name the last is left in the file of that
name, byte for byte; what is at no such place is as it was.  That every product is left in
some file of the output directory, and that products with different texts never go to one
file, is the case exactly if documents of one name come to one text. -/
theorem modules_kept_iff_one_text_a_name (h : s.Compiles arguments i plan settings)
    (hend : (s.run arguments).ending.exitCode = 0) :
    (s.products plan settings).map Prod.fst = plan.sources ∧
    (∀ before x later, s.products plan settings = before ++ x :: later →
      (∀ y ∈ later, y.1.name ≠ x.1.name) →
      (s.run arguments).tree.file? (s.place plan x.1) = some x.2.toUTF8) ∧
    (∀ l, (∀ x ∈ s.products plan settings, s.place plan x.1 ≠ l) →
      (s.run arguments).tree.file? l = s.tree.file? l) ∧
    ((∀ x ∈ s.products plan settings, ∃ l, plan.output.locationFrom s.directory <+: l ∧
        (s.run arguments).tree.file? l = some x.2.toUTF8) ∧
      (∀ x ∈ s.products plan settings, ∀ y ∈ s.products plan settings,
        x.2 ≠ y.2 → s.place plan x.1 ≠ s.place plan y.1) ↔
      ∀ x ∈ s.products plan settings, ∀ y ∈ s.products plan settings,
        x.1.name = y.1.name → x.2 = y.2) := by
  refine ⟨map_fst_products (h.flawless hend), fun before x later hproducts hlast => ?_,
    fun l hl => ?_, ⟨fun hkept x hx y hy hname => ?_, fun hone => ⟨fun x hx => ?_, ?_⟩⟩⟩
  · rw [h.file?_run hend, hproducts, place, lastFile?_of_last hlast]
    rfl
  · rw [h.file?_run hend, lastFile?_eq_none hl, Option.none_or]
  · by_contra htext
    exact hkept.2 x hx y hy htext (moduleLocation_congr hname)
  · refine ⟨s.place plan x.1, List.prefix_append _ _, ?_⟩
    obtain ⟨y, hy, hname, hfile⟩ := exists_lastFile?_eq s.directory plan.output hx
    rw [h.file?_run hend, place, hfile, hone x hx y hy hname]
    rfl
  · intro x hx y hy htext hplace
    exact htext (hone x hx y hy (name_eq_of_moduleLocation_eq hplace))

end Surroundings

/-! ### Two versions of a namespace -/

section

variable {first second : ByteArray} {c c' : Compilation}

/-- If both files of the directory hold documents, the turns write a module each, to one
file. -/
theorem final_shelf (hfirst : (Tree.textOfBytes? first).map (compileDocument {}) = some (.ok c))
    (hsecond : (Tree.textOfBytes? second).map (compileDocument {}) = some (.ok c'))
    (hwritable : c.result.writable = true) (hwritable' : c'.result.writable = true) :
    ((shelf first second).final shelfPlan {}).tree = shelfWith first second c'.result.text ∧
    ((shelf first second).final shelfPlan {}).failures = 0 ∧
    ((shelf first second).final shelfPlan {}).halted = false ∧
    (shelf first second).products shelfPlan {} =
      [(⟨"Gtk", ⟨1, ["Gtk-3.0.gir"]⟩⟩, c.result.text),
        (⟨"Gtk", ⟨1, ["Gtk-4.0.gir"]⟩⟩, c'.result.text)] := by
  have hcompiled : compileSource {} [] (shelf first second).start.tree
      ⟨"Gtk", ⟨1, ["Gtk-3.0.gir"]⟩⟩ = .ok c :=
    compileSource_of_bytes (readText?_shelf_first first second) hfirst
  have hcompiled' (text : String) : compileSource {} [] (shelfWith first second text)
      ⟨"Gtk", ⟨1, ["Gtk-4.0.gir"]⟩⟩ = .ok c' :=
    compileSource_of_bytes (readText?_shelfWith_second first second text) hsecond
  have hstep : (shelf first second).start.step {} [] shelfPlan.output
      ⟨"Gtk", ⟨1, ["Gtk-3.0.gir"]⟩⟩ = _ :=
    step_of_written rfl hcompiled hwritable (writeText?_shelf ..)
  have hstep' (text : String) (journal : List Entry) : Progress.step {} [] shelfPlan.output
      ⟨shelfWith first second text, journal, 0, false⟩ ⟨"Gtk", ⟨1, ["Gtk-4.0.gir"]⟩⟩ = _ :=
    step_of_written rfl (hcompiled' text) hwritable' (writeText?_shelfWith ..)
  have hdirectory : (shelf first second).directory = [] := rfl
  have hfailures : (shelf first second).start.failures = 0 := rfl
  rw [Surroundings.final, Surroundings.products, sources_shelfPlan, hdirectory, steps_cons, hstep,
    hfailures, steps_cons, hstep']
  refine ⟨rfl, rfl, rfl, ?_⟩
  simp only [Progress.products, hcompiled, hstep, hfailures, hcompiled']

theorem exitCode_shelf (hfirst : (Tree.textOfBytes? first).map (compileDocument {}) = some (.ok c))
    (hsecond : (Tree.textOfBytes? second).map (compileDocument {}) = some (.ok c'))
    (hwritable : c.result.writable = true) (hwritable' : c'.result.writable = true) :
    ((shelf first second).run shelfArguments).ending.exitCode = 0 := by
  obtain ⟨-, hfailures, hhalted, -⟩ := final_shelf hfirst hsecond hwritable hwritable'
  rw [(compiles_shelf first second).run_eq, hhalted, hfailures]
  rfl

/-- After the run the files of the directory are the documents and the module of the second
one. -/
theorem file?_run_shelf
    (hfirst : (Tree.textOfBytes? first).map (compileDocument {}) = some (.ok c))
    (hsecond : (Tree.textOfBytes? second).map (compileDocument {}) = some (.ok c'))
    (hwritable : c.result.writable = true) (hwritable' : c'.result.writable = true)
    {l : Location} {bytes : ByteArray}
    (h : ((shelf first second).run shelfArguments).tree.file? l = some bytes) :
    bytes = first ∨ bytes = second ∨ bytes = c'.result.text.toUTF8 := by
  obtain ⟨htree, -⟩ := final_shelf hfirst hsecond hwritable hwritable'
  rw [(compiles_shelf first second).run_eq, htree] at h
  obtain ⟨before, after, hsplit, -⟩ := List.lookup_eq_some_iff.1 h
  have hmem : (l, bytes) ∈ (shelfWith first second c'.result.text).files := by
    rw [hsplit]
    exact List.mem_append_right _ (List.mem_cons_self ..)
  simp only [shelfWith, List.mem_cons, List.not_mem_nil, or_false, Prod.mk.injEq] at hmem
  exact hmem.imp And.right (Or.imp And.right And.right)

end

/-- What a run keeps of two versions of a namespace. -/
theorem modules_kept_of_two_versions :
    (shelf (gtkBytes "3.0") (gtkBytes "4.0")).Compiles shelfArguments shelfInvocation shelfPlan {} ∧
    ((shelf (gtkBytes "3.0") (gtkBytes "4.0")).run shelfArguments).ending.exitCode = 0 ∧
    ((shelf (gtkBytes "3.0") (gtkBytes "4.0")).run shelfArguments).tree.file?
      ["out", "Gtk.d.ts"] = some (gtkText "4.0").toUTF8 := by
  obtain ⟨-, -, hwritable, -, -⟩ := compile_gtk "3.0" (by decide)
  obtain ⟨-, -, hwritable', -, htext'⟩ := compile_gtk "4.0" (by decide)
  have hfirst := compileDocument_gtk (show "3.0" ∈ gtkVersions by decide)
  have hsecond := compileDocument_gtk (show "4.0" ∈ gtkVersions by decide)
  have hcompiles := compiles_shelf (gtkBytes "3.0") (gtkBytes "4.0")
  have hend := exitCode_shelf hfirst hsecond hwritable hwritable'
  obtain ⟨-, -, -, hproducts⟩ := final_shelf hfirst hsecond hwritable hwritable'
  obtain ⟨-, hlast, -⟩ := Surroundings.modules_kept_iff_one_text_a_name hcompiles hend
  refine ⟨hcompiles, hend, ?_⟩
  have hkept := hlast [_] _ [] hproducts fun y hy => absurd hy List.not_mem_nil
  rw [htext'] at hkept
  exact hkept

/-- **Of two versions of a namespace one module is lost.**  The run ends well, the documents
come to different texts, and the text of the first one is in no file. -/
theorem first_version_lost :
    (shelf (gtkBytes "3.0") (gtkBytes "4.0")).Compiles shelfArguments shelfInvocation shelfPlan {} ∧
    ((shelf (gtkBytes "3.0") (gtkBytes "4.0")).run shelfArguments).ending.exitCode = 0 ∧
    (shelf (gtkBytes "3.0") (gtkBytes "4.0")).products shelfPlan {} =
      [(⟨"Gtk", ⟨1, ["Gtk-3.0.gir"]⟩⟩, gtkText "3.0"),
        (⟨"Gtk", ⟨1, ["Gtk-4.0.gir"]⟩⟩, gtkText "4.0")] ∧
    gtkText "3.0" ≠ gtkText "4.0" ∧
    ∀ l, ((shelf (gtkBytes "3.0") (gtkBytes "4.0")).run shelfArguments).tree.file? l ≠
      some (gtkText "3.0").toUTF8 := by
  obtain ⟨-, -, hwritable, -, htext⟩ := compile_gtk "3.0" (by decide)
  obtain ⟨-, -, hwritable', -, htext'⟩ := compile_gtk "4.0" (by decide)
  have hfirst := compileDocument_gtk (show "3.0" ∈ gtkVersions by decide)
  have hsecond := compileDocument_gtk (show "4.0" ∈ gtkVersions by decide)
  obtain ⟨-, -, -, hproducts⟩ := final_shelf hfirst hsecond hwritable hwritable'
  rw [htext, htext'] at hproducts
  have htexts : gtkText "3.0" ≠ gtkText "4.0" := by decide +kernel
  refine ⟨compiles_shelf _ _, exitCode_shelf hfirst hsecond hwritable hwritable', hproducts, htexts,
    fun l hl => ?_⟩
  rcases file?_run_shelf hfirst hsecond hwritable hwritable' hl with h | h | h
  · exact absurd (String.toByteArray_inj.1 h) (by decide +kernel)
  · exact absurd (String.toByteArray_inj.1 h) (by decide +kernel)
  · rw [htext'] at h
    exact htexts (String.toByteArray_inj.1 h)

end GirTypings.CommandLine
