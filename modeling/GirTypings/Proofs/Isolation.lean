import GirTypings.Proofs.Delivery
import GirTypings.Proofs.Spelling

/-!
# Failures are kept apart

Bad documents have to be kept apart from what else a run does (`FailuresApart`): they give the
exit code, have a line each on the console, and change no file, so that a run with the good
documents only leaves the same files and succeeds.  They are kept apart exactly if no
document comes to a module that no file can hold.  Such a module ends the run like an error,
though no document is bad: a version in the settings that is half of a surrogate pair is
enough.

* `Surroundings.failures_apart_iff_all_writable`: when failures are kept apart, and what a run
  comes to otherwise;
* `halted_without_bad_document`: a run over good documents that fails.
-/

namespace GirTypings.CommandLine

open Files Gir Xml

/-! ### Runs -/

theorem exitCode_finished (failures : Nat) :
    (Ending.finished failures).exitCode = 1 ↔ failures ≠ 0 := by
  simp [Ending.exitCode]

namespace Surroundings

variable {s : Surroundings} {arguments : List String} {i : Invocation} {plan : Plan}
  {settings : Settings}

/-- Why the document that an argument names is bad, if it is. -/
def failure? (s : Surroundings) (settings : Settings) (argument : String) : Option Failure :=
  CommandLine.failure? settings s.tree (s.location argument)

/-- Whether the document that an argument names comes to a module that no file can hold. -/
def isUnwritable (s : Surroundings) (settings : Settings) (argument : String) : Bool :=
  CommandLine.isUnwritable settings s.tree (s.location argument)

/-- The line that the console shows for a bad document. -/
def failureLine (s : Surroundings) (argument : String) (f : Failure) : String :=
  (failureEntry (.ofLocation (s.location argument)) f).consoleLine

/-- The lines that the console shows for the bad ones of some documents. -/
def failureLines (s : Surroundings) (settings : Settings) (paths : List String) : List String :=
  paths.filterMap fun a => (s.failure? settings a).map (s.failureLine a)

/-- The same invocation with the good ones of its paths only. -/
def withoutBad (s : Surroundings) (settings : Settings) (i : Invocation) : Invocation :=
  { i with paths := i.paths.filter fun a => (s.failure? settings a).isNone }

/-- Whether the turn of a bad document, wherever it stands, changes no file. -/
def LeavesFiles (s : Surroundings) (plan : Plan) (settings : Settings) : Prop :=
  ∀ before l after, plan.documents = before ++ l :: after →
    (CommandLine.failure? settings s.tree l).isSome →
    ((s.start.steps settings s.directory plan.output (before.map .ofLocation)).step
      settings s.directory plan.output (.ofLocation l)).tree =
    (s.start.steps settings s.directory plan.output (before.map .ofLocation)).tree

/-- Whether nothing but the documents disturbs a run: the tree is rooted, there is no error when
modules are written, and nothing is written to the place of a document. -/
structure Undisturbed (s : Surroundings) (plan : Plan) (settings : Settings) : Prop where
  rooted : s.tree.IsRooted
  writes : s.start.WritesAll settings s.directory plan.output plan.sources
  apart : ∀ l ∈ plan.documents, ∀ product ∈ goodProducts settings s.tree plan.documents,
    moduleLocation s.directory plan.output product.1 ≠ l

/-- Whether failures are kept apart from what else a run does.  A run with the good documents
only has no failure to tell of, so its exit code has to be zero. -/
structure FailuresApart (s : Surroundings) (arguments : List String) (i : Invocation)
    (plan : Plan) (settings : Settings) : Prop where
  /-- The exit code is one exactly if a document is bad. -/
  exit : (s.run arguments).ending.exitCode = 1 ↔ ∃ a ∈ i.paths, (s.failure? settings a).isSome
  /-- The console has one line for each bad document, in order. -/
  console : (s.run arguments).console.filter isFailureLine = s.failureLines settings i.paths
  /-- A run with the good documents only leaves the same files, and succeeds. -/
  others : ∀ others, Invocation.ofArguments? others = some (s.withoutBad settings i) →
    (s.withoutBad settings i).paths ≠ [] →
    (s.run others).tree = (s.run arguments).tree ∧ (s.run others).ending.exitCode = 0
  /-- The turn of a bad document changes no file. -/
  untouched : s.LeavesFiles plan settings

/-- A document that comes to a module is not bad. -/
theorem mem_withoutBad {a : String} (ha : a ∈ i.paths) (hunwritable : s.isUnwritable settings a) :
    a ∈ (s.withoutBad settings i).paths :=
  List.mem_filter.2 ⟨ha, Option.isNone_iff_eq_none.2 (failure?_of_isUnwritable hunwritable)⟩

/-- A run that compiles named documents has the exit code one or zero. -/
theorem Compiles.exitCode_eq_zero_iff (h : s.Compiles arguments i plan settings) :
    (s.run arguments).ending.exitCode = 0 ↔ (s.run arguments).ending.exitCode ≠ 1 := by
  rw [h.run_eq]
  cases (s.final plan settings).halted with
  | true => simp [Ending.exitCode]
  | false => simp [Ending.exitCode]

section

variable (h : s.Compiles arguments i plan settings) (hfiles : s.Undisturbed plan settings)

include h

theorem Undisturbed.separate (hfiles : s.Undisturbed plan settings) :
    Separate settings s.directory plan.output s.tree plan.documents := by
  obtain ⟨-, -, hthere, hdocuments⟩ := plan?_eq_some_iff.1 h.planned
  exact ⟨hfiles.rooted, hdocuments ▸ List.forall_mem_map.2 hthere, hfiles.apart⟩

/-- What a run comes to that nothing disturbs. -/
theorem final_eq_of_undisturbed (hfiles : s.Undisturbed plan settings) :
    ∃ tree notes,
      deliver? s.directory plan.output s.tree (goodProducts settings s.tree plan.documents) =
        some tree ∧
      errors notes = failureEntries settings s.tree plan.documents ∧
      s.final plan settings =
        ⟨tree, notes, (failureEntries settings s.tree plan.documents).length,
          plan.documents.any (CommandLine.isUnwritable settings s.tree)⟩ := by
  have hseparate := hfiles.separate h
  have hstart : Untouched s.tree (plan.documents ++ []) s.start := .start _
  rw [← List.append_nil plan.documents] at hseparate
  obtain ⟨tree, notes, hdeliver, herrors, hsteps, -⟩ :=
    steps_spec hseparate hstart hfiles.writes
  refine ⟨tree, notes, hdeliver, herrors, ?_⟩
  rw [final, Plan.sources, hsteps, start, List.nil_append, Nat.zero_add]

/-- The entries for the bad documents, from what the arguments name. -/
theorem failureEntries_documents :
    failureEntries settings s.tree plan.documents =
      (i.paths.takeWhile fun a => !s.isUnwritable settings a).filterMap fun a =>
        (s.failure? settings a).map (failureEntry (.ofLocation (s.location a))) := by
  rw [failureEntries, ← (plan?_eq_some_iff.1 h.planned).2.2.2, List.takeWhile_map,
    List.filterMap_map]
  rfl

/-- Whether a run comes to a halt, from what the arguments name. -/
theorem any_documents :
    plan.documents.any (CommandLine.isUnwritable settings s.tree) =
      i.paths.any (s.isUnwritable settings) := by
  rw [← (plan?_eq_some_iff.1 h.planned).2.2.2, List.any_map]
  rfl

include hfiles

/-- **The exit code is one exactly if a document is bad or comes to a module that no file can
hold.** -/
theorem exitCode_eq_one_iff :
    (s.run arguments).ending.exitCode = 1 ↔
      ∃ a ∈ i.paths, (s.failure? settings a).isSome ∨ s.isUnwritable settings a := by
  obtain ⟨tree, notes, -, -, hfinal⟩ := final_eq_of_undisturbed h hfiles
  rw [h.run_eq, hfinal, any_documents h, failureEntries_documents h]
  cases hhalted : i.paths.any (s.isUnwritable settings) with
  | true =>
    obtain ⟨a, ha, hunwritable⟩ := List.any_eq_true.1 hhalted
    exact iff_of_true rfl ⟨a, ha, .inr hunwritable⟩
  | false =>
    have hwritable := List.any_eq_false.1 hhalted
    rw [List.takeWhile_eq_self_iff.2 fun a ha => by simpa using hwritable a ha]
    simp only [Bool.false_eq_true, if_false, exitCode_finished, Ne, List.length_eq_zero_iff,
      List.filterMap_eq_nil_iff, Option.map_eq_none_iff]
    push Not
    refine exists_congr fun a => and_congr_right fun ha => ?_
    rw [or_iff_left (hwritable a ha), Option.isSome_iff_ne_none]

/-- The console tells of the bad documents up to the first module that no file can hold. -/
theorem filter_console :
    (s.run arguments).console.filter isFailureLine =
      s.failureLines settings (i.paths.takeWhile fun a => !s.isUnwritable settings a) := by
  obtain ⟨tree, notes, -, herrors, hfinal⟩ := final_eq_of_undisturbed h hfiles
  have hlines : ∀ entry ∈ errors notes, isFailureLine entry.consoleLine := by
    rw [herrors]
    intro entry hentry
    obtain ⟨l, -, hl⟩ := List.mem_filterMap.1 hentry
    obtain ⟨f, -, rfl⟩ := Option.map_eq_some_iff.1 hl
    exact isFailureLine_failureEntry _ f
  rw [h.run_eq, hfinal]
  simp only [filter_consoleLines i.verbose hlines, herrors, failureEntries_documents h,
    List.map_filterMap, Option.map_map]
  rfl

/-- A run with the good documents only leaves the same files.  It succeeds exactly if all of
them come to modules that files can hold. -/
theorem run_withoutBad {others : List String}
    (hothers : Invocation.ofArguments? others = some (s.withoutBad settings i))
    (hsome : (s.withoutBad settings i).paths ≠ []) :
    (s.run others).tree = (s.run arguments).tree ∧
    ((s.run others).ending.exitCode = 0 ↔ ∀ a ∈ i.paths, s.isUnwritable settings a = false) := by
  obtain ⟨hconfig, houtput, hthere, hdocuments⟩ := plan?_eq_some_iff.1 h.planned
  obtain ⟨tree, notes, hdeliver, -, hfinal⟩ := final_eq_of_undisturbed h hfiles
  let fewer : Plan := { plan with documents := (s.withoutBad settings i).paths.map s.location }
  have hcompiles : s.Compiles others (s.withoutBad settings i) fewer settings :=
    { h with
      parsed := hothers
      named := hsome
      planned := plan?_eq_some_iff.2
        ⟨hconfig, houtput, fun a ha => hthere a (List.mem_of_mem_filter ha), rfl⟩ }
  have hfewer : fewer.documents =
      plan.documents.filter fun l => (CommandLine.failure? settings s.tree l).isNone := by
    rw [← hdocuments, List.filter_map]
    rfl
  have hseparate : Separate settings s.directory plan.output s.tree fewer.documents :=
    hfewer ▸ (hfiles.separate h).filter
  have hdeliver' : deliver? s.directory plan.output s.tree
      (goodProducts settings s.tree fewer.documents) = some tree := by
    rw [hfewer, goodProducts_filter]
    exact hdeliver
  have hfiles' : s.Undisturbed fewer settings :=
    ⟨hfiles.rooted, writesAll_of_deliver? hseparate (.start _) hdeliver', hseparate.apart⟩
  obtain ⟨tree', notes', hsame, -, hfinal'⟩ := final_eq_of_undisturbed hcompiles hfiles'
  obtain rfl : tree = tree' := Option.some.inj (hdeliver'.symm.trans hsame)
  constructor
  · rw [hcompiles.run_eq, h.run_eq, hfinal, hfinal']
  · rw [hcompiles.exitCode_eq_zero_iff, Ne, exitCode_eq_one_iff hcompiles hfiles']
    constructor
    · intro hnone a ha
      by_contra hunwritable
      rw [Bool.not_eq_false] at hunwritable
      exact hnone ⟨a, mem_withoutBad ha hunwritable, .inr hunwritable⟩
    · rintro hwritable ⟨a, ha, hbad | hunwritable⟩
      · rw [Option.isSome_iff_ne_none] at hbad
        exact hbad (Option.isNone_iff_eq_none.1 (List.mem_filter.1 ha).2)
      · rw [hwritable a (List.mem_of_mem_filter ha)] at hunwritable
        cases hunwritable

/-- The turn of a bad document changes no file. -/
theorem leavesFiles_of_undisturbed : s.LeavesFiles plan settings := by
  intro before l after hsplit hbad
  have hseparate := hfiles.separate h
  have hwrites := hfiles.writes
  rw [hsplit] at hseparate
  rw [Plan.sources, hsplit, List.map_append] at hwrites
  have hstart : Untouched s.tree (before ++ l :: after) s.start := .start _
  obtain ⟨tree, notes, -, -, hsteps, huntouched⟩ :=
    steps_spec hseparate hstart (writesAll_append hwrites)
  cases hhalted : before.any (CommandLine.isUnwritable settings s.tree) with
  | true => rw [step_of_halted (by rw [hsteps, hhalted])]
  | false =>
    have hl := hseparate.there l (List.mem_append_right _ (List.mem_cons_self ..))
    cases hcompiled : compileFile settings s.tree l with
    | ok c =>
      rw [failure?_of_ok hcompiled] at hbad
      cases hbad
    | error f => rw [((huntouched hhalted).step_bad hseparate.rooted hl hcompiled).1]

end

/-- **When failures are kept apart.**  Take a run that compiles named documents and that
nothing but those disturbs.  Failures are kept apart exactly if every module can be held by a
file; with a version in the settings that is made of characters that is always so
(`isUnwritable_of_hasWritableVersion`).  Whether or not it is so, the good documents alone can
be asked for, a run with them leaves the same files, and the turn of a bad document changes
none; the exit code and the console are those of a run that comes to a halt at the first
module that no file can hold. -/
theorem failures_apart_iff_all_writable (h : s.Compiles arguments i plan settings)
    (hfiles : s.Undisturbed plan settings) :
    (s.FailuresApart arguments i plan settings ↔
      ∀ a ∈ i.paths, s.isUnwritable settings a = false) ∧
    (∃ others, Invocation.ofArguments? others = some (s.withoutBad settings i)) ∧
    (∀ others, Invocation.ofArguments? others = some (s.withoutBad settings i) →
      (s.withoutBad settings i).paths ≠ [] →
      (s.run others).tree = (s.run arguments).tree ∧
      ((s.run others).ending.exitCode = 0 ↔
        ∀ a ∈ i.paths, s.isUnwritable settings a = false)) ∧
    s.LeavesFiles plan settings ∧
    ((s.run arguments).ending.exitCode = 1 ↔
      ∃ a ∈ i.paths, (s.failure? settings a).isSome ∨ s.isUnwritable settings a) ∧
    (s.run arguments).console.filter isFailureLine =
      s.failureLines settings (i.paths.takeWhile fun a => !s.isUnwritable settings a) := by
  have hexit := exitCode_eq_one_iff h hfiles
  have hconsole := filter_console h hfiles
  have hleaves := leavesFiles_of_undisturbed h hfiles
  have hothers (others : List String)
      (hspelled : Invocation.ofArguments? others = some (s.withoutBad settings i)) :=
    run_withoutBad h hfiles hspelled
  refine ⟨⟨fun hkept a ha => ?_, fun hwritable => ?_⟩, ⟨_, Invocation.ofArguments?_spelling _⟩,
    hothers, hleaves, hexit, hconsole⟩
  · -- The run with the good documents only would fail, with no bad one in it.
    by_contra hunwritable
    have hsome := List.ne_nil_of_mem (mem_withoutBad ha (Bool.not_eq_false _ ▸ hunwritable))
    have hspelled := Invocation.ofArguments?_spelling (s.withoutBad settings i)
    have hsucceeds := (hkept.others _ hspelled hsome).2
    exact hunwritable ((hothers _ hspelled hsome).2.1 hsucceeds a ha)
  · constructor
    · rw [hexit]
      refine exists_congr fun a => and_congr_right fun ha => or_iff_left ?_
      rw [hwritable a ha]
      nofun
    · rw [hconsole, List.takeWhile_eq_self_iff.2 fun a ha => by rw [hwritable a ha]; rfl]
    · intro others hspelled hsome
      obtain ⟨htree, hexit'⟩ := hothers others hspelled hsome
      exact ⟨htree, hexit'.2 hwritable⟩
    · exact hleaves

end Surroundings

/-! ### A bad file beside a good one -/

/-- What a file comes to whose text is known. -/
theorem compileFile_of_text {settings : Settings} {t : Tree} {l : Location} {bytes : ByteArray}
    {text : String} (hfile : t.file? l = some bytes) (htext : Tree.textOfBytes? bytes = some text) :
    compileFile settings t l = (compileDocument settings text).mapError .structural := by
  rw [compileFile, hfile, Option.bind_some, htext]

section

variable {first second : ByteArray}

theorem file?_shelf_first : (shelf first second).tree.file? ["Gtk-3.0.gir"] = some first := by
  rfl

theorem file?_shelf_second : (shelf first second).tree.file? ["Gtk-4.0.gir"] = some second := by
  rfl

/-- Nothing but the documents disturbs a run over the directory if the first one is bad. -/
theorem undisturbed_shelf {f : Failure}
    (hbad : compileFile {} (shelf first second).tree ["Gtk-3.0.gir"] = .error f) :
    (shelf first second).Undisturbed shelfPlan {} where
  rooted := (Tree.isRooted_ofFiles List.not_mem_nil _).1
  writes := by
    have hrefused : compileSource {} [] (shelf first second).start.tree
        ⟨"Gtk", ⟨1, ["Gtk-3.0.gir"]⟩⟩ = .error f := hbad
    have hstep : (shelf first second).start.step {} [] shelfPlan.output
        ⟨"Gtk", ⟨1, ["Gtk-3.0.gir"]⟩⟩ = _ := step_of_refused rfl hrefused
    rw [sources_shelfPlan]
    refine ⟨fun _ c _ => ?_, fun _ c _ => ?_, trivial⟩
    · exact Option.isSome_of_eq_some (writeText?_shelf first second _ _)
    · exact hstep ▸ Option.isSome_of_eq_some (writeText?_shelf first second _ _)
  apart := by
    have hplaces : ∀ l ∈ shelfPlan.documents, ∀ m ∈ shelfPlan.documents,
        moduleLocation [] shelfPlan.output (.ofLocation m) ≠ l := by decide +kernel
    exact apart_of_forall_ne hplaces _ _

end

/-- A run over a bad document and a good one fails, and leaves what a run over the good one
leaves. -/
theorem failures_apart_on_shelf :
    (shelf "<".toUTF8 (gtkBytes "4.0")).FailuresApart shelfArguments shelfInvocation shelfPlan {} ∧
    ((shelf "<".toUTF8 (gtkBytes "4.0")).run shelfArguments).ending.exitCode = 1 ∧
    ((shelf "<".toUTF8 (gtkBytes "4.0")).run ["Gtk-4.0.gir", "-o", "out"]).tree =
      ((shelf "<".toUTF8 (gtkBytes "4.0")).run shelfArguments).tree := by
  have hbad : compileFile {} (shelf "<".toUTF8 (gtkBytes "4.0")).tree ["Gtk-3.0.gir"] =
      .error (.structural .malformed) := by
    have hnone : document? (Text.unifyNewlines "<") = none :=
      Option.isNone_iff_eq_none.1 (by decide +kernel)
    rw [compileFile_of_text file?_shelf_first (textOfBytes?_toUTF8 "<"),
      compileDocument_eq_iff.2 (.malformed hnone)]
    rfl
  have hgood : compileFile {} (shelf "<".toUTF8 (gtkBytes "4.0")).tree ["Gtk-4.0.gir"] =
      .ok (gtkCompilation "4.0") := by
    obtain ⟨text, htext, hcompiled⟩ :=
      Option.map_eq_some_iff.1 (compileDocument_gtk (show "4.0" ∈ gtkVersions by decide))
    rw [compileFile_of_text file?_shelf_second htext, hcompiled]
    rfl
  obtain ⟨hiff, -, hothers, -⟩ :=
    Surroundings.failures_apart_iff_all_writable (compiles_shelf "<".toUTF8 (gtkBytes "4.0"))
      (undisturbed_shelf hbad)
  have hfirst : (shelf "<".toUTF8 (gtkBytes "4.0")).failure? {} "Gtk-3.0.gir" = _ :=
    failure?_of_error hbad
  have hsecond : (shelf "<".toUTF8 (gtkBytes "4.0")).failure? {} "Gtk-4.0.gir" = _ :=
    failure?_of_ok hgood
  have hwithout : (shelf "<".toUTF8 (gtkBytes "4.0")).withoutBad {} shelfInvocation =
      { shelfInvocation with paths := ["Gtk-4.0.gir"] } := by
    simp only [Surroundings.withoutBad, shelfInvocation, List.filter_cons, hfirst, hsecond,
      List.filter_nil, Option.isNone_some, Option.isNone_none, Bool.false_eq_true, if_false,
      if_true]
  have hkept := hiff.2 fun a _ => isUnwritable_of_hasWritableVersion rfl _ _
  refine ⟨hkept, hkept.exit.2 ⟨"Gtk-3.0.gir", List.mem_cons_self .., by rw [hfirst]; rfl⟩, ?_⟩
  rw [hwithout] at hothers
  exact (hothers ["Gtk-4.0.gir", "-o", "out"] (by decide +kernel) (List.cons_ne_nil _ _)).1

/-! ### A module that no file can hold -/

/-- A file with settings: the version is half of a surrogate pair. -/
def halfConfig : String :=
  "\x7b\"default_import_version\": \"\\ud800\"\x7d"

/-- The settings in it. -/
def halfSettings : Settings :=
  { importVersion := .halves [0xD800] }

/-- The characters of a document with a class whose parent is in a namespace that is not
included. -/
def widgetChars : List Char :=
  "<repository xmlns='".toList ++ coreNamespace.toList ++
    "'><namespace name='Sample' version='1.0'><class name='Widget'".toList ++
    " parent='Gtk.Widget'/></namespace></repository>".toList

/-- The pieces of the document. -/
def widgetPieces : List Piece :=
  [.opens ⟨none, "repository"⟩ [(⟨none, "xmlns"⟩, coreNamespace.toList)] false,
    .opens ⟨none, "namespace"⟩
      [(⟨none, "name"⟩, "Sample".toList), (⟨none, "version"⟩, "1.0".toList)] false,
    .opens ⟨none, "class"⟩
      [(⟨none, "name"⟩, "Widget".toList), (⟨none, "parent"⟩, "Gtk.Widget".toList)] true,
    .closes ⟨none, "namespace"⟩, .closes ⟨none, "repository"⟩]

/-- The namespace in the document. -/
def widgetNamespace : Element :=
  .mk ⟨some coreNamespace, "namespace"⟩
    [⟨⟨none, "name"⟩, "Sample"⟩, ⟨⟨none, "version"⟩, "1.0"⟩]
    [.element (.mk ⟨some coreNamespace, "class"⟩
      [⟨⟨none, "name"⟩, "Widget"⟩, ⟨⟨none, "parent"⟩, "Gtk.Widget"⟩] [])]

/-- The root of the document. -/
def widgetRoot : Element :=
  .mk ⟨some coreNamespace, "repository"⟩ [] [.element widgetNamespace]

/-- The bytes of the document. -/
def widgetBytes : ByteArray :=
  (String.ofList widgetChars).toUTF8

/-- A directory with settings and two files that are named after namespaces. -/
def desk (config first second : ByteArray) : Surroundings where
  tree := .ofFiles []
    [(⟨0, ["config.json"]⟩, config), (⟨0, ["Sample-1.0.gir"]⟩, first),
      (⟨0, ["Gtk-4.0.gir"]⟩, second)]
  directory := []
  outputVariable := none
  patterns := []

/-- The tree of the directory once the first module was written. -/
def deskWith (config first second : ByteArray) (text : String) : Tree :=
  ⟨[(["config.json"], config), (["Sample-1.0.gir"], first), (["Gtk-4.0.gir"], second),
    (["out", "Sample.d.ts"], text.toUTF8)], [["out"]]⟩

/-- Arguments that name all three. -/
def deskArguments : List String :=
  ["-c", "config.json", "Sample-1.0.gir", "Gtk-4.0.gir", "-o", "out"]

/-- What they ask for. -/
def deskInvocation : Invocation :=
  { config := some "config.json", outputDirectory := some "out"
    paths := ["Sample-1.0.gir", "Gtk-4.0.gir"] }

/-- The plan for that. -/
def deskPlan : Plan :=
  ⟨some ["config.json"], ⟨1, ["out"]⟩, [["Sample-1.0.gir"], ["Gtk-4.0.gir"]]⟩

theorem sources_deskPlan :
    deskPlan.sources = [⟨"Sample", ⟨1, ["Sample-1.0.gir"]⟩⟩, ⟨"Gtk", ⟨1, ["Gtk-4.0.gir"]⟩⟩] := by
  decide +kernel

section

variable (config first second : ByteArray)

theorem readText?_desk_config :
    (desk config first second).tree.readText? [] (Location.path ["config.json"]) =
      Tree.textOfBytes? config := by
  rfl

theorem file?_desk_first :
    (desk config first second).tree.file? ["Sample-1.0.gir"] = some first := by
  rfl

theorem file?_desk_second :
    (desk config first second).tree.file? ["Gtk-4.0.gir"] = some second := by
  rfl

theorem compileSource_desk_first (settings : Settings) :
    compileSource settings [] (desk config first second).tree
      ⟨"Sample", ⟨1, ["Sample-1.0.gir"]⟩⟩ =
      compileFile settings (desk config first second).tree ["Sample-1.0.gir"] := by
  rfl

theorem writeText?_desk (p : Path) (text : String) :
    (desk config first second).tree.writeText? [] (modulePath deskPlan.output ⟨"Sample", p⟩) text =
      some (deskWith config first second text) := by
  rfl

variable {config}

theorem compiles_desk {settings : Settings}
    (hsettings : (desk config first second).settings (some ["config.json"]) = .ok settings) :
    (desk config first second).Compiles deskArguments deskInvocation deskPlan settings where
  parsed := by decide +kernel
  compiling := rfl
  named := List.cons_ne_nil _ _
  planned := by rfl
  configured := by
    rw [deskPlan, hsettings]
    rfl

end

theorem settings_desk (first second : ByteArray) :
    (desk halfConfig.toUTF8 first second).settings (some ["config.json"]) = .ok halfSettings := by
  have hread : Json.read? (Text.unifyNewlines halfConfig) =
      some (.object [("default_import_version", .halves [0xD800])]) := by cbv
  simp only [Surroundings.settings, readText?_desk_config, textOfBytes?_toUTF8, hread]
  rfl

theorem layout?_widget :
    ['<', 'r'] <+: Text.unifyNewlineChars widgetChars ∧
    layout? (Text.unifyNewlineChars widgetChars) =
      some (⟨8388439, false, false, true, [], []⟩, widgetPieces, []) := by
  decide +kernel

theorem rootOf?_widget :
    rootOf? ⟨8388439, false, false, true, [], []⟩ widgetPieces [] = some widgetRoot := by
  cbv

/-- What the document comes to. -/
def widgetCompilation : Compilation :=
  ⟨compile halfSettings [] widgetNamespace, compileJournal halfSettings widgetNamespace⟩

theorem writable_widget : widgetCompilation.result.writable = false := by
  decide +kernel

theorem compileFile_widget (config second : ByteArray) :
    compileFile halfSettings (desk config widgetBytes second).tree ["Sample-1.0.gir"] =
      .ok widgetCompilation := by
  obtain ⟨hstart, hlayout⟩ := layout?_widget
  have hbytes : (Tree.textOfBytes? widgetBytes).bind document? = some widgetRoot :=
    (document?_of_bytes hstart (by decide) hlayout).trans rootOf?_widget
  obtain ⟨text, htext, hroot⟩ := Option.bind_eq_some_iff.1 hbytes
  have hcompiled : compileDocument halfSettings text = _ :=
    compileDocument_of_document? hroot rfl rfl
  rw [compileFile_of_text (file?_desk_first ..) htext, hcompiled]
  rfl

/-- The second document of the directory is good. -/
theorem failure?_desk_second (settings : Settings) (config first : ByteArray) :
    failure? settings (desk config first (gtkBytes "4.0")).tree ["Gtk-4.0.gir"] = none := by
  obtain ⟨text, htext, hroot⟩ :=
    Option.bind_eq_some_iff.1 (document?_gtk (show "4.0" ∈ gtkVersions by decide))
  have hcompiled : compileDocument settings text = _ :=
    compileDocument_of_document? hroot rfl rfl
  exact failure?_of_ok (by rw [compileFile_of_text (file?_desk_second ..) htext, hcompiled]; rfl)

/-- How far a run over the directory comes: the turn of the document ends it. -/
def deskProgress (config second : ByteArray) : Progress :=
  ⟨deskWith config widgetBytes second "",
    parsingEntry ⟨"Sample", ⟨1, ["Sample-1.0.gir"]⟩⟩ :: widgetCompilation.journal, 0, true⟩

theorem step_desk (config second : ByteArray) :
    (desk config widgetBytes second).start.step halfSettings [] deskPlan.output
      ⟨"Sample", ⟨1, ["Sample-1.0.gir"]⟩⟩ = deskProgress config second := by
  have hcompiled := compileFile_widget config second
  rw [← compileSource_desk_first] at hcompiled
  exact step_of_unwritable rfl hcompiled writable_widget (writeText?_desk ..)

theorem final_desk (config second : ByteArray) :
    (desk config widgetBytes second).final deskPlan halfSettings = deskProgress config second := by
  have hdirectory : (desk config widgetBytes second).directory = [] := rfl
  rw [Surroundings.final, sources_deskPlan, hdirectory, steps_cons, step_desk]
  exact steps_of_halted rfl _

theorem undisturbed_desk (config second : ByteArray) :
    (desk config widgetBytes second).Undisturbed deskPlan halfSettings where
  rooted := (Tree.isRooted_ofFiles List.not_mem_nil _).1
  writes := by
    rw [sources_deskPlan]
    refine ⟨fun _ c _ => Option.isSome_of_eq_some (writeText?_desk ..), writesAll_of_halted ?_ _⟩
    exact congrArg Progress.halted (step_desk config second)
  apart := by
    have hplaces : ∀ l ∈ deskPlan.documents, ∀ m ∈ deskPlan.documents,
        moduleLocation [] deskPlan.output (.ofLocation m) ≠ l := by decide +kernel
    exact apart_of_forall_ne hplaces _ _

/-- **A run over good documents fails.**  Nothing disturbs the run and no document is bad;
but the first module that it comes to is one that no file can hold.  Its file is left empty,
and the second document, which has nothing to do with that, is not compiled. -/
theorem halted_without_bad_document :
    (desk halfConfig.toUTF8 widgetBytes (gtkBytes "4.0")).Compiles deskArguments deskInvocation
      deskPlan halfSettings ∧
    (desk halfConfig.toUTF8 widgetBytes (gtkBytes "4.0")).Undisturbed deskPlan halfSettings ∧
    (∀ a ∈ deskInvocation.paths,
      (desk halfConfig.toUTF8 widgetBytes (gtkBytes "4.0")).failure? halfSettings a = none) ∧
    ((desk halfConfig.toUTF8 widgetBytes (gtkBytes "4.0")).run deskArguments).ending.exitCode = 1 ∧
    ((desk halfConfig.toUTF8 widgetBytes (gtkBytes "4.0")).run deskArguments).tree =
      deskWith halfConfig.toUTF8 widgetBytes (gtkBytes "4.0") "" ∧
    ¬ (desk halfConfig.toUTF8 widgetBytes (gtkBytes "4.0")).FailuresApart deskArguments
      deskInvocation deskPlan halfSettings := by
  have hgood : ∀ a ∈ deskInvocation.paths,
      (desk halfConfig.toUTF8 widgetBytes (gtkBytes "4.0")).failure? halfSettings a = none :=
    List.forall_mem_cons.2 ⟨failure?_of_ok (compileFile_widget ..),
      List.forall_mem_singleton.2 (failure?_desk_second ..)⟩
  have hcompiles := compiles_desk widgetBytes (gtkBytes "4.0") (settings_desk _ _)
  have hrun := hcompiles.run_eq
  rw [final_desk] at hrun
  refine ⟨hcompiles, undisturbed_desk _ _, hgood, ?_, ?_, fun hkept => ?_⟩
  · rw [hrun]
    rfl
  · rw [hrun]
    rfl
  · obtain ⟨a, ha, hbad⟩ := hkept.exit.1 (by rw [hrun]; rfl)
    rw [hgood a ha] at hbad
    cases hbad

end GirTypings.CommandLine
