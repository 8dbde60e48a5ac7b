import GirTypings.CommandLine.Run
import GirTypings.Proofs.FileTree
import GirTypings.Proofs.Reading

/-!
# Turns

When documents are compiled one after the other, each has its turn.  A turn comes to one of
four things (`Turn`): the document is refused, its module is blocked, the run comes to a
halt, or the module is written.  All that is said about runs is derived from this.

A module is written to a file of its name directly inside the output directory
(`moduleLocation`); modules of different names never meet.

* `turn_step`: what a turn comes to;
* `Flawless.first`: in a run that ends well every turn wrote its module;
* `Surroundings.Compiles.run_eq`: the outcome of a run that compiles named documents.
-/

namespace GirTypings.CommandLine

open Files

/-! ### Where modules go -/

/-- The place of the module of a source. -/
def moduleLocation (directory : Location) (output : Path) (s : Source) : Location :=
  output.locationFrom directory ++ [s.name ++ ".d.ts"]

theorem locationFrom_modulePath (directory : Location) (output : Path) (s : Source) :
    (modulePath output s).locationFrom directory = moduleLocation directory output s := by
  have hname : s.name ++ ".d.ts" ≠ ".." := by
    intro h
    have hlength := congrArg String.length h
    rw [String.length_append, show ".d.ts".length = 5 from rfl, show "..".length = 2 from rfl]
      at hlength
    omega
  rw [modulePath, Path.child, Path.locationFrom, List.foldl_append]
  exact Location.step_of_ne hname _

/-- Sources whose modules go to one place have one name. -/
theorem name_eq_of_moduleLocation_eq {directory : Location} {output : Path} {s s' : Source}
    (h : moduleLocation directory output s = moduleLocation directory output s') :
    s.name = s'.name := by
  have hlast := List.append_cancel_left h
  exact (String.append_left_inj _).1 (List.singleton_injective hlast)

theorem moduleLocation_congr {directory : Location} {output : Path} {s s' : Source}
    (h : s.name = s'.name) :
    moduleLocation directory output s = moduleLocation directory output s' := by
  rw [moduleLocation, moduleLocation, h]

/-! ### What a turn comes to -/

/-- The entry for a document whose turn it is. -/
def parsingEntry (s : Source) : Entry :=
  note .info ("Parsing " ++ s.path.text ++ "...")

/-- The entry for a document that failed. -/
def failureEntry (s : Source) (f : Failure) : Entry :=
  note .error ("Failed to generate " ++ s.path.text ++ ": " ++ f.message)

/-- The entries for the classes of a module that could not be ordered. -/
def stalledEntries (s : Source) (m : Module) : List Entry :=
  if m.stalled.isEmpty then []
  else [note .warning (s.name ++ ": unordered classes: " ++ Text.commaList m.stalled)]

section

variable (settings : Settings) (directory : Location) (output : Path)

/-- What the turn of a source can come to, from how far the run has come. -/
inductive Turn (p : Progress) (s : Source) : Progress → Prop where
  /-- The document cannot be read or compiled. -/
  | refused (f : Failure) (compiled : compileSource settings directory p.tree s = .error f) :
      Turn p s ⟨p.tree, p.journal ++ [parsingEntry s, failureEntry s f], p.failures + 1, false⟩
  /-- There is an error when the module is written. -/
  | blocked (c : Compilation) (compiled : compileSource settings directory p.tree s = .ok c)
      (unwritten : p.tree.writeText? directory (modulePath output s)
        (if c.result.writable then c.result.text else "") = none) :
      Turn p s ⟨p.tree, p.journal ++ parsingEntry s :: c.journal ++ [failureEntry s .io],
        p.failures + 1, false⟩
  /-- The module is not made of characters. -/
  | halted (c : Compilation) (tree : Tree)
      (compiled : compileSource settings directory p.tree s = .ok c)
      (unwritable : c.result.writable = false)
      (emptied : p.tree.writeText? directory (modulePath output s) "" = some tree) :
      Turn p s ⟨tree, p.journal ++ parsingEntry s :: c.journal, p.failures, true⟩
  /-- The module is written. -/
  | written (c : Compilation) (tree : Tree)
      (compiled : compileSource settings directory p.tree s = .ok c)
      (writable : c.result.writable = true)
      (written : p.tree.writeText? directory (modulePath output s) c.result.text = some tree) :
      Turn p s ⟨tree, p.journal ++ parsingEntry s :: c.journal ++ stalledEntries s c.result,
        p.failures, false⟩

variable {p : Progress}

/-- **What a turn comes to.** -/
theorem turn_step (hp : p.halted = false) (s : Source) :
    Turn settings directory output p s (p.step settings directory output s) := by
  obtain ⟨tree, journal, failures, halted⟩ := p
  obtain rfl : halted = false := hp
  simp only [Progress.step, Progress.record, Progress.fail, Bool.false_eq_true, if_false]
  split
  · next f compiled =>
    rw [List.append_assoc]
    exact .refused f compiled
  · next c compiled =>
    rw [List.append_assoc journal]
    split
    · next unwritten => exact .blocked c compiled unwritten
    · next tree hwritten =>
      cases writable : c.result.writable with
      | false => exact .halted c tree compiled writable (by simpa [writable] using hwritten)
      | true => exact .written c tree compiled writable (by simpa [writable] using hwritten)

variable {settings directory output}

/-- A turn comes to one thing only. -/
theorem Turn.unique {s : Source} {q q' : Progress} (h : Turn settings directory output p s q)
    (h' : Turn settings directory output p s q') : q = q' := by
  cases h with
  | refused f compiled => cases h' <;> simp_all
  | blocked c compiled unwritten => cases h' <;> simp_all
  | halted c tree compiled unwritable emptied => cases h' <;> simp_all
  | written c tree compiled writable written => cases h' <;> simp_all

/-- The turn of a document that cannot be read or compiled. -/
theorem step_of_refused (hp : p.halted = false) {s : Source} {f : Failure}
    (hcompiled : compileSource settings directory p.tree s = .error f) :
    p.step settings directory output s =
      ⟨p.tree, p.journal ++ [parsingEntry s, failureEntry s f], p.failures + 1, false⟩ :=
  (turn_step settings directory output hp s).unique (.refused f hcompiled)

/-- The turn of a document whose module is not made of characters. -/
theorem step_of_unwritable (hp : p.halted = false) {s : Source} {c : Compilation} {tree : Tree}
    (hcompiled : compileSource settings directory p.tree s = .ok c)
    (hunwritable : c.result.writable = false)
    (hemptied : p.tree.writeText? directory (modulePath output s) "" = some tree) :
    p.step settings directory output s =
      ⟨tree, p.journal ++ parsingEntry s :: c.journal, p.failures, true⟩ :=
  (turn_step settings directory output hp s).unique (.halted c tree hcompiled hunwritable hemptied)

/-- The turn of a document whose module is written. -/
theorem step_of_written (hp : p.halted = false) {s : Source} {c : Compilation} {tree : Tree}
    (hcompiled : compileSource settings directory p.tree s = .ok c)
    (hwritable : c.result.writable = true)
    (hwritten : p.tree.writeText? directory (modulePath output s) c.result.text = some tree) :
    p.step settings directory output s =
      ⟨tree, p.journal ++ parsingEntry s :: c.journal ++ stalledEntries s c.result, p.failures,
        false⟩ :=
  (turn_step settings directory output hp s).unique (.written c tree hcompiled hwritable hwritten)

/-! ### One turn after the other -/

theorem step_of_halted (hp : p.halted = true) (s : Source) :
    p.step settings directory output s = p := by
  rw [Progress.step, if_pos hp]

theorem steps_cons (p : Progress) (s : Source) (rest : List Source) :
    p.steps settings directory output (s :: rest) =
      (p.step settings directory output s).steps settings directory output rest := rfl

theorem steps_of_halted (hp : p.halted = true) (sources : List Source) :
    p.steps settings directory output sources = p := by
  induction sources with
  | nil => rfl
  | cons s rest ih => rw [steps_cons, step_of_halted hp, ih]

/-- A turn takes no failure back. -/
theorem failures_le_step (p : Progress) (s : Source) :
    p.failures ≤ (p.step settings directory output s).failures := by
  cases hp : p.halted with
  | true => exact Nat.le_of_eq (by rw [step_of_halted hp])
  | false =>
    have hturn := turn_step settings directory output hp s
    generalize p.step settings directory output s = q at hturn
    cases hturn with
    | refused => exact Nat.le_succ _
    | blocked => exact Nat.le_succ _
    | halted => exact Nat.le_refl _
    | written => exact Nat.le_refl _

theorem failures_le_steps (p : Progress) (sources : List Source) :
    p.failures ≤ (p.steps settings directory output sources).failures := by
  induction sources generalizing p with
  | nil => exact Nat.le_refl _
  | cons s rest ih => exact Nat.le_trans (failures_le_step p s) (ih _)

/-- Whether a run neither comes to a halt nor has a failure more at the end of some turns. -/
structure Flawless (settings : Settings) (directory : Location) (output : Path) (p : Progress)
    (sources : List Source) : Prop where
  running : (p.steps settings directory output sources).halted = false
  flawless : (p.steps settings directory output sources).failures = p.failures

/-- **In turns without a flaw the first one wrote its module**, and the others are without a
flaw too. -/
theorem Flawless.first {s : Source} {rest : List Source}
    (h : Flawless settings directory output p (s :: rest)) :
    ∃ c tree, compileSource settings directory p.tree s = .ok c ∧
      p.tree.writeText? directory (modulePath output s) c.result.text = some tree ∧
      (p.step settings directory output s).tree = tree ∧
      Flawless settings directory output (p.step settings directory output s) rest := by
  obtain ⟨hrunning, hflawless⟩ := h
  rw [steps_cons] at hrunning hflawless
  have hp : p.halted = false := by
    cases hp : p.halted with
    | false => rfl
    | true => rw [step_of_halted hp, steps_of_halted hp, hp] at hrunning; cases hrunning
  have hle : (p.step settings directory output s).failures ≤
      ((p.step settings directory output s).steps settings directory output rest).failures :=
    failures_le_steps _ rest
  have hturn := turn_step settings directory output hp s
  generalize p.step settings directory output s = q at hrunning hflawless hle hturn ⊢
  cases hturn with
  | refused f compiled =>
    simp only at hle
    omega
  | blocked c compiled unwritten =>
    simp only at hle
    omega
  | halted c tree compiled unwritable emptied =>
    rw [steps_of_halted rfl] at hrunning
    cases hrunning
  | written c tree compiled writable written =>
    exact ⟨c, tree, compiled, written, rfl, hrunning, hflawless⟩

end

/-! ### Runs that compile named documents -/

/-- The sources that a plan names. -/
def Plan.sources (plan : Plan) : List Source :=
  plan.documents.map Source.ofLocation

/-- How far a run has come before the first turn. -/
def Surroundings.start (s : Surroundings) : Progress :=
  ⟨s.tree, [], 0, false⟩

namespace Surroundings

variable {s : Surroundings} {arguments : List String} {i : Invocation} {plan : Plan}
  {settings : Settings}

/-- How far a run has come after the last turn. -/
def final (s : Surroundings) (plan : Plan) (settings : Settings) : Progress :=
  s.start.steps settings s.directory plan.output plan.sources

/-- Whether arguments make a run compile documents that they name: they make sense, all
that they name is there, and the settings, with what the arguments ask for on top, can be
read. -/
structure Compiles (s : Surroundings) (arguments : List String) (i : Invocation) (plan : Plan)
    (settings : Settings) : Prop where
  parsed : Invocation.ofArguments? arguments = some i
  compiling : i.help = false
  named : i.paths ≠ []
  planned : s.plan? i = some plan
  configured : (s.settings plan.config).map (overrule i) = .ok settings

theorem file?_eq_some_iff {argument : String} {l : Location} :
    s.file? argument = some l ↔ s.tree.isFile (s.location argument) ∧ s.location argument = l := by
  simp [file?]

/-- Files are found at the places that arguments name, if all of them are there. -/
theorem mapM_file?_eq_some_iff {paths : List String} {documents : List Location} :
    paths.mapM s.file? = some documents ↔
      (∀ a ∈ paths, s.tree.isFile (s.location a)) ∧ paths.map s.location = documents := by
  induction paths generalizing documents with
  | nil => simp
  | cons a rest ih =>
    rw [List.mapM_cons, List.forall_mem_cons, List.map_cons]
    constructor
    · intro h
      obtain ⟨l, hl, h⟩ := Option.bind_eq_some_iff.1 h
      obtain ⟨others, hothers, h⟩ := Option.bind_eq_some_iff.1 h
      obtain rfl := Option.some.inj h
      obtain ⟨hfile, rfl⟩ := file?_eq_some_iff.1 hl
      obtain ⟨hfiles, rfl⟩ := ih.1 hothers
      exact ⟨⟨hfile, hfiles⟩, rfl⟩
    · rintro ⟨⟨hfile, hfiles⟩, rfl⟩
      rw [file?_eq_some_iff.2 ⟨hfile, rfl⟩, ih.2 ⟨hfiles, rfl⟩]
      rfl

/-- The file with settings that an invocation names, if it is there. -/
def config? (s : Surroundings) : Option String → Option (Option Location)
  | none => some none
  | some argument => (s.file? argument).map some

theorem plan?_eq (s : Surroundings) (i : Invocation) :
    s.plan? i =
      (s.config? i.config).bind fun config => (s.output? i.outputDirectory).bind fun output =>
        (i.paths.mapM s.file?).bind fun documents => some ⟨config, output, documents⟩ := by
  rw [plan?]
  cases i.config with
  | none => rfl
  | some => rfl

/-- A plan has what was found, the documents where the arguments say. -/
theorem plan?_eq_some_iff :
    s.plan? i = some plan ↔
      s.config? i.config = some plan.config ∧ s.output? i.outputDirectory = some plan.output ∧
      (∀ a ∈ i.paths, s.tree.isFile (s.location a)) ∧ i.paths.map s.location = plan.documents := by
  simp only [plan?_eq, Option.bind_eq_some_iff, Option.some_inj, ← mapM_file?_eq_some_iff]
  constructor
  · rintro ⟨config, hconfig, output, houtput, documents, hdocuments, rfl⟩
    exact ⟨hconfig, houtput, hdocuments⟩
  · rintro ⟨hconfig, houtput, hdocuments⟩
    exact ⟨_, hconfig, _, houtput, _, hdocuments, rfl⟩

/-- **The outcome of a run that compiles named documents** is what the turns come to. -/
theorem Compiles.run_eq (h : s.Compiles arguments i plan settings) :
    s.run arguments =
      ⟨if (s.final plan settings).halted then .unwritable
        else .finished (s.final plan settings).failures,
        (s.final plan settings).tree, consoleLines i.verbose (s.final plan settings).journal⟩ := by
  have hdocuments : plan.documents.isEmpty = false := by
    rw [← (plan?_eq_some_iff.1 h.planned).2.2.2, List.isEmpty_map, List.isEmpty_eq_false_iff]
    exact h.named
  have hconfigured := h.configured
  simp only [run, h.parsed, h.compiling, h.planned, Bool.false_eq_true, if_false]
  cases hsettings : s.settings plan.config with
  | error => rw [hsettings] at hconfigured; cases hconfigured
  | ok read =>
    rw [hsettings] at hconfigured
    obtain rfl := Except.ok.inj hconfigured
    simp only [perform, hdocuments, Bool.false_eq_true, if_false]
    rfl

end Surroundings

/-! ### Two files in a directory -/

/-- A directory with two files that are named after versions of one namespace. -/
def shelf (first second : ByteArray) : Surroundings where
  tree := .ofFiles [] [(⟨0, ["Gtk-3.0.gir"]⟩, first), (⟨0, ["Gtk-4.0.gir"]⟩, second)]
  directory := []
  outputVariable := none
  patterns := []

/-- The tree of the directory once a module was written. -/
def shelfWith (first second : ByteArray) (text : String) : Tree :=
  ⟨[(["Gtk-3.0.gir"], first), (["Gtk-4.0.gir"], second), (["out", "Gtk.d.ts"], text.toUTF8)],
    [["out"]]⟩

/-- Arguments that name both files. -/
def shelfArguments : List String :=
  ["Gtk-3.0.gir", "Gtk-4.0.gir", "-o", "out"]

/-- What they ask for. -/
def shelfInvocation : Invocation :=
  { outputDirectory := some "out", paths := ["Gtk-3.0.gir", "Gtk-4.0.gir"] }

/-- The plan for that. -/
def shelfPlan : Plan :=
  ⟨none, ⟨1, ["out"]⟩, [["Gtk-3.0.gir"], ["Gtk-4.0.gir"]]⟩

theorem compiles_shelf (first second : ByteArray) :
    (shelf first second).Compiles shelfArguments shelfInvocation shelfPlan {} where
  parsed := by decide +kernel
  compiling := rfl
  named := List.cons_ne_nil _ _
  planned := by rfl
  configured := rfl

theorem sources_shelfPlan :
    shelfPlan.sources = [⟨"Gtk", ⟨1, ["Gtk-3.0.gir"]⟩⟩, ⟨"Gtk", ⟨1, ["Gtk-4.0.gir"]⟩⟩] := by
  decide +kernel

theorem readText?_shelf_first (first second : ByteArray) :
    (shelf first second).tree.readText? [] ⟨1, ["Gtk-3.0.gir"]⟩ = Tree.textOfBytes? first := by
  rfl

theorem readText?_shelfWith_second (first second : ByteArray) (text : String) :
    (shelfWith first second text).readText? [] ⟨1, ["Gtk-4.0.gir"]⟩ =
      Tree.textOfBytes? second := by
  rfl

theorem writeText?_shelf (first second : ByteArray) (p : Path) (text : String) :
    (shelf first second).tree.writeText? [] (modulePath shelfPlan.output ⟨"Gtk", p⟩) text =
      some (shelfWith first second text) := by
  rfl

theorem writeText?_shelfWith (first second : ByteArray) (p : Path) (before text : String) :
    (shelfWith first second before).writeText? [] (modulePath shelfPlan.output ⟨"Gtk", p⟩) text =
      some (shelfWith first second text) := by
  rfl

theorem compileSource_of_bytes {settings : Settings} {directory : Location} {t : Tree} {s : Source}
    {bytes : ByteArray} {c : Compilation}
    (hread : t.readText? directory s.path = Tree.textOfBytes? bytes)
    (hcompiled : (Tree.textOfBytes? bytes).map (compileDocument settings) = some (.ok c)) :
    compileSource settings directory t s = .ok c := by
  obtain ⟨text, htext, hcompiled⟩ := Option.map_eq_some_iff.1 hcompiled
  rw [compileSource, hread, htext]
  simp only [hcompiled, Except.mapError]

end GirTypings.CommandLine
