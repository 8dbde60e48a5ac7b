import GirTypings.Proofs.FailureLine

/-!
# What turns come to

A document is **bad** if its file does not hold text or the text cannot be compiled
(`failure?`).  Where nothing is written to the place of a document, what a document comes to
does not depend on its turn: it is what the file comes to in the tree that the run starts
with (`Untouched.compileSource_eq`).  So the tree after some turns is the one in which the
modules of the good documents were put, one after the other (`deliver?`), and bad documents
leave nothing behind but an entry each in the journal.  All this ends with the first module
whose text is not made of characters (`isUnwritable`): the run comes to a halt, and the file
of the module stays empty.

* `Untouched.step_bad`, `Untouched.step_good`: what one turn comes to;
* `steps_spec`: what the turns of some documents come to.
-/

namespace GirTypings.CommandLine

open Files

/-! ### Bad documents -/

/-- What a file of a tree compiles to. -/
def compileFile (settings : Settings) (t : Tree) (l : Location) : Except Failure Compilation :=
  match (t.file? l).bind Tree.textOfBytes? with
  | none => .error .io
  | some text => (compileDocument settings text).mapError .structural

/-- Why a file is bad, if it is: it does not hold text, or the text cannot be compiled. -/
def failure? (settings : Settings) (t : Tree) (l : Location) : Option Failure :=
  match compileFile settings t l with
  | .ok _ => none
  | .error f => some f

/-- Whether a file comes to a module that no file can hold, for its text is not made of
characters. -/
def isUnwritable (settings : Settings) (t : Tree) (l : Location) : Bool :=
  match compileFile settings t l with
  | .ok c => !c.result.writable
  | .error _ => false

/-- What is put into the file of a module. -/
def content (m : Module) : String :=
  if m.writable then m.text else ""

/-- What is written for some files.  Bad files are passed over; one whose module no file can
hold is the last that something is written for. -/
def goodProducts (settings : Settings) (t : Tree) : List Location → List (Source × String)
  | [] => []
  | l :: ls =>
    match compileFile settings t l with
    | .error _ => goodProducts settings t ls
    | .ok c =>
      (.ofLocation l, content c.result) ::
        if c.result.writable then goodProducts settings t ls else []

/-- The entries for the bad ones of some files, up to the first one whose module no file can
hold. -/
def failureEntries (settings : Settings) (t : Tree) (ls : List Location) : List Entry :=
  (ls.takeWhile fun l => !isUnwritable settings t l).filterMap fun l =>
    (failure? settings t l).map (failureEntry (.ofLocation l))

/-- The tree with some modules more, put there one after the other; `none` if one of them
cannot be written. -/
def deliver? (directory : Location) (output : Path) (t : Tree)
    (products : List (Source × String)) : Option Tree :=
  products.foldlM (fun t product =>
    t.writeText? directory (modulePath output product.1) product.2) t

section

variable {settings : Settings} {t : Tree} {l : Location} {f : Failure} {c : Compilation}

theorem failure?_of_error (h : compileFile settings t l = .error f) :
    failure? settings t l = some f := by
  rw [failure?, h]

theorem failure?_of_ok (h : compileFile settings t l = .ok c) : failure? settings t l = none := by
  rw [failure?, h]

theorem isUnwritable_of_error (h : compileFile settings t l = .error f) :
    isUnwritable settings t l = false := by
  rw [isUnwritable, h]

theorem isUnwritable_of_ok (h : compileFile settings t l = .ok c) :
    isUnwritable settings t l = !c.result.writable := by
  rw [isUnwritable, h]

/-- A bad file comes to no module. -/
theorem failure?_of_isUnwritable (h : isUnwritable settings t l) :
    failure? settings t l = none := by
  cases hcompiled : compileFile settings t l with
  | ok c => exact failure?_of_ok hcompiled
  | error f =>
    rw [isUnwritable_of_error hcompiled] at h
    cases h

theorem content_of_writable {m : Module} (h : m.writable = true) : content m = m.text :=
  if_pos h

theorem content_of_unwritable {m : Module} (h : m.writable = false) : content m = "" :=
  if_neg (Bool.eq_false_iff.1 h)

theorem goodProducts_cons_of_error (h : compileFile settings t l = .error f)
    (ls : List Location) : goodProducts settings t (l :: ls) = goodProducts settings t ls := by
  rw [goodProducts, h]

theorem goodProducts_cons_of_ok (h : compileFile settings t l = .ok c) (ls : List Location) :
    goodProducts settings t (l :: ls) =
      (.ofLocation l, content c.result) ::
        if c.result.writable then goodProducts settings t ls else [] := by
  rw [goodProducts, h]

theorem failureEntries_cons_of_error (h : compileFile settings t l = .error f)
    (ls : List Location) :
    failureEntries settings t (l :: ls) =
      failureEntry (.ofLocation l) f :: failureEntries settings t ls := by
  rw [failureEntries, List.takeWhile_cons_of_pos (by rw [isUnwritable_of_error h]; rfl)]
  exact List.filterMap_cons_some (by rw [failure?_of_error h]; rfl)

theorem failureEntries_cons_of_ok (h : compileFile settings t l = .ok c) (ls : List Location) :
    failureEntries settings t (l :: ls) =
      if c.result.writable then failureEntries settings t ls else [] := by
  rw [failureEntries, List.takeWhile_cons, isUnwritable_of_ok h, Bool.not_not]
  split
  · exact List.filterMap_cons_none (by rw [failure?_of_ok h]; rfl)
  · rfl

end

/-- Something is written only for files. -/
theorem exists_of_mem_goodProducts {settings : Settings} {t : Tree} {ls : List Location}
    {product : Source × String} (h : product ∈ goodProducts settings t ls) :
    ∃ l ∈ ls, product.1 = .ofLocation l := by
  induction ls with
  | nil => cases h
  | cons l ls ih =>
    have hlater (hproduct : product ∈ goodProducts settings t ls) :
        ∃ m ∈ l :: ls, product.1 = .ofLocation m := by
      obtain ⟨m, hm, heq⟩ := ih hproduct
      exact ⟨m, List.mem_cons_of_mem l hm, heq⟩
    cases hcompiled : compileFile settings t l with
    | error f => exact hlater (by rwa [goodProducts_cons_of_error hcompiled] at h)
    | ok c =>
      rw [goodProducts_cons_of_ok hcompiled] at h
      rcases List.mem_cons.1 h with rfl | h
      · exact ⟨l, List.mem_cons_self .., rfl⟩
      · split at h
        · exact hlater h
        · cases h

/-- Nothing is written to the places of some files if no module of a file goes there. -/
theorem apart_of_forall_ne {directory : Location} {output : Path} {ls : List Location}
    (h : ∀ l ∈ ls, ∀ m ∈ ls, moduleLocation directory output (.ofLocation m) ≠ l)
    (settings : Settings) (t : Tree) :
    ∀ l ∈ ls, ∀ product ∈ goodProducts settings t ls,
      moduleLocation directory output product.1 ≠ l := by
  intro l hl product hproduct
  obtain ⟨m, hm, heq⟩ := exists_of_mem_goodProducts hproduct
  rw [heq]
  exact h l hl m hm

/-- Leaving out bad files changes nothing that is written. -/
theorem goodProducts_filter (settings : Settings) (t : Tree) (ls : List Location) :
    goodProducts settings t (ls.filter fun l => (failure? settings t l).isNone) =
      goodProducts settings t ls := by
  induction ls with
  | nil => rfl
  | cons l ls ih =>
    cases hcompiled : compileFile settings t l with
    | error f =>
      rw [List.filter_cons_of_neg (by rw [failure?_of_error hcompiled]; nofun), ih,
        goodProducts_cons_of_error hcompiled]
    | ok c =>
      rw [List.filter_cons_of_pos (by rw [failure?_of_ok hcompiled]; rfl),
        goodProducts_cons_of_ok hcompiled, ih, goodProducts_cons_of_ok hcompiled]

theorem compileSource_ofLocation {settings : Settings} {directory : Location} {t : Tree}
    {l : Location} (h : t.locate? directory l.path = some l) :
    compileSource settings directory t (.ofLocation l) = compileFile settings t l := by
  have hread : t.readText? directory l.path = (t.file? l).bind Tree.textOfBytes? := by
    rw [Tree.readText?, h]
    rfl
  rw [compileSource, Source.ofLocation, hread]
  rfl

/-- What compiles is what a document in the file compiles to. -/
theorem exists_of_compileFile {settings : Settings} {t : Tree} {l : Location} {c : Compilation}
    (h : compileFile settings t l = .ok c) : ∃ text, compileDocument settings text = .ok c := by
  rw [compileFile] at h
  split at h
  · cases h
  · next text _ =>
    cases hcompiled : compileDocument settings text with
    | error => rw [hcompiled] at h; cases h
    | ok c' =>
      rw [hcompiled] at h
      exact ⟨text, hcompiled.trans (congrArg Except.ok (Except.ok.inj h))⟩

/-- What compiles notes no error. -/
theorem errors_compileFile {settings : Settings} {t : Tree} {l : Location} {c : Compilation}
    (h : compileFile settings t l = .ok c) : errors c.journal = [] := by
  obtain ⟨text, hcompiled⟩ := exists_of_compileFile h
  exact errors_of_compileDocument hcompiled

/-- **With a version in the settings that is made of characters, every module is.** -/
theorem isUnwritable_of_hasWritableVersion {settings : Settings} (h : settings.hasWritableVersion)
    (t : Tree) (l : Location) : isUnwritable settings t l = false := by
  cases hcompiled : compileFile settings t l with
  | error f => exact isUnwritable_of_error hcompiled
  | ok c =>
    obtain ⟨text, hdocument⟩ := exists_of_compileFile hcompiled
    obtain ⟨root, space, -, -, -, rfl⟩ := comesTo_ok_iff.1 (compileDocument_eq_iff.1 hdocument)
    rw [isUnwritable_of_ok hcompiled, compile, h, Bool.true_or]
    rfl

/-! ### Turns that do not touch what is still to be read -/

section

variable (settings : Settings) (directory : Location) (output : Path)

/-- Whether there is no error when modules are written in some turns. -/
def Progress.WritesAll : Progress → List Source → Prop
  | _, [] => True
  | p, s :: rest =>
    (p.halted = false → ∀ c, compileSource settings directory p.tree s = .ok c →
      (p.tree.writeText? directory (modulePath output s) (content c.result)).isSome) ∧
    WritesAll (p.step settings directory output s) rest

/-- What is asked of the files to compile in a tree: they are there, and nothing is written
to the place of one. -/
structure Separate (t : Tree) (ls : List Location) : Prop where
  rooted : t.IsRooted
  there : ∀ l ∈ ls, t.isFile l
  apart : ∀ l ∈ ls, ∀ product ∈ goodProducts settings t ls,
    moduleLocation directory output product.1 ≠ l

end

/-- Whether a run goes on and finds files that are still to be read as they were in a tree. -/
structure Untouched (t : Tree) (ls : List Location) (p : Progress) : Prop where
  running : p.halted = false
  grows : t.Grows p.tree
  same : ∀ l ∈ ls, p.tree.file? l = t.file? l

section

variable {settings : Settings} {directory : Location} {output : Path} {t : Tree} {p : Progress}
  {l : Location} {ls more : List Location}

theorem Untouched.start (ls : List Location) : Untouched t ls ⟨t, [], 0, false⟩ :=
  ⟨rfl, .refl t, fun _ _ => rfl⟩

/-- **What a document comes to does not depend on its turn.** -/
theorem Untouched.compileSource_eq (settings : Settings) (directory : Location)
    (h : Untouched t (l :: ls) p) (ht : t.IsRooted) (hl : t.isFile l) :
    compileSource settings directory p.tree (.ofLocation l) = compileFile settings t l := by
  have hfound := h.grows.locate? (ht.locate?_path (Tree.holds_of_isFile hl) directory)
  rw [compileSource_ofLocation hfound, compileFile, h.same l (List.mem_cons_self ..), compileFile]

/-- The turn of a bad document leaves an entry. -/
theorem Untouched.step_bad (h : Untouched t (l :: ls) p) (ht : t.IsRooted) (hl : t.isFile l)
    {f : Failure} (hbad : compileFile settings t l = .error f) :
    p.step settings directory output (.ofLocation l) =
      ⟨p.tree, p.journal ++ [parsingEntry (.ofLocation l), failureEntry (.ofLocation l) f],
        p.failures + 1, false⟩ ∧
    Untouched t ls (p.step settings directory output (.ofLocation l)) := by
  have hstep : p.step settings directory output (.ofLocation l) = _ :=
    step_of_refused h.running ((h.compileSource_eq settings directory ht hl).trans hbad)
  rw [hstep]
  exact ⟨rfl, rfl, h.grows, fun m hm => h.same m (List.mem_cons_of_mem l hm)⟩

/-- The turn of a good document puts into a file what its module holds.  If no file can hold
that, the run comes to a halt. -/
theorem Untouched.step_good (h : Untouched t (l :: ls) p)
    (hseparate : Separate settings directory output t (l :: ls)) {c : Compilation}
    (hgood : compileFile settings t l = .ok c) {tree : Tree}
    (hwritten : p.tree.writeText? directory (modulePath output (.ofLocation l)) (content c.result) =
      some tree) :
    ∃ notes, errors notes = [] ∧
      p.step settings directory output (.ofLocation l) =
        ⟨tree, p.journal ++ notes, p.failures, !c.result.writable⟩ ∧
      (c.result.writable = true →
        Untouched t ls (p.step settings directory output (.ofLocation l))) := by
  obtain ⟨hrooted, hthere, hapart⟩ := hseparate
  have hl := List.mem_cons_self (a := l) (l := ls)
  have hcompiled := (h.compileSource_eq settings directory hrooted (hthere l hl)).trans hgood
  have hparsing : errors (parsingEntry (.ofLocation l) :: c.journal) = [] := by
    rw [← List.singleton_append, errors_append, errors_compileFile hgood]
    rfl
  cases hwritable : c.result.writable with
  | false =>
    rw [content_of_unwritable hwritable] at hwritten
    have hstep : p.step settings directory output (.ofLocation l) = _ :=
      step_of_unwritable h.running hcompiled hwritable hwritten
    rw [hstep]
    exact ⟨_, hparsing, rfl, nofun⟩
  | true =>
    rw [content_of_writable hwritable] at hwritten
    have hstep : p.step settings directory output (.ofLocation l) = _ :=
      step_of_written h.running hcompiled hwritable hwritten
    rw [hstep]
    refine ⟨parsingEntry (.ofLocation l) :: c.journal ++ stalledEntries (.ofLocation l) c.result,
      ?_, ?_, fun _ => ⟨rfl, h.grows.trans (Tree.grows_of_writeBytes? hwritten), fun m hm => ?_⟩⟩
    · rw [errors_append, hparsing, errors_stalledEntries]
      rfl
    · rw [List.append_assoc]
      rfl
    · have hne := hapart m (List.mem_cons_of_mem l hm) (.ofLocation l, content c.result)
        (by rw [goodProducts_cons_of_ok hgood]; exact List.mem_cons_self ..)
      rw [Tree.file?_of_writeBytes? hwritten, locationFrom_modulePath, if_neg hne.symm]
      exact h.same m (List.mem_cons_of_mem l hm)

/-- What is written for the others is written after a file that does not halt the run. -/
theorem goodProducts_subset_cons (hl : isUnwritable settings t l = false) (ls : List Location) :
    goodProducts settings t ls ⊆ goodProducts settings t (l :: ls) := by
  cases hcompiled : compileFile settings t l with
  | error f => rw [goodProducts_cons_of_error hcompiled]; exact List.Subset.refl _
  | ok c =>
    rw [isUnwritable_of_ok hcompiled, Bool.not_eq_false'] at hl
    rw [goodProducts_cons_of_ok hcompiled, if_pos hl]
    exact List.subset_cons_self _ _

theorem Separate.tail (h : Separate settings directory output t (l :: ls))
    (hl : isUnwritable settings t l = false) : Separate settings directory output t ls where
  rooted := h.rooted
  there := fun m hm => h.there m (List.mem_cons_of_mem l hm)
  apart := fun m hm product hproduct =>
    h.apart m (List.mem_cons_of_mem l hm) product (goodProducts_subset_cons hl ls hproduct)

theorem Separate.filter (h : Separate settings directory output t ls) :
    Separate settings directory output t
      (ls.filter fun l => (failure? settings t l).isNone) where
  rooted := h.rooted
  there := fun l hl => h.there l (List.mem_of_mem_filter hl)
  apart := fun l hl product hproduct =>
    h.apart l (List.mem_of_mem_filter hl) product (by rwa [goodProducts_filter] at hproduct)

theorem deliver?_cons (directory : Location) (output : Path) (t : Tree)
    (product : Source × String) (products : List (Source × String)) :
    deliver? directory output t (product :: products) =
      (t.writeText? directory (modulePath output product.1) product.2).bind fun written =>
        deliver? directory output written products :=
  rfl

/-- **What turns come to.**  The good documents are delivered; the bad ones are counted, and
have an entry each.  All that is up to the first module that no file can hold, which halts
the run. -/
theorem steps_spec (hseparate : Separate settings directory output t (ls ++ more))
    (huntouched : Untouched t (ls ++ more) p)
    (hwrites : p.WritesAll settings directory output (ls.map .ofLocation)) :
    ∃ tree notes,
      deliver? directory output p.tree (goodProducts settings t ls) = some tree ∧
      errors notes = failureEntries settings t ls ∧
      p.steps settings directory output (ls.map .ofLocation) =
        ⟨tree, p.journal ++ notes, p.failures + (failureEntries settings t ls).length,
          ls.any (isUnwritable settings t)⟩ ∧
      (ls.any (isUnwritable settings t) = false →
        Untouched t more (p.steps settings directory output (ls.map .ofLocation))) := by
  -- A turn that does not halt the run leaves the other files untouched, so the induction is
  -- over all runs that find them so.
  induction ls generalizing p with
  | nil =>
    refine ⟨p.tree, [], rfl, rfl, ?_, fun _ => huntouched⟩
    obtain ⟨tree, journal, failures, halted⟩ := p
    obtain rfl : halted = false := huntouched.running
    simp [Progress.steps, failureEntries]
  | cons l ls ih =>
    have hl := hseparate.there l (List.mem_cons_self ..)
    rw [List.map_cons, steps_cons, List.any_cons]
    obtain ⟨hwrite, hwrites⟩ := hwrites
    cases hcompiled : compileFile settings t l with
    | error f =>
      have hgoes := isUnwritable_of_error hcompiled
      obtain ⟨hstep, hrest⟩ : _ ∧ Untouched t (ls ++ more)
          (p.step settings directory output (.ofLocation l)) :=
        huntouched.step_bad hseparate.rooted hl hcompiled
      obtain ⟨tree, notes, hdeliver, herrors, hsteps, hmore⟩ :=
        ih (hseparate.tail hgoes) hrest hwrites
      rw [hstep] at hdeliver
      rw [hgoes, Bool.false_or]
      refine ⟨tree, [parsingEntry (.ofLocation l), failureEntry (.ofLocation l) f] ++ notes,
        ?_, ?_, ?_, hmore⟩
      · rw [goodProducts_cons_of_error hcompiled]
        exact hdeliver
      · rw [errors_append, herrors, failureEntries_cons_of_error hcompiled]
        rfl
      · rw [hsteps, hstep, failureEntries_cons_of_error hcompiled, List.length_cons,
          List.append_assoc, Nat.add_assoc, Nat.add_comm 1]
    | ok c =>
      have hgoes := isUnwritable_of_ok hcompiled
      have hsource := huntouched.compileSource_eq settings directory hseparate.rooted hl
      obtain ⟨written, hwritten⟩ := Option.isSome_iff_exists.1
        (hwrite huntouched.running c (hsource.trans hcompiled))
      obtain ⟨first, hfirst, hstep, hrest⟩ := huntouched.step_good hseparate hcompiled hwritten
      rw [goodProducts_cons_of_ok hcompiled, failureEntries_cons_of_ok hcompiled, deliver?_cons,
        hwritten, hgoes]
      cases hwritable : c.result.writable with
      | false =>
        -- The run is halted, and the other files have no turn.
        rw [hwritable] at hstep
        refine ⟨written, first, rfl, hfirst, ?_, nofun⟩
        rw [hstep, steps_of_halted rfl]
        rfl
      | true =>
        rw [hwritable] at hgoes hstep
        obtain ⟨tree, notes, hdeliver, herrors, hsteps, hmore⟩ :=
          ih (hseparate.tail hgoes) (hrest hwritable) hwrites
        rw [hstep] at hdeliver
        refine ⟨tree, first ++ notes, hdeliver, ?_, ?_, hmore⟩
        · rw [errors_append, hfirst, herrors]
          rfl
        · rw [hsteps, hstep, List.append_assoc]
          rfl

/-- After a halt nothing is written. -/
theorem writesAll_of_halted (hp : p.halted = true) (sources : List Source) :
    p.WritesAll settings directory output sources := by
  induction sources with
  | nil => trivial
  | cons s sources ih =>
    refine ⟨fun hrunning => ?_, by rwa [step_of_halted hp]⟩
    rw [hp] at hrunning
    cases hrunning

/-- If the good documents can be delivered, every module can be written in its turn. -/
theorem writesAll_of_deliver? (hseparate : Separate settings directory output t ls)
    (huntouched : Untouched t ls p) {tree : Tree}
    (hdeliver : deliver? directory output p.tree (goodProducts settings t ls) = some tree) :
    p.WritesAll settings directory output (ls.map .ofLocation) := by
  induction ls generalizing p with
  | nil => trivial
  | cons l ls ih =>
    have hl := hseparate.there l (List.mem_cons_self ..)
    have hsource := huntouched.compileSource_eq settings directory hseparate.rooted hl
    cases hcompiled : compileFile settings t l with
    | error f =>
      obtain ⟨hstep, hrest⟩ : _ ∧ Untouched t ls
          (p.step settings directory output (.ofLocation l)) :=
        huntouched.step_bad hseparate.rooted hl hcompiled
      rw [goodProducts_cons_of_error hcompiled] at hdeliver
      refine ⟨fun _ c hc => ?_,
        ih (hseparate.tail (isUnwritable_of_error hcompiled)) hrest (by rw [hstep]; exact hdeliver)⟩
      rw [hsource, hcompiled] at hc
      cases hc
    | ok c =>
      rw [goodProducts_cons_of_ok hcompiled, deliver?_cons] at hdeliver
      obtain ⟨written, hwritten, hdeliver⟩ := Option.bind_eq_some_iff.1 hdeliver
      obtain ⟨first, -, hstep, hrest⟩ := huntouched.step_good hseparate hcompiled hwritten
      constructor
      · intro _ c' hc
        rw [hsource, hcompiled] at hc
        obtain rfl := Except.ok.inj hc
        exact Option.isSome_of_eq_some hwritten
      · cases hwritable : c.result.writable with
        | false => exact writesAll_of_halted (by rw [hstep, hwritable]; rfl) _
        | true =>
          have hgoes : isUnwritable settings t l = false := by
            rw [isUnwritable_of_ok hcompiled, hwritable]
            rfl
          rw [hwritable, if_pos rfl] at hdeliver
          exact ih (hseparate.tail hgoes) (hrest hwritable) (by rw [hstep]; exact hdeliver)

theorem writesAll_append {sources rest : List Source}
    (h : p.WritesAll settings directory output (sources ++ rest)) :
    p.WritesAll settings directory output sources := by
  induction sources generalizing p with
  | nil => trivial
  | cons s sources ih => exact ⟨h.1, ih h.2⟩

end

end GirTypings.CommandLine
