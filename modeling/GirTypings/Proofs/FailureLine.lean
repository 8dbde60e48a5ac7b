import GirTypings.Proofs.Conservation
import GirTypings.Proofs.Outcome
import GirTypings.Proofs.Turn

/-!
# Lines that tell of failures

A run notes an error for each document that fails, and nothing else is an error: compiling
a document notes none (`errors_of_compileDocument`).  On the console the line for an error
starts with its level, so that the lines that tell of failures are told from all others by
their first characters (`isFailureLine`).

* `filter_consoleLines`: the lines of a console that tell of failures are those for the
  errors in the journal.
-/

namespace GirTypings.CommandLine

open Files Gir Registry Xml

/-! ### Errors in the journal -/

/-- The entries of a journal that tell of errors. -/
def errors (journal : List Entry) : List Entry :=
  journal.filter fun entry => entry.level = .error

theorem errors_append (journal more : List Entry) :
    errors (journal ++ more) = errors journal ++ errors more :=
  List.filter_append ..

theorem errors_eq_nil {journal : List Entry} (h : ∀ entry ∈ journal, entry.level ≠ .error) :
    errors journal = [] := by
  rw [errors, List.filter_eq_nil_iff]
  intro entry hentry
  simp [h entry hentry]

theorem level_childJournal (space : String) (e : Element) :
    ∀ entry ∈ childJournal space e, entry.level = .debug := by
  have hskip : ∀ entry ∈ Element.skipEntry "generator" ("element of namespace " ++ space)
      (e.require "name"), entry.level = .debug := by
    cases e.require "name" with
    | ok => nofun
    | error => exact List.forall_mem_singleton.2 rfl
  rw [childJournal]
  repeat' split
  · exact List.forall_mem_append.2 ⟨fun x hx => (tellsOmissions_classJournal e x hx).1, hskip⟩
  · exact List.forall_mem_append.2
      ⟨fun x hx => (tellsOmissions_enumerationJournal e x hx).1, hskip⟩
  · exact List.forall_mem_append.2 ⟨fun x hx => (tellsOmissions_signatureJournal e x hx).1, hskip⟩
  · exact hskip
  · exact List.forall_mem_singleton.2 rfl

/-- Compiling a namespace notes no error. -/
theorem errors_compileJournal (settings : Settings) (e : Element) :
    errors (compileJournal settings e) = [] := by
  refine errors_eq_nil fun entry hentry => ?_
  rw [compileJournal] at hentry
  rcases List.mem_append.1 hentry with hchild | horder
  · obtain ⟨child, -, hchild⟩ := List.mem_flatMap.1 hchild
    rw [level_childJournal _ child entry hchild]
    decide
  · rw [Ordering.journal] at horder
    split at horder
    · cases horder
    · rw [List.mem_singleton.1 horder]
      show Level.warning ≠ .error
      decide

theorem errors_stalledEntries (s : Source) (m : Module) : errors (stalledEntries s m) = [] := by
  rw [stalledEntries]
  split
  · rfl
  · rfl

/-- Compiling a document notes no error. -/
theorem errors_of_compileDocument {settings : Settings} {text : String} {c : Compilation}
    (h : compileDocument settings text = .ok c) : errors c.journal = [] := by
  obtain ⟨root, space, -, -, -, rfl⟩ := comesTo_ok_iff.1 (compileDocument_eq_iff.1 h)
  exact errors_compileJournal settings space

/-! ### The lines that tell of failures -/

theorem prefix_append_four (a b c d more : List Char) :
    a ++ (b ++ (c ++ d)) <+: a ++ (b ++ (c ++ (d ++ more))) :=
  ⟨more, by simp only [List.append_assoc]⟩

theorem toList_consoleLine (entry : Entry) :
    entry.consoleLine.toList =
      consoleStart.toList ++ (entry.level.name.toList ++ (" ".toList ++ entry.message.toList)) := by
  rw [Entry.consoleLine, String.toList_join]
  simp only [consoleParts, ConsolePart.fill, List.map_cons, List.map_nil, List.flatMap_cons,
    List.flatMap_nil, List.append_nil]

/-- How a line of the console starts that tells of a document that failed. -/
def failureMark : List Char :=
  consoleStart.toList ++
    (Level.error.name.toList ++ (" ".toList ++ "Failed to generate ".toList))

/-- Whether a line of the console tells of a document that failed. -/
def isFailureLine (line : String) : Bool :=
  failureMark.isPrefixOf line.toList

theorem isFailureLine_failureEntry (s : Source) (f : Failure) :
    isFailureLine (failureEntry s f).consoleLine = true := by
  have hmessage : (failureEntry s f).message.toList = "Failed to generate ".toList ++
      (s.path.text.toList ++ (": ".toList ++ f.message.toList)) := by
    simp only [failureEntry, note, String.toList_append, List.append_assoc]
  rw [isFailureLine, List.isPrefixOf_iff_prefix, toList_consoleLine, hmessage]
  exact prefix_append_four _ _ _ _ _

theorem not_prefix_of_head {start first second more other : List Char} {c d : Char}
    {rest tail : List Char} (hfirst : first = c :: rest) (hsecond : second = d :: tail)
    (h : c ≠ d) : ¬ start ++ (first ++ more) <+: start ++ (second ++ other) := by
  subst hfirst hsecond
  rw [List.prefix_append_right_inj, List.cons_append, List.cons_append, List.cons_prefix_cons]
  exact fun hprefix => h hprefix.1

theorem head_name_ne {level : Level} (h : level ≠ .error) :
    ∃ c rest, level.name.toList = c :: rest ∧ 'E' ≠ c := by
  cases level with
  | debug => exact ⟨'D', "EBUG".toList, by decide +kernel, by decide⟩
  | info => exact ⟨'I', "NFO".toList, by decide +kernel, by decide⟩
  | warning => exact ⟨'W', "ARNING".toList, by decide +kernel, by decide⟩
  | error => exact absurd rfl h

/-- A line tells its level before anything else, so only errors are taken for failures. -/
theorem isFailureLine_of_level {entry : Entry} (h : entry.level ≠ .error) :
    isFailureLine entry.consoleLine = false := by
  obtain ⟨c, rest, hname, hc⟩ := head_name_ne h
  have herror : Level.error.name.toList = 'E' :: "RROR".toList := by decide +kernel
  rw [Bool.eq_false_iff, Ne, isFailureLine, List.isPrefixOf_iff_prefix, toList_consoleLine]
  exact not_prefix_of_head herror hname hc

/-- The console shows every error, and nothing else that tells of failures. -/
theorem filter_consoleLines (verbose : Bool) {journal : List Entry}
    (h : ∀ entry ∈ errors journal, isFailureLine entry.consoleLine) :
    (consoleLines verbose journal).filter isFailureLine =
      (errors journal).map Entry.consoleLine := by
  rw [consoleLines, List.filter_map, List.filter_filter, errors]
  refine congrArg (List.map Entry.consoleLine) (List.filter_congr fun entry hentry => ?_)
  by_cases herror : entry.level = .error
  · have hshown : (Level.threshold verbose).shownFrom entry.level = true := by
      rw [herror]
      cases verbose <;> rfl
    have hline := h entry (List.mem_filter.2 ⟨hentry, by simpa using herror⟩)
    rw [Function.comp_apply, hline, hshown, herror]
    rfl
  · simp [isFailureLine_of_level herror, herror]

end GirTypings.CommandLine
