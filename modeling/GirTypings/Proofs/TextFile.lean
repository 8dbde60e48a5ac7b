import GirTypings.Proofs.FileTree
import GirTypings.Proofs.Reading

/-!
# Text files

A text is written as its UTF-8 bytes and read back with its newlines **unified**: a carriage
return with its line feed is one newline, and so is one that stands alone (`Unifies`).  What
was read has no carriage return, so it comes back as it is when it is written again.

Whether a text can be written depends on the place alone (`Admits`): the path names a file,
no file is in the way of its directories, and no directory is where it leads.

* `unifies_iff`: unified newlines, told by the cases;
* `isSome_enter?_iff`, `isSome_writeBytes?_iff`: where something can be written;
* `readText?_of_writeText?`: what is read where a text was written;
* `written_text_read_back`: writing and reading in turn.
-/

namespace GirTypings

/-! ### Newlines -/

namespace Text

/-- Whether a text is another one with every newline made a line feed. -/
inductive Unifies : List Char → List Char → Prop
  | nil : Unifies [] []
  /-- A carriage return with its line feed is one newline. -/
  | pair {rest back : List Char} (h : Unifies rest back) :
      Unifies ('\r' :: '\n' :: rest) ('\n' :: back)
  /-- And so is one without. -/
  | alone {rest back : List Char} (hnext : rest.head? ≠ some '\n') (h : Unifies rest back) :
      Unifies ('\r' :: rest) ('\n' :: back)
  /-- Anything else stays. -/
  | other {c : Char} {rest back : List Char} (hc : c ≠ '\r') (h : Unifies rest back) :
      Unifies (c :: rest) (c :: back)

theorem unifyNewlineChars_cons {c : Char} {rest : List Char}
    (h : c = '\r' → rest.head? ≠ some '\n') :
    unifyNewlineChars (c :: rest) = (if c = '\r' then '\n' else c) :: unifyNewlineChars rest := by
  rw [unifyNewlineChars]
  rintro more rfl rfl
  exact h rfl rfl

/-- **The newlines of a text are unified in one way.** -/
theorem unifies_iff {cs back : List Char} : Unifies cs back ↔ back = unifyNewlineChars cs := by
  constructor
  · intro h
    induction h with
    | nil => rfl
    | pair _ ih => rw [unifyNewlineChars, ih]
    | alone hnext _ ih => rw [unifyNewlineChars_cons fun _ => hnext, if_pos rfl, ih]
    | other hc _ ih => rw [unifyNewlineChars_cons fun h => absurd h hc, if_neg hc, ih]
  · rintro rfl
    fun_induction unifyNewlineChars cs with
    | case1 => exact .nil
    | case2 rest ih => exact .pair ih
    | case3 c rest hpair ih =>
      by_cases hc : c = '\r'
      · subst hc
        rw [if_pos rfl]
        refine .alone (fun hnext => ?_) ih
        obtain ⟨more, rfl⟩ := List.head?_eq_some_iff.1 hnext
        exact hpair more rfl rfl
      · rw [if_neg hc]
        exact .other hc ih

/-- The texts without a carriage return stay as they are. -/
theorem unifyNewlineChars_eq_self_iff {cs : List Char} :
    unifyNewlineChars cs = cs ↔ '\r' ∉ cs := by
  constructor
  · intro h
    rw [← h]
    exact cr_not_mem_unifyNewlineChars cs
  · intro h
    induction cs with
    | nil => rfl
    | cons c rest ih =>
      rw [List.mem_cons, not_or] at h
      rw [unifyNewlineChars_cons fun hc => absurd hc.symm h.1, if_neg (Ne.symm h.1), ih h.2]

theorem unifyNewlines_eq_self_iff {t : String} : unifyNewlines t = t ↔ '\r' ∉ t.toList := by
  rw [← String.toList_inj, unifyNewlines, String.toList_ofList, unifyNewlineChars_eq_self_iff]

/-- Unified once, newlines stay as they are. -/
theorem unifyNewlines_unifyNewlines (t : String) :
    unifyNewlines (unifyNewlines t) = unifyNewlines t := by
  rw [unifyNewlines_eq_self_iff, unifyNewlines, String.toList_ofList]
  exact cr_not_mem_unifyNewlineChars t.toList

end Text

/-! ### Bytes -/

/-- The bytes of a text are those of its characters, one after the other. -/
theorem toList_toUTF8 (t : String) :
    t.toUTF8.data.toList = t.toList.flatMap String.utf8EncodeChar := by
  rw [String.toUTF8_eq_toByteArray, ← String.utf8Encode_toList, List.utf8Encode,
    List.data_toByteArray]

/-! ### Places -/

namespace Files

/-- The locations that the parts of a path lead through, one after the other. -/
def Location.through (l : Location) : List String → List Location
  | [] => []
  | part :: rest => l.step part :: Location.through (l.step part) rest

/-- Where a path starts from. -/
def Path.base (start : Location) (p : Path) : Location :=
  if p.slashes = 0 then start else []

/-- The directories on the way to where a path leads. -/
def Path.way (start : Location) (p : Path) : List Location :=
  (p.base start).through p.parts.dropLast

namespace Tree

variable {t t' : Tree} {start l : Location}

theorem isDirectory_addDirectory (t : Tree) (added l : Location) :
    isDirectory { t with directories := t.directories ++ [added] } l ↔
      t.isDirectory l ∨ l = added := by
  simp only [isDirectory, Bool.or_eq_true, List.contains_iff_mem, List.mem_append,
    List.mem_singleton, or_assoc]

/-- **Where directories can be entered**: no file is in the way. -/
theorem isSome_enter?_iff {parts : List String} :
    (t.enter? start parts).isSome ↔
      ∀ l ∈ start.through parts, t.isFile l → t.isDirectory l := by
  induction parts generalizing t start with
  | nil => simp [enter?, Location.through]
  | cons part rest ih =>
    rw [enter?, Location.through, List.forall_mem_cons]
    split
    · next hnext => rw [ih, and_iff_right fun _ => hnext]
    · next hnext =>
      split
      · next hfile => exact iff_of_false (by simp) fun h => hnext (h.1 hfile)
      · next hfile =>
        -- the directory that is made is no file, so it lets no file pass
        rw [ih, and_iff_right fun h => absurd h hfile]
        refine forall₂_congr fun l _ => forall_congr' fun hl => ?_
        rw [isDirectory_addDirectory]
        refine or_iff_left ?_
        rintro rfl
        exact hfile hl

/-- **What directories there are after that**: those that were there, and those on the way. -/
theorem isDirectory_of_enter? {parts : List String} {parent : Location}
    (h : t.enter? start parts = some (t', parent)) (l : Location) :
    t'.isDirectory l ↔ t.isDirectory l ∨ l ∈ start.through parts := by
  induction parts generalizing t start with
  | nil =>
    obtain ⟨rfl, rfl⟩ := Prod.mk.inj (Option.some.inj h)
    simp [Location.through]
  | cons part rest ih =>
    rw [Location.through, List.mem_cons]
    simp only [enter?] at h
    split at h
    · next hnext =>
      rw [ih h, ← or_assoc]
      refine or_congr_left (or_iff_left_of_imp ?_).symm
      rintro rfl
      exact hnext
    · split at h
      · cases h
      · rw [ih h, isDirectory_addDirectory, or_assoc]

/-! ### Writing -/

/-- Whether something can be written where a path leads. -/
structure Admits (t : Tree) (start : Location) (p : Path) : Prop where
  named : p.parts ≠ []
  passable : ∀ l ∈ p.way start, t.isFile l → t.isDirectory l
  vacant : t.isDirectory (p.locationFrom start) = false
  apart : p.locationFrom start ∉ p.way start

/-- **Where something can be written**, whatever it is. -/
theorem isSome_writeBytes?_iff {p : Path} {bytes : ByteArray} :
    (t.writeBytes? start p bytes).isSome ↔ t.Admits start p := by
  constructor
  · intro h
    obtain ⟨t', h⟩ := Option.isSome_iff_exists.1 h
    obtain ⟨entered, parent, last, hlast, hentered, -, hfree, -⟩ := writeBytes?_eq_some h
    have hdirectory := isDirectory_of_enter? hentered (p.locationFrom start)
    rw [hfree, iff_false_left Bool.false_ne_true, not_or] at hdirectory
    refine ⟨?_, isSome_enter?_iff.1 (Option.isSome_of_eq_some hentered),
      Bool.eq_false_iff.2 hdirectory.1, hdirectory.2⟩
    intro hnil
    rw [hnil] at hlast
    cases hlast
  · intro h
    obtain ⟨⟨entered, parent⟩, hentered⟩ :=
      Option.isSome_iff_exists.1 (isSome_enter?_iff.2 h.passable)
    have hlast := List.getLast?_eq_some_getLast h.named
    have htarget : parent.step (p.parts.getLast h.named) = p.locationFrom start := by
      rw [Path.locationFrom_of_getLast? hlast, (enter?_eq_some hentered).1]
      rfl
    have hfree : ¬ entered.isDirectory (p.locationFrom start) = true := by
      rw [isDirectory_of_enter? hentered, not_or, h.vacant]
      exact ⟨Bool.false_ne_true, h.apart⟩
    rw [Path.base] at hentered
    simp only [writeBytes?, hentered, hlast, bind, Option.bind_some, htarget, if_neg hfree]
    rfl

/-- The directories on the way are there when something was written, and there is none where
it was written. -/
theorem directories_of_writeBytes? {p : Path} {bytes : ByteArray}
    (h : t.writeBytes? start p bytes = some t') :
    (∀ l ∈ p.way start, t'.isDirectory l) ∧ t'.isDirectory (p.locationFrom start) = false := by
  obtain ⟨entered, parent, last, -, hentered, -, hfree, rfl⟩ := writeBytes?_eq_some h
  exact ⟨fun l hl => (isDirectory_of_enter? hentered l).2 (.inr hl), hfree⟩

/-- Where something was written something else can be. -/
theorem admits_of_writeBytes? {p : Path} {bytes : ByteArray}
    (h : t.writeBytes? start p bytes = some t') : t'.Admits start p := by
  obtain ⟨hway, hvacant⟩ := directories_of_writeBytes? h
  have hadmits := isSome_writeBytes?_iff.1 (Option.isSome_of_eq_some h)
  exact ⟨hadmits.named, fun l hl _ => hway l hl, hvacant, hadmits.apart⟩

/-! ### Reading -/

/-- A path through directories leads to what its last part names. -/
theorem follow?_concat {front : List String} {last : String} (hstart : t.isDirectory start)
    (hway : ∀ l ∈ start.through front, t.isDirectory l)
    (hlast : t.holds ((front.foldl Location.step start).step last)) :
    t.follow? start (front ++ [last]) = some ((front.foldl Location.step start).step last) := by
  induction front generalizing start with
  | nil =>
    rw [List.nil_append, follow?, if_pos hstart]
    simp only [List.foldl_nil] at hlast ⊢
    rw [if_pos hlast]
    rfl
  | cons part rest ih =>
    obtain ⟨hpart, hrest⟩ := List.forall_mem_cons.1 hway
    rw [List.cons_append, follow?, if_pos hstart]
    simp only [if_pos (holds_of_isDirectory hpart)]
    exact ih hpart hrest hlast

/-- **A path leads to what was written under it.** -/
theorem locate?_of_writeBytes? {p : Path} {bytes : ByteArray} (hstart : t.isDirectory start)
    (h : t.writeBytes? start p bytes = some t') :
    t'.locate? start p = some (p.locationFrom start) := by
  obtain ⟨-, -, last, hlast, -⟩ := writeBytes?_eq_some h
  have hparts : p.parts = p.parts.dropLast ++ [last] :=
    (List.dropLast_append_getLast? last hlast).symm
  have htarget := Path.locationFrom_of_getLast? hlast start
  have hbase : t'.isDirectory (p.base start) := by
    rw [Path.base]
    split
    · exact (grows_of_writeBytes? h).directory start hstart
    · rfl
  have hfile : t'.holds (p.locationFrom start) := by
    refine holds_of_isFile ?_
    rw [isFile, file?_of_writeBytes? h, if_pos rfl]
    rfl
  rw [htarget] at hfile ⊢
  rw [locate?]
  conv_lhs => rw [hparts]
  exact follow?_concat hbase (directories_of_writeBytes? h).1 hfile

/-- **What is read where a text was written**: the text with its newlines unified. -/
theorem readText?_of_writeText? {p : Path} {text : String} (hstart : t.isDirectory start)
    (h : t.writeText? start p text = some t') :
    t'.readText? start p = some (Text.unifyNewlines text) := by
  rw [readText?, locate?_of_writeBytes? hstart h]
  simp only [bind, Option.bind_some, file?_of_writeBytes? h, if_true, textOfBytes?_toUTF8]

/-! ### Both in turn -/

/-- **Writing a text and reading it back.**  Whether a text can be written depends on the place
and not on the text.  Then the file holds the bytes of its characters, one after the other, and
what is read back is the text with its newlines unified: the text itself exactly if it has no
carriage return.  Written again at the same place it is read back as it is. -/
theorem written_text_read_back (hstart : t.isDirectory start) (p : Path) (text : String) :
    ((t.writeText? start p text).isSome ↔ t.Admits start p) ∧
    ∀ t', t.writeText? start p text = some t' →
      (∃ bytes, t'.file? (p.locationFrom start) = some bytes ∧
        bytes.data.toList = text.toList.flatMap String.utf8EncodeChar) ∧
      ∃ back, t'.readText? start p = some back ∧
        Text.Unifies text.toList back.toList ∧
        (back = text ↔ '\r' ∉ text.toList) ∧
        ∃ t'', t'.writeText? start p back = some t'' ∧ t''.readText? start p = some back := by
  refine ⟨isSome_writeBytes?_iff, fun t' h => ⟨?_, ?_⟩⟩
  · refine ⟨text.toUTF8, ?_, toList_toUTF8 text⟩
    rw [file?_of_writeBytes? h, if_pos rfl]
  · have hstart' : t'.isDirectory start := (grows_of_writeBytes? h).directory start hstart
    obtain ⟨t'', hagain⟩ := Option.isSome_iff_exists.1 (isSome_writeBytes?_iff.2
      (admits_of_writeBytes? h) : (t'.writeText? start p (Text.unifyNewlines text)).isSome)
    refine ⟨Text.unifyNewlines text, readText?_of_writeText? hstart h, ?_,
      Text.unifyNewlines_eq_self_iff, t'', hagain, ?_⟩
    · rw [Text.unifies_iff, Text.unifyNewlines, String.toList_ofList]
    · rw [readText?_of_writeText? hstart' hagain, Text.unifyNewlines_unifyNewlines]

/-- A path into a directory that is not there yet. -/
def nestedPath : Path :=
  ⟨0, ["types", "Gtk.d.ts"]⟩

/-- Into an empty tree a text with newlines of all kinds can be written, and its six carriage
returns and line feeds are read back as four newlines. -/
theorem nested_text_read_back :
    (empty ["work"]).isDirectory ["work"] ∧
    (empty ["work"]).Admits ["work"] nestedPath ∧
    ∃ t', (empty ["work"]).writeText? ["work"] nestedPath "a\r\nü\r\r\n\n€😀" = some t' ∧
      t'.readText? ["work"] nestedPath = some "a\nü\n\n\n€😀" := by
  have hstart : (empty ["work"]).isDirectory ["work"] := by decide
  have hadmits : (empty ["work"]).Admits ["work"] nestedPath :=
    ⟨by decide, by decide, by decide, by decide⟩
  obtain ⟨hplace, hread⟩ := written_text_read_back hstart nestedPath "a\r\nü\r\r\n\n€😀"
  obtain ⟨t', hwritten⟩ := Option.isSome_iff_exists.1 (hplace.2 hadmits)
  obtain ⟨-, back, hback, hunifies, -⟩ := hread t' hwritten
  refine ⟨hstart, hadmits, t', hwritten, ?_⟩
  have htext : back = "a\nü\n\n\n€😀" := by
    rw [← String.toList_inj, Text.unifies_iff.1 hunifies]
    decide +kernel
  rw [hback, htext]

end Tree

end Files

end GirTypings
