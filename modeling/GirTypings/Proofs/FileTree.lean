import Mathlib.Data.List.Basic
import Mathlib.Data.List.Induction
import GirTypings.Files.Source

/-!
# Writing and reading

What a tree holds after a file was written: at the place the path leads to, the bytes that
were written, and everywhere else what was there before.  Directories only come in
addition, so a tree **grows** (`Grows`), and a path that leads somewhere leads to the same
place later on.

In a **rooted** tree all that is there is inside directories, up to the root, and under
names that do not lead back.  There the path of a location leads to it, so that reading it
gives what the tree holds.  Every tree that is made of files is rooted.

* `file?_of_writeBytes?`: what is where after a write;
* `Grows.locate?`: a path that leads somewhere keeps leading there;
* `IsRooted.locate?_path`: the path of a location leads to it;
* `isRooted_ofFiles`: trees made of files are rooted.
-/

namespace GirTypings.Files

/-! ### Places -/

/-- A path with its last part cut off leads to where that part is looked for. -/
theorem Path.locationFrom_of_getLast? {p : Path} {last : String} (h : p.parts.getLast? = some last)
    (start : Location) :
    p.locationFrom start =
      (p.parts.dropLast.foldl Location.step (if p.slashes = 0 then start else [])).step last := by
  have hparts : p.parts = p.parts.dropLast ++ [last] :=
    (List.dropLast_append_getLast? last h).symm
  rw [locationFrom]
  conv_lhs => rw [hparts, List.foldl_append]
  rfl

theorem Location.step_back (l : Location) : l.step ".." = l.dropLast :=
  if_pos rfl

theorem Location.step_of_ne {part : String} (h : part ≠ "..") (l : Location) :
    l.step part = l ++ [part] :=
  if_neg h

namespace Tree

variable {t t' : Tree} {start l : Location}

/-! ### Growth -/

/-- What was there in a tree is there in another one, and of the same kind. -/
structure Grows (t t' : Tree) : Prop where
  directory : ∀ l, t.isDirectory l → t'.isDirectory l
  file : ∀ l, t.isFile l → t'.isFile l

namespace Grows

theorem refl (t : Tree) : t.Grows t :=
  ⟨fun _ => id, fun _ => id⟩

theorem trans {t'' : Tree} (h : t.Grows t') (h' : t'.Grows t'') : t.Grows t'' :=
  ⟨fun l hl => h'.directory l (h.directory l hl), fun l hl => h'.file l (h.file l hl)⟩

theorem holds (h : t.Grows t') {l : Location} (hl : t.holds l) : t'.holds l := by
  rw [Tree.holds, Bool.or_eq_true] at hl ⊢
  exact hl.imp (h.file l) (h.directory l)

theorem follow? (h : t.Grows t') {parts : List String} (hl : t.follow? start parts = some l) :
    t'.follow? start parts = some l := by
  induction parts generalizing start with
  | nil => exact hl
  | cons part rest ih =>
    simp only [Tree.follow?] at hl ⊢
    split at hl
    · next hstart =>
      rw [if_pos (h.directory start hstart)]
      split at hl
      · next hnext =>
        rw [if_pos (h.holds hnext)]
        exact ih hl
      · cases hl
    · cases hl

/-- A path that leads somewhere keeps leading there. -/
theorem locate? (h : t.Grows t') {p : Path} (hl : t.locate? start p = some l) :
    t'.locate? start p = some l :=
  h.follow? hl

end Grows

/-! ### Writing -/

theorem grows_addDirectory (t : Tree) (l : Location) :
    t.Grows { t with directories := t.directories ++ [l] } := by
  refine ⟨fun other hother => ?_, fun _ => id⟩
  rw [isDirectory, Bool.or_eq_true, List.contains_iff_mem] at hother ⊢
  exact hother.imp_right fun hmem => List.mem_append_left _ hmem

/-- Entering a directory path leads where the path does, and changes no file. -/
theorem enter?_eq_some {parts : List String} {parent : Location}
    (h : t.enter? start parts = some (t', parent)) :
    parent = parts.foldl Location.step start ∧ t'.files = t.files ∧ t.Grows t' := by
  induction parts generalizing t start with
  | nil =>
    obtain ⟨rfl, rfl⟩ := Prod.mk.inj (Option.some.inj h)
    exact ⟨rfl, rfl, .refl t⟩
  | cons part rest ih =>
    simp only [enter?] at h
    split at h
    · exact ih h
    · split at h
      · cases h
      · obtain ⟨hparent, hfiles, hgrows⟩ := ih h
        exact ⟨hparent, hfiles, (grows_addDirectory t _).trans hgrows⟩

/-- What a write that succeeds does: it enters a directory path, and puts the bytes where
the path leads, at which there is no directory. -/
theorem writeBytes?_eq_some {p : Path} {bytes : ByteArray}
    (h : t.writeBytes? start p bytes = some t') :
    ∃ entered parent last, p.parts.getLast? = some last ∧
      t.enter? (if p.slashes = 0 then start else []) p.parts.dropLast = some (entered, parent) ∧
      parent.step last = p.locationFrom start ∧
      entered.isDirectory (p.locationFrom start) = false ∧
      t' = { entered with files := Table.put (p.locationFrom start) bytes entered.files } := by
  simp only [writeBytes?, bind, Option.bind_eq_some_iff] at h
  obtain ⟨⟨entered, parent⟩, hentered, last, hlast, h⟩ := h
  have htarget : parent.step last = p.locationFrom start := by
    rw [Path.locationFrom_of_getLast? hlast, (enter?_eq_some hentered).1]
  simp only [htarget] at h
  split at h
  · cases h
  · next hfree =>
    exact ⟨entered, parent, last, hlast, hentered, htarget, Bool.eq_false_iff.2 hfree,
      (Option.some.inj h).symm⟩

theorem file?_put (t : Tree) (target : Location) (bytes : ByteArray) (l : Location) :
    Tree.file? { t with files := Table.put target bytes t.files } l =
      if l = target then some bytes else t.file? l := by
  rw [file?]
  split
  · next heq => rw [heq, Table.lookup_put_self]
  · next hne => rw [Table.lookup_put_of_ne hne, file?]

theorem grows_put (t : Tree) (target : Location) (bytes : ByteArray) :
    t.Grows { t with files := Table.put target bytes t.files } := by
  refine ⟨fun _ => id, fun l hl => ?_⟩
  rw [isFile, file?_put]
  split
  · rfl
  · exact hl

/-- **What is where after a write**: the bytes at the place the path leads to, and
everywhere else what was there. -/
theorem file?_of_writeBytes? {p : Path} {bytes : ByteArray}
    (h : t.writeBytes? start p bytes = some t') (l : Location) :
    t'.file? l = if l = p.locationFrom start then some bytes else t.file? l := by
  obtain ⟨entered, parent, last, -, hentered, -, -, rfl⟩ := writeBytes?_eq_some h
  rw [file?_put, file?, (enter?_eq_some hentered).2.1, file?]

theorem grows_of_writeBytes? {p : Path} {bytes : ByteArray}
    (h : t.writeBytes? start p bytes = some t') : t.Grows t' := by
  obtain ⟨entered, parent, last, -, hentered, -, -, rfl⟩ := writeBytes?_eq_some h
  exact (enter?_eq_some hentered).2.2.trans (grows_put entered _ bytes)

/-! ### Rooted trees -/

/-- Whether all that a tree holds is inside directories, up to the root, and under names
that do not lead back. -/
structure IsRooted (t : Tree) : Prop where
  inside : ∀ l, t.holds l → t.isDirectory l.dropLast
  forward : ∀ l, t.holds l → ".." ∉ l

theorem holds_of_isDirectory (h : t.isDirectory l) : t.holds l := by
  rw [holds, h, Bool.or_true]

theorem holds_of_isFile (h : t.isFile l) : t.holds l := by
  rw [holds, h, Bool.true_or]

namespace IsRooted

/-- What is around something in a rooted tree is a directory. -/
theorem isDirectory_of_append (h : t.IsRooted) {before : Location} {part : String}
    {after : List String} (hl : t.holds (before ++ part :: after)) : t.isDirectory before := by
  induction after using List.reverseRecOn with
  | nil => simpa using h.inside _ hl
  | append_singleton after last ih =>
    refine ih (holds_of_isDirectory ?_)
    have hinside := h.inside _ hl
    rwa [← List.cons_append, ← List.append_assoc, List.dropLast_concat] at hinside

theorem follow?_append (h : t.IsRooted) {parts : List String} (hl : t.holds (start ++ parts)) :
    t.follow? start parts = some (start ++ parts) := by
  induction parts generalizing start with
  | nil => rw [List.append_nil]; rfl
  | cons part rest ih =>
    have hpart : part ≠ ".." := by
      rintro rfl
      exact h.forward _ hl (List.mem_append_right _ (List.mem_cons_self ..))
    have hsplit : start ++ part :: rest = (start ++ [part]) ++ rest := by simp
    have hnext : t.holds (start ++ [part]) := by
      cases rest with
      | nil => exact hl
      | cons => exact holds_of_isDirectory (h.isDirectory_of_append (hsplit ▸ hl))
    rw [follow?, if_pos (h.isDirectory_of_append hl)]
    simp only [Location.step_of_ne hpart, if_pos hnext]
    rw [hsplit] at hl ⊢
    exact ih hl

/-- **The path of a location leads to it**, if anything is there. -/
theorem locate?_path (h : t.IsRooted) (hl : t.holds l) (start : Location) :
    t.locate? start l.path = some l := by
  have hfollow : t.follow? [] l = some ([] ++ l) := h.follow?_append hl
  exact hfollow

/-- A rooted tree stays rooted with one thing more, directly inside a directory. -/
theorem of_grows (h : t.IsRooted) (hgrows : t.Grows t') {parent : Location} {part : String}
    (hparent : t.isDirectory parent) (hpart : part ≠ "..")
    (hcases : ∀ l, t'.holds l → t.holds l ∨ l = parent ++ [part]) : t'.IsRooted := by
  constructor
  · intro l hl
    rcases hcases l hl with hl | rfl
    · exact hgrows.directory _ (h.inside l hl)
    · rw [List.dropLast_concat]
      exact hgrows.directory _ hparent
  · intro l hl
    rcases hcases l hl with hl | rfl
    · exact h.forward l hl
    · simpa [hpart.symm] using h.forward _ (holds_of_isDirectory hparent)

/-- A rooted tree stays rooted when a directory path is entered, and the path leads to a
directory. -/
theorem enter? (h : t.IsRooted) {parts : List String} {parent : Location}
    (hstart : t.isDirectory start) (hentered : t.enter? start parts = some (t', parent)) :
    t'.IsRooted ∧ t'.isDirectory parent := by
  induction parts generalizing t start with
  | nil =>
    obtain ⟨rfl, rfl⟩ := Prod.mk.inj (Option.some.inj hentered)
    exact ⟨h, hstart⟩
  | cons part rest ih =>
    simp only [Tree.enter?] at hentered
    split at hentered
    · next hnext => exact ih h hnext hentered
    · next hnext =>
      split at hentered
      · cases hentered
      · have hpart : part ≠ ".." := by
          rintro rfl
          exact hnext (h.inside start (holds_of_isDirectory hstart))
        rw [Location.step_of_ne hpart] at hentered
        have hrooted : IsRooted { t with directories := t.directories ++ [start ++ [part]] } := by
          refine h.of_grows (grows_addDirectory t _) hstart hpart fun l hl => ?_
          simp only [holds, isFile, file?, isDirectory, Bool.or_eq_true, List.contains_iff_mem,
            List.mem_append, List.mem_singleton] at hl ⊢
          tauto
        exact ih hrooted (by simp [isDirectory]) hentered

/-- **A rooted tree stays rooted when a file is written.** -/
theorem writeBytes? (h : t.IsRooted) {p : Path} {bytes : ByteArray}
    (hstart : t.isDirectory start) (hwritten : t.writeBytes? start p bytes = some t') :
    t'.IsRooted := by
  obtain ⟨entered, parent, last, -, hentered, htarget, hfree, rfl⟩ :=
    writeBytes?_eq_some hwritten
  obtain ⟨hrooted, hparent⟩ : entered.IsRooted ∧ entered.isDirectory parent := by
    refine h.enter? ?_ hentered
    split
    · exact hstart
    · rfl
  have hlast : last ≠ ".." := by
    rintro rfl
    have hback := hrooted.inside parent (holds_of_isDirectory hparent)
    rw [← htarget, Location.step_back, hback] at hfree
    cases hfree
  rw [Location.step_of_ne hlast] at htarget
  refine hrooted.of_grows (grows_put entered _ bytes) hparent hlast fun l hl => ?_
  rw [htarget]
  by_cases heq : l = p.locationFrom start
  · exact .inr heq
  · rw [holds, isFile, file?_put, if_neg heq] at hl
    exact .inl hl

end IsRooted

/-! ### Trees made of files -/

theorem isRooted_nil : IsRooted ⟨[], []⟩ := by
  have hroot : ∀ l, holds ⟨[], []⟩ l → l = [] := by
    intro l hl
    simpa [holds, isFile, file?, isDirectory] using hl
  exact ⟨fun l hl => hroot l hl ▸ rfl, fun l hl => hroot l hl ▸ List.not_mem_nil⟩

/-- Nothing is in the way of a directory path in a tree without files. -/
theorem enter?_of_files_eq_nil (h : t.files = []) (start : Location) (parts : List String) :
    ∃ t', t.enter? start parts = some (t', parts.foldl Location.step start) := by
  induction parts generalizing t start with
  | nil => exact ⟨t, rfl⟩
  | cons part rest ih =>
    have hfile : t.isFile (start.step part) = false := by rw [isFile, file?, h]; rfl
    simp only [Tree.enter?, hfile, Bool.false_eq_true, if_false]
    split
    · exact ih h _
    · exact ih (t := { t with directories := t.directories ++ [start.step part] }) h _

theorem foldl_step_of_forward {parts : List String} (h : ".." ∉ parts) (l : Location) :
    parts.foldl Location.step l = l ++ parts := by
  induction parts generalizing l with
  | nil => rw [List.append_nil]; rfl
  | cons part rest ih =>
    rw [List.mem_cons, not_or] at h
    rw [List.foldl_cons, Location.step_of_ne (Ne.symm h.1), ih h.2, List.append_assoc]
    rfl

/-- The tree with nothing but a directory is rooted and holds the directory. -/
theorem isRooted_empty (h : ".." ∉ start) :
    (empty start).IsRooted ∧ (empty start).isDirectory start := by
  obtain ⟨t, ht⟩ := enter?_of_files_eq_nil (t := ⟨[], []⟩) rfl [] start
  rw [empty, ht]
  have hstart := isRooted_nil.enter? rfl ht
  rwa [foldl_step_of_forward h, List.nil_append] at hstart

/-- **Every tree that is made of files is rooted**, and its directory stays. -/
theorem isRooted_ofFiles (h : ".." ∉ start) (files : List (Path × ByteArray)) :
    (ofFiles start files).IsRooted ∧ (ofFiles start files).isDirectory start := by
  have hempty := isRooted_empty h
  rw [ofFiles]
  generalize empty start = t at hempty
  induction files generalizing t with
  | nil => exact hempty
  | cons file rest ih =>
    obtain ⟨p, bytes⟩ := file
    obtain ⟨hrooted, hstart⟩ := hempty
    rw [List.foldl_cons]
    cases hwritten : t.writeBytes? start p bytes with
    | none =>
      simp only [hwritten]
      exact ih t ⟨hrooted, hstart⟩
    | some written =>
      simp only [hwritten]
      exact ih written ⟨hrooted.writeBytes? hstart hwritten,
        (grows_of_writeBytes? hwritten).directory start hstart⟩

end Tree

end GirTypings.Files
