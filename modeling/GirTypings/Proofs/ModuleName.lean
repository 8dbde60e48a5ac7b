import GirTypings.Files.Source
import GirTypings.Proofs.Row

/-!
# Names of modules

The file of a document is named after a module and a version, with a hyphen between them and
`.gir` behind them.  The name of the module is read off the **last component** of the path:
what slashes and single dots behind it say is passed over (`IsLastComponent`).  The component
loses `.gir` once (`IsStem`) and is cut at its last hyphen, so the name may hold hyphens and
the version may not.

* `isLastComponent_iff`, `isStem_iff`: the component that a path ends with, and its stem;
* `beforeLast?_eq_some_iff`: where a text is cut;
* `moduleName?_eq_some_iff`, `moduleName?_eq_none_iff`: the names that are read;
* `moduleName?_inverts_naming`: what is read off a file that is named after a module.
-/

namespace GirTypings.Files

/-! ### The last component -/

/-- Whether a text is slashes and single dots behind slashes, which name nothing. -/
inductive IsIdle : List Char → Prop
  | nil : IsIdle []
  | slash {rest : List Char} (h : IsIdle rest) : IsIdle ('/' :: rest)
  | dot {rest : List Char} (h : IsIdle rest) : IsIdle ('/' :: '.' :: rest)

/-- Whether a path, given by its characters, ends with a component. -/
inductive IsLastComponent : List Char → List Char → Prop
  /-- A component that names something stands at the start or behind a slash. -/
  | named (front name idle : List Char) (hfront : front = [] ∨ front.getLast? = some '/')
      (hname : name ≠ [] ∧ name ≠ ['.'] ∧ '/' ∉ name) (hidle : IsIdle idle) :
      IsLastComponent (front ++ (name ++ idle)) name
  /-- A path without such a component ends with the empty one. -/
  | unnamed (path : List Char) (h : IsIdle ('/' :: path)) : IsLastComponent path []

/-- A segment that is a part of the path. -/
def isPart (s : List Char) : Bool :=
  s ≠ [] && s ≠ ['.']

theorem name_ofText (t : String) :
    (Path.ofText t).name = .ofList (((segments t.toList).filter isPart).getLast?.getD []) := by
  have hparts : (Path.ofText t).parts = ((segments t.toList).filter isPart).map .ofList := rfl
  rw [Path.name, hparts, List.getLast?_map]
  cases ((segments t.toList).filter isPart).getLast? <;> rfl

theorem segments_append_slash (front back : List Char) :
    segments (front ++ '/' :: back) = segments front ++ segments back :=
  Text.cutAt_append_cons rfl front back

theorem segments_of_not_mem {s : List Char} (h : '/' ∉ s) : segments s = [s] :=
  Text.cutAt_of_not_mem h

/-- Idle text behind something adds no part. -/
theorem IsIdle.filter_segments {idle : List Char} (h : IsIdle idle) (name : List Char)
    (hname : '/' ∉ name) :
    (segments (name ++ idle)).filter isPart = [name].filter isPart := by
  induction h generalizing name with
  | nil => rw [List.append_nil, segments_of_not_mem hname]
  | @slash rest _ ih =>
    have hrest : (segments rest).filter isPart = [] := ih [] List.not_mem_nil
    rw [segments_append_slash, List.filter_append, segments_of_not_mem hname, hrest,
      List.append_nil]
  | @dot rest _ ih =>
    have hrest : (segments ('.' :: rest)).filter isPart = [] := ih ['.'] (by decide)
    rw [segments_append_slash, List.filter_append, segments_of_not_mem hname, hrest,
      List.append_nil]

/-- The component that a path ends with is its last part. -/
theorem IsLastComponent.getLast?_eq {path name : List Char} (h : IsLastComponent path name) :
    ((segments path).filter isPart).getLast?.getD [] = name := by
  cases h with
  | named front _ idle hfront hname hidle =>
    have hpart : isPart name = true := by simp [isPart, hname.1, hname.2.1]
    have hlast : (segments (name ++ idle)).filter isPart = [name] := by
      rw [hidle.filter_segments name hname.2.2, List.filter_cons_of_pos hpart, List.filter_nil]
    rcases hfront with rfl | hfront
    · rw [List.nil_append, hlast]
      rfl
    · obtain ⟨before, rfl⟩ := List.getLast?_eq_some_iff.1 hfront
      rw [List.append_assoc, List.singleton_append, segments_append_slash, List.filter_append,
        hlast, List.getLast?_concat]
      rfl
  | unnamed _ h =>
    have hnone : (segments ([] ++ '/' :: path)).filter isPart = [] :=
      h.filter_segments [] List.not_mem_nil
    rw [segments_append_slash, List.filter_append] at hnone
    rw [(List.append_eq_nil_iff.1 hnone).2]
    rfl

/-- Every path ends with a component, by induction on its characters: one in front begins a
component, makes the first one grow, or stands in front of all. -/
theorem exists_isLastComponent (path : List Char) : ∃ name, IsLastComponent path name := by
  induction path with
  | nil => exact ⟨[], .unnamed [] (.slash .nil)⟩
  | cons c rest ih =>
    obtain ⟨name, hname⟩ := ih
    cases hname with
    | named front _ idle hfront hname hidle =>
      cases front with
      | cons d front => exact ⟨name, .named (c :: d :: front) name idle (.inr (hfront.resolve_left
          (List.cons_ne_nil d front))) hname hidle⟩
      | nil =>
        by_cases hslash : c = '/'
        · exact ⟨name, .named [c] name idle (.inr (congrArg some hslash)) hname hidle⟩
        · refine ⟨c :: name, .named [] (c :: name) idle (.inl rfl) ⟨List.cons_ne_nil c name, ?_, ?_⟩
            hidle⟩
          · exact fun h => hname.1 (List.cons.inj h).2
          · exact fun h => (List.mem_cons.1 h).elim (fun h => hslash h.symm) hname.2.2
    | unnamed _ h =>
      by_cases hslash : c = '/'
      · exact ⟨[], .unnamed _ (hslash ▸ .slash h)⟩
      · cases h with
        | slash hidle =>
          by_cases hdot : c = '.'
          · exact ⟨[], .unnamed _ (hdot ▸ .dot hidle)⟩
          · exact ⟨[c], .named [] [c] rest (.inl rfl) ⟨List.cons_ne_nil c [],
              fun h => hdot (List.cons.inj h).1, fun h => hslash (List.mem_singleton.1 h).symm⟩ hidle⟩
        | @dot more hidle =>
          exact ⟨[c, '.'], .named [] [c, '.'] more (.inl rfl) ⟨List.cons_ne_nil c ['.'],
            fun h => List.cons_ne_nil _ _ (List.cons.inj h).2,
            fun h => (List.mem_cons.1 h).elim (fun h => hslash h.symm) (by decide)⟩ hidle⟩

/-- **The component that a path ends with.** -/
theorem isLastComponent_iff {t : String} {component : List Char} :
    IsLastComponent t.toList component ↔ (Path.ofText t).name.toList = component := by
  rw [name_ofText, String.toList_ofList]
  constructor
  · intro h
    exact h.getLast?_eq
  · rintro rfl
    obtain ⟨name, hname⟩ := exists_isLastComponent t.toList
    rw [hname.getLast?_eq]
    exact hname

/-! ### The stem -/

/-- The characters of the extension. -/
def girExtension : List Char :=
  ".gir".toList

/-- Whether a file name is a stem with at most one extension removed. -/
def IsStem (name stem : List Char) : Prop :=
  name = stem ++ girExtension ∨ stem = name ∧ ¬ girExtension <:+ name

theorem dropGirChars_cons {c : Char} {rest : List Char} (h : c :: rest ≠ girExtension) :
    dropGirChars (c :: rest) = c :: dropGirChars rest := by
  rw [dropGirChars]
  rintro rfl rfl
  exact h rfl

theorem dropGirChars_append (stem : List Char) : dropGirChars (stem ++ girExtension) = stem := by
  induction stem with
  | nil => rfl
  | cons c stem ih =>
    have hlonger : c :: (stem ++ girExtension) ≠ girExtension := fun h => by
      have hlength := congrArg List.length h
      rw [List.length_cons, List.length_append] at hlength
      omega
    rw [List.cons_append, dropGirChars_cons hlonger, ih]

theorem dropGirChars_of_not_suffix {name : List Char} (h : ¬ girExtension <:+ name) :
    dropGirChars name = name := by
  induction name with
  | nil => rfl
  | cons c rest ih =>
    have hne : c :: rest ≠ girExtension := fun heq => h (heq ▸ List.suffix_rfl)
    rw [dropGirChars_cons hne, ih fun hrest => h (hrest.trans (List.suffix_cons c rest))]

/-- **The stem of a file name.** -/
theorem isStem_iff {name stem : List Char} : IsStem name stem ↔ stem = dropGirChars name := by
  constructor
  · rintro (rfl | ⟨rfl, hname⟩)
    · rw [dropGirChars_append]
    · rw [dropGirChars_of_not_suffix hname]
  · rintro rfl
    by_cases hname : girExtension <:+ name
    · obtain ⟨stem, rfl⟩ := hname
      rw [dropGirChars_append]
      exact .inl rfl
    · exact .inr ⟨dropGirChars_of_not_suffix hname, hname⟩

/-! ### The last hyphen -/

variable {mark : Char} {cs front back : List Char}

theorem beforeLast?_of_not_mem (h : mark ∉ cs) : beforeLast? mark cs = none := by
  induction cs with
  | nil => rfl
  | cons c rest ih =>
    rw [List.mem_cons, not_or] at h
    rw [beforeLast?, ih h.2]
    exact if_neg (Ne.symm h.1)

/-- A text is cut at a mark that has no other behind it. -/
theorem beforeLast?_append (front : List Char) (h : mark ∉ back) :
    beforeLast? mark (front ++ mark :: back) = some front := by
  induction front with
  | nil =>
    rw [List.nil_append, beforeLast?, beforeLast?_of_not_mem h]
    exact if_pos rfl
  | cons c front ih => rw [List.cons_append, beforeLast?, ih]

/-- What holds a mark has a last one. -/
theorem exists_last_of_mem (h : mark ∈ cs) :
    ∃ front back, cs = front ++ mark :: back ∧ mark ∉ back := by
  obtain ⟨back, front, hcs, hback⟩ := List.eq_append_cons_of_mem (List.mem_reverse.2 h)
  refine ⟨front.reverse, back.reverse, ?_, fun hmem => hback (List.mem_reverse.1 hmem)⟩
  rw [← List.reverse_reverse cs, hcs]
  simp

/-- **Where a text is cut**: at its last mark. -/
theorem beforeLast?_eq_some_iff :
    beforeLast? mark cs = some front ↔ ∃ back, cs = front ++ mark :: back ∧ mark ∉ back := by
  constructor
  · intro h
    by_cases hmem : mark ∈ cs
    · obtain ⟨front', back, rfl, hback⟩ := exists_last_of_mem hmem
      rw [beforeLast?_append front' hback] at h
      cases h
      exact ⟨back, rfl, hback⟩
    · rw [beforeLast?_of_not_mem hmem] at h
      cases h
  · rintro ⟨back, rfl, hback⟩
    exact beforeLast?_append front hback

/-! ### Names -/

theorem moduleName?_eq_of_isStem {p : Path} {stem : List Char} (h : IsStem p.name.toList stem) :
    moduleName? p = ((beforeLast? '-' stem).filter (· ≠ [])).map .ofList := by
  rw [moduleName?, isStem_iff.1 h]
  cases beforeLast? '-' (dropGirChars p.name.toList) with
  | none => rfl
  | some front => cases front <;> rfl

/-- **The names that are read.** -/
theorem moduleName?_eq_some_iff {p : Path} {stem : List Char} (h : IsStem p.name.toList stem)
    {name : String} :
    moduleName? p = some name ↔
      name ≠ "" ∧ ∃ version, stem = name.toList ++ '-' :: version ∧ '-' ∉ version := by
  rw [moduleName?_eq_of_isStem h]
  constructor
  · intro hname
    obtain ⟨front, hfront, rfl⟩ := Option.map_eq_some_iff.1 hname
    obtain ⟨hcut, hne⟩ := Option.filter_eq_some_iff.1 hfront
    rw [String.toList_ofList]
    exact ⟨fun hempty => of_decide_eq_true hne (String.ofList_eq_empty_iff.1 hempty),
      beforeLast?_eq_some_iff.1 hcut⟩
  · rintro ⟨hne, hversion⟩
    have hchars : name.toList ≠ [] := fun hnil => hne (String.toList_eq_nil_iff.1 hnil)
    rw [beforeLast?_eq_some_iff.2 hversion, Option.filter_some, if_pos (decide_eq_true hchars),
      Option.map_some, String.ofList_toList]

/-- **The paths that no name is read off**: those without a hyphen behind the first character
of the stem. -/
theorem moduleName?_eq_none_iff {p : Path} {stem : List Char} (h : IsStem p.name.toList stem) :
    moduleName? p = none ↔ '-' ∉ stem.tail := by
  constructor
  · intro hnone hmem
    cases stem with
    | nil => cases hmem
    | cons c rest =>
      obtain ⟨front, version, hrest, hversion⟩ := exists_last_of_mem hmem
      have hsome : moduleName? p = some (.ofList (c :: front)) := by
        refine (moduleName?_eq_some_iff h).2 ⟨?_, version, ?_, hversion⟩
        · exact fun hempty => List.cons_ne_nil c front (String.ofList_eq_empty_iff.1 hempty)
        · rw [String.toList_ofList, List.cons_append, ← hrest, List.tail_cons]
      rw [hnone] at hsome
      cases hsome
  · intro hhyphen
    cases hname : moduleName? p with
    | none => rfl
    | some name =>
      obtain ⟨hne, version, rfl, -⟩ := (moduleName?_eq_some_iff h).1 hname
      refine absurd ?_ hhyphen
      rw [List.tail_append_of_ne_nil fun hnil => hne (String.toList_eq_nil_iff.1 hnil)]
      exact List.mem_append_right _ (List.mem_cons_self ..)

/-- The file name of a document of a module and a version. -/
def documentName (name version : String) : String :=
  name ++ "-" ++ version ++ ".gir"

/-- A file that is named after a module and a version gives the module. -/
theorem moduleName?_of_documentName {p : Path} {name version : String} (hne : name ≠ "")
    (hversion : '-' ∉ version.toList) (hp : p.name = documentName name version) :
    moduleName? p = some name := by
  have hstem : IsStem p.name.toList (name.toList ++ '-' :: version.toList) := by
    left
    rw [hp, documentName, String.toList_append, String.toList_append, String.toList_append,
      List.append_assoc name.toList]
    rfl
  exact (moduleName?_eq_some_iff hstem).2 ⟨hne, version.toList, rfl, hversion⟩

theorem isLastComponent_documentName {directory name version : String}
    (hdirectory : directory = "" ∨ directory.toList.getLast? = some '/') (hname : '/' ∉ name.toList)
    (hversion : '/' ∉ version.toList) :
    IsLastComponent (directory ++ documentName name version).toList
      (documentName name version).toList := by
  have hchars : (documentName name version).toList =
      name.toList ++ '-' :: (version.toList ++ girExtension) := by
    simp only [documentName, String.toList_append, List.append_assoc]
    rfl
  have hhyphen : '-' ∈ (documentName name version).toList := by
    rw [hchars]
    exact List.mem_append_right _ (List.mem_cons_self ..)
  have hslash : '/' ∉ (documentName name version).toList := by
    rw [hchars, List.mem_append, List.mem_cons, List.mem_append]
    rintro (h | h | h | h)
    · exact hname h
    · cases h
    · exact hversion h
    · exact absurd h (by decide)
  have hfront : directory.toList = [] ∨ directory.toList.getLast? = some '/' :=
    hdirectory.imp_left fun h => by rw [h]; rfl
  have hnamed := IsLastComponent.named directory.toList _ [] hfront
    ⟨List.ne_nil_of_mem hhyphen, fun h => ?_, hslash⟩ .nil
  · rwa [List.append_nil, ← String.toList_append] at hnamed
  · rw [h] at hhyphen
    exact absurd hhyphen (by decide)

/-- **The name of a module is read off the file that is named after it**, in whichever directory
it is, if the name is not empty and the version holds no hyphen.  From any other path too a name
is read, unless the stem of the last component holds no hyphen behind its first character. -/
theorem moduleName?_inverts_naming :
    (∀ name version : String, name ≠ "" → '/' ∉ name.toList → '/' ∉ version.toList →
      '-' ∉ version.toList →
      (∀ directory : String, directory = "" ∨ directory.toList.getLast? = some '/' →
        moduleName? (.ofText (directory ++ documentName name version)) = some name) ∧
      ∀ directory : Path, moduleName? (directory.child (documentName name version)) = some name) ∧
    ∀ t : String, (∃ component stem, IsLastComponent t.toList component ∧ IsStem component stem) ∧
      ∀ component stem, IsLastComponent t.toList component → IsStem component stem →
        (moduleName? (.ofText t) = none ↔ '-' ∉ stem.tail) := by
  refine ⟨fun name version hne hname hslash hhyphen => ⟨?_, ?_⟩, fun t => ⟨?_, ?_⟩⟩
  · intro directory hdirectory
    have hcomponent := isLastComponent_documentName hdirectory hname hslash
    exact moduleName?_of_documentName hne hhyphen
      (String.toList_inj.1 (isLastComponent_iff.1 hcomponent))
  · intro directory
    refine moduleName?_of_documentName hne hhyphen ?_
    rw [Path.name, Path.child, List.getLast?_concat, Option.getD_some]
  · exact ⟨_, _, isLastComponent_iff.2 rfl, isStem_iff.2 rfl⟩
  · rintro component stem hcomponent hstem
    rw [← isLastComponent_iff.1 hcomponent] at hstem
    exact moduleName?_eq_none_iff hstem

/-- A name with a hyphen in it, in a directory with one; and a file with a hyphen in front only,
behind slashes and a dot that name nothing. -/
theorem moduleName?_of_pluginsBase :
    moduleName? (.ofText "/opt/gir-1.0/Gst-Base-1.0.gir") = some "Gst-Base" ∧
    moduleName? (.ofText "gir/-1.0.gir/./") = none := by
  have hread := moduleName?_inverts_naming.1 "Gst-Base" "1.0" (by decide) (by decide) (by decide)
    (by decide)
  have hnone := (moduleName?_inverts_naming.2 "gir/-1.0.gir/./").2 "-1.0.gir".toList "-1.0".toList
    (.named "gir/".toList "-1.0.gir".toList "/./".toList (.inr rfl)
      ⟨by decide, by decide, by decide⟩ (.dot (.slash .nil))) (.inl rfl)
  exact ⟨hread.1 "/opt/gir-1.0/" (.inr rfl), hnone.2 (by decide)⟩

end GirTypings.Files
