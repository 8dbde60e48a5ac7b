import GirTypings.Proofs.Outline

/-!
# Bare and documented text

Whether comments are wanted is decided when a layout is written.  So the documented
text of a module should be the bare text with comments put in, and nothing else; this
module says so of the whole text, where the declarations are joined with empty lines
between them and members stand inside their classes.

A text is **commented** to another (`Commented`) if it is obtained by appending the same
pieces to both, and comments to one of them, each at the start of a line.  Texts that
end a line can be put one after the other (`Commented.append`), which carries the
relation from the parts of a layout to layouts, and from these to modules.

* `Commented.exists_insertions`: the pieces and the comments of a commented text;
* `isProper_of_mem_layouts`: the comments of a module stand at depth zero or one, and
  no layout consists of comments only;
* `documented_text_eq_bare_text_with_comments`: the bare and the documented text, and
  what no setting changes.
-/

namespace GirTypings

open Declaration Gir Registry Xml

/-! ### Comments put into a text -/

/-- Whether what comes after a text is at the start of a line. -/
def EndsLine (t : String) : Prop :=
  t = "" ∨ ∃ u, t = u ++ "\n"

theorem endsLine_append_newline (t : String) : EndsLine (t ++ "\n") :=
  .inr ⟨t, rfl⟩

theorem EndsLine.append {t u : String} (ht : EndsLine t) (hu : EndsLine u) : EndsLine (t ++ u) := by
  rcases hu with rfl | ⟨v, rfl⟩
  · rwa [String.append_empty]
  · exact .inr ⟨t ++ v, String.append_assoc.symm⟩

/-- A comment in a text, and the text from there to the next comment. -/
structure Insertion where
  /-- The depth at which the comment stands. -/
  depth : Int
  /-- What the comment says. -/
  remarks : List String
  /-- The text up to the next comment. -/
  next : String

namespace Insertion

/-- The comment, with a newline at its end. -/
def comment (i : Insertion) : String :=
  Text.joinLines (indent i.depth (docBlock i.remarks)) ++ "\n"

/-- The text without the comments. -/
def bare (start : String) (insertions : List Insertion) : String :=
  start ++ String.join (insertions.map next)

/-- The text with the comments. -/
def commented (start : String) (insertions : List Insertion) : String :=
  start ++ String.join (insertions.map fun i => i.comment ++ i.next)

theorem bare_concat (start : String) (insertions : List Insertion) (i : Insertion) :
    bare start (insertions ++ [i]) = bare start insertions ++ i.next := by
  simp [bare, String.append_assoc]

theorem commented_concat (start : String) (insertions : List Insertion) (i : Insertion) :
    commented start (insertions ++ [i]) = commented start insertions ++ i.comment ++ i.next := by
  simp [commented, String.append_assoc]

end Insertion

/-- A text and the same text with comments at starts of lines, at depth zero or one. -/
inductive Commented : String → String → Prop
  | plain (t : String) : Commented t t
  | insert {b d : String} (h : Commented b d) (i : Insertion) (hdepth : i.depth = 0 ∨ i.depth = 1)
      (hb : EndsLine b) (hd : EndsLine d) : Commented (b ++ i.next) (d ++ i.comment ++ i.next)

namespace Commented

theorem append_text {b d : String} (h : Commented b d) (t : String) :
    Commented (b ++ t) (d ++ t) := by
  cases h with
  | plain => exact .plain _
  | insert h i hdepth hb hd =>
    have hlonger := h.insert ⟨i.depth, i.remarks, i.next ++ t⟩ hdepth hb hd
    rw [String.append_assoc, String.append_assoc]
    exact hlonger

/-- Two texts one after the other, where the first ends a line. -/
theorem append {b d b' d' : String} (h : Commented b d) (hb : EndsLine b) (hd : EndsLine d)
    (h' : Commented b' d') : Commented (b ++ b') (d ++ d') := by
  induction h' with
  | plain t => exact h.append_text t
  | insert _ i hdepth hb' hd' ih =>
    have hnext := ih.insert i hdepth (hb.append hb') (hd.append hd')
    simpa only [String.append_assoc] using hnext

/-- **The pieces and the comments of a commented text**, by induction on the comments:
the last one is put behind all before it. -/
theorem exists_insertions {b d : String} (h : Commented b d) :
    ∃ start insertions, b = Insertion.bare start insertions ∧
      d = Insertion.commented start insertions ∧
      (∀ i ∈ insertions, i.depth = 0 ∨ i.depth = 1) ∧
      ∀ k < insertions.length, EndsLine (Insertion.bare start (insertions.take k)) ∧
        EndsLine (Insertion.commented start (insertions.take k)) := by
  induction h with
  | plain t =>
    refine ⟨t, [], ?_, ?_, by simp, fun k hk => absurd hk (Nat.not_lt_zero k)⟩
    · exact String.append_empty.symm
    · exact String.append_empty.symm
  | insert _ i hdepth hb hd ih =>
    obtain ⟨start, insertions, rfl, rfl, hdepths, hends⟩ := ih
    refine ⟨start, insertions ++ [i], (Insertion.bare_concat ..).symm,
      (Insertion.commented_concat ..).symm, ?_, ?_⟩
    · intro j hj
      rcases List.mem_append.1 hj with hj | hj
      · exact hdepths j hj
      · obtain rfl := List.mem_singleton.1 hj
        exact hdepth
    · intro k hk
      rw [List.length_append, List.length_singleton] at hk
      rw [List.take_append_of_le_length (by omega)]
      by_cases hlast : k = insertions.length
      · rw [hlast, List.take_length]
        exact ⟨hb, hd⟩
      · exact hends k (by omega)

end Commented

/-! ### Lines, parts and layouts -/

namespace Declaration

/-- Lines, each with a newline at its end. -/
def endedLines (lines : List String) : String :=
  String.join (lines.map (· ++ "\n"))

theorem endedLines_append (lines more : List String) :
    endedLines (lines ++ more) = endedLines lines ++ endedLines more := by
  rw [endedLines, List.map_append, String.join_append]
  rfl

theorem endsLine_endedLines (lines : List String) : EndsLine (endedLines lines) := by
  induction lines with
  | nil => exact .inl rfl
  | cons line rest ih =>
    rw [← List.singleton_append, endedLines_append]
    refine EndsLine.append ?_ ih
    rw [endedLines, List.map_singleton, String.join_cons, String.join_nil, String.append_empty]
    exact endsLine_append_newline line

/-- Joined lines with a newline after the last are ended lines, if there are any. -/
theorem joinLines_append_newline {lines : List String} (h : lines ≠ []) :
    Text.joinLines lines ++ "\n" = endedLines lines := by
  induction lines with
  | nil => exact absurd rfl h
  | cons line rest ih =>
    rw [endedLines, List.map_cons, String.join_cons]
    by_cases hrest : rest = []
    · subst hrest
      rw [List.map_nil, String.join_nil, String.append_empty]
      rfl
    · rw [Text.joinLines, Text.joinWith_cons "\n" line hrest, String.append_assoc,
        String.append_assoc, String.append_assoc]
      exact congrArg (fun t => line ++ ("\n" ++ t)) (ih hrest)

/-- Whether a part, if it is a comment, stands at depth zero or one. -/
def Part.IsShallow : Part → Prop
  | .comment depth _ => depth = 0 ∨ depth = 1
  | .code _ => True

/-- What a layout has to satisfy: it does not consist of comments only, and its comments
stand at depth zero or one. -/
structure Layout.IsProper (l : Layout) : Prop where
  code : ∃ t, .code t ∈ l
  shallow : ∀ p ∈ l, p.IsShallow

theorem commented_endedLines_part {p : Part} (h : p.IsShallow) :
    Commented (endedLines (p.lines false)) (endedLines (p.lines true)) := by
  cases p with
  | code t => exact .plain _
  | comment depth remarks =>
    have hcomment := (Commented.plain "").insert ⟨depth, remarks, ""⟩ h (.inl rfl) (.inl rfl)
    rw [String.append_empty, String.append_empty, String.empty_append, Insertion.comment,
      joinLines_append_newline (by simp [indent, docBlock])] at hcomment
    exact hcomment

theorem commented_endedLines {l : Layout} (h : ∀ p ∈ l, p.IsShallow) :
    Commented (endedLines (l.lines false)) (endedLines (l.lines true)) := by
  induction l with
  | nil => exact .plain _
  | cons p rest ih =>
    have hpart := commented_endedLines_part (h p (List.mem_cons_self ..))
    have hrest := ih fun q hq => h q (List.mem_cons_of_mem p hq)
    have hsplit : ∀ documented, endedLines (Layout.lines documented (p :: rest)) =
        endedLines (p.lines documented) ++ endedLines (Layout.lines documented rest) :=
      fun documented => endedLines_append ..
    rw [hsplit, hsplit]
    exact hpart.append (endsLine_endedLines _) (endsLine_endedLines _) hrest

theorem Layout.IsProper.lines_ne_nil {l : Layout} (h : l.IsProper) (documented : Bool) :
    l.lines documented ≠ [] := by
  obtain ⟨t, ht⟩ := h.code
  exact List.ne_nil_of_mem (List.mem_flatMap.2 ⟨.code t, ht, List.mem_singleton_self t⟩)

/-- The text of a layout, with a newline at its end. -/
theorem Layout.IsProper.commented {l : Layout} (h : l.IsProper) :
    Commented (l.text false ++ "\n") (l.text true ++ "\n") := by
  rw [Layout.text, Layout.text, joinLines_append_newline (h.lines_ne_nil false),
    joinLines_append_newline (h.lines_ne_nil true)]
  exact commented_endedLines h.shallow

/-- Layouts one after the other with an empty line between neighbours. -/
theorem commented_joinWith {layouts : List Layout} (h : ∀ l ∈ layouts, l.IsProper) :
    Commented (Text.joinWith "\n\n" (layouts.map (Layout.text false)) ++ "\n")
      (Text.joinWith "\n\n" (layouts.map (Layout.text true)) ++ "\n") := by
  induction layouts with
  | nil => exact .plain _
  | cons l rest ih =>
    have hfirst := (h l (List.mem_cons_self ..)).commented
    have hrest := ih fun m hm => h m (List.mem_cons_of_mem l hm)
    by_cases hne : rest = []
    · subst hne
      exact hfirst
    · have hsplit : ∀ documented,
          Text.joinWith "\n\n" ((l :: rest).map (Layout.text documented)) ++ "\n" =
            (l.text documented ++ "\n") ++ ("\n" ++
              (Text.joinWith "\n\n" (rest.map (Layout.text documented)) ++ "\n")) := by
        intro documented
        rw [List.map_cons, Text.joinWith_cons _ _ (by simpa using hne)]
        generalize Text.joinWith "\n\n" (rest.map (Layout.text documented)) = joined
        rw [show "\n\n" = "\n" ++ "\n" from rfl]
        simp only [String.append_assoc]
      rw [hsplit, hsplit]
      have hgap := (Commented.plain "\n").append (endsLine_append_newline "")
        (endsLine_append_newline "") hrest
      exact hfirst.append (endsLine_append_newline _) (endsLine_append_newline _) hgap

end Declaration

/-! ### The layouts of a module -/

namespace Declaration

theorem isShallow_of_mem_comment {depth : Int} (hdepth : depth = 0 ∨ depth = 1)
    {remarks : List String} {p : Part} (h : p ∈ Layout.comment depth remarks) : p.IsShallow := by
  rw [Layout.comment] at h
  split at h
  · cases h
  · obtain rfl := List.mem_singleton.1 h
    exact hdepth

/-- A comment, if there is one, over code. -/
theorem isProper_comment_append {depth : Int} (hdepth : depth = 0 ∨ depth = 1)
    (remarks : List String) {l : Layout} (h : l.IsProper) :
    Layout.IsProper (Layout.comment depth remarks ++ l) := by
  obtain ⟨t, ht⟩ := h.code
  refine ⟨⟨t, List.mem_append_right _ ht⟩, ?_⟩
  intro p hp
  rcases List.mem_append.1 hp with hp | hp
  · exact isShallow_of_mem_comment hdepth hp
  · exact h.shallow p hp

theorem isProper_code (t : String) : Layout.IsProper [.code t] := by
  refine ⟨⟨t, List.mem_singleton_self _⟩, ?_⟩
  intro p hp
  obtain rfl := List.mem_singleton.1 hp
  trivial

theorem isProper_callable (camel : Bool) {depth : Int} (hdepth : depth = 0 ∨ depth = 1)
    (c : Callable) : (c.layout camel depth).IsProper :=
  isProper_comment_append hdepth _ (isProper_code _)

theorem isProper_property {depth : Int} (hdepth : depth = 0 ∨ depth = 1) (p : Property) :
    (p.layout depth).IsProper :=
  isProper_comment_append hdepth _ (isProper_code _)

/-- Members inside a declaration. -/
theorem isProper_body (header footer : String) {members : List Layout}
    (h : ∀ m ∈ members, m.IsProper) :
    Layout.IsProper (.code header :: (members.flatten ++ [.code footer])) := by
  refine ⟨⟨header, List.mem_cons_self ..⟩, ?_⟩
  intro p hp
  rcases List.mem_cons.1 hp with rfl | hp
  · trivial
  rcases List.mem_append.1 hp with hp | hp
  · obtain ⟨m, hm, hpm⟩ := List.mem_flatten.1 hp
    exact (h m hm).shallow p hpm
  · obtain rfl := List.mem_singleton.1 hp
    trivial

theorem isProper_shell {s : Shell} (h : ∀ m ∈ s.members, m.IsProper) : s.layout.IsProper :=
  isProper_comment_append (.inl rfl) _ (isProper_body _ _ h)

theorem isProper_enumeration (e : Enumeration) : e.layout.IsProper := by
  refine isProper_comment_append (.inl rfl) _ ⟨⟨e.header, List.mem_cons_self ..⟩, ?_⟩
  intro p hp
  rcases List.mem_append.1 hp with hp | hp
  · rcases List.mem_cons.1 hp with rfl | hp
    · trivial
    · obtain ⟨m, -, rfl⟩ := List.mem_map.1 hp
      trivial
  · obtain rfl := List.mem_singleton.1 hp
    trivial

end Declaration

theorem isProper_memberLayouts {camel : Bool} {e : Element} {className : String} {l : Layout}
    (h : l ∈ e.memberLayouts camel className) : l.IsProper := by
  rcases Element.mem_memberLayouts h with ⟨p, rfl⟩ | ⟨c, rfl⟩
  · exact isProper_property (.inr rfl) p
  · exact isProper_callable camel (.inr rfl) c

theorem isProper_looseLayout? {camel : Bool} {e : Element} {l : Layout}
    (h : looseLayout? camel e = some l) : l.IsProper := by
  rcases looseLayout?_eq_some_iff.1 h with ⟨-, name, -, rfl⟩ | ⟨-, name, -, rfl⟩
  · exact isProper_callable camel (.inl rfl) _
  · exact isProper_code _

theorem isProper_record? {camel : Bool} {e : Element} {r : Record Layout}
    (h : record? camel e = some r) : r.contents.IsProper := by
  rcases record?_eq_some_iff.1 h with ⟨-, name, -, rfl⟩ | ⟨-, name, -, rfl⟩
  · exact isProper_shell fun m hm => isProper_memberLayouts hm
  · exact isProper_enumeration _

/-- **The layouts of a module are proper**, whatever child they come from. -/
theorem isProper_of_mem_layouts {settings : Settings} {versions : Table String String}
    {e : Element} {l : Layout} (h : l ∈ (compile settings versions e).layouts) : l.IsProper := by
  rcases List.mem_append.1 h with h | h
  · obtain ⟨child, -, hchild⟩ := List.mem_filterMap.1 h
    exact isProper_looseLayout? hchild
  · obtain ⟨r, hr, rfl⟩ := List.mem_map.1 h
    obtain ⟨child, -, hchild⟩ := exists_child_of_mem_emission hr
    exact isProper_record? hchild

/-! ### The text of a module -/

/-- The layouts of a module, with one for the header if there is one. -/
def moduleLayouts (m : Module) : List Layout :=
  (if m.header = "" then [] else [[.code m.header]]) ++ m.layouts

theorem text_eq_joinWith (m : Module) :
    m.text = Text.joinWith "\n\n" ((moduleLayouts m).map (Layout.text m.documented)) ++ "\n" := by
  rw [Module.text, Module.blocks, moduleLayouts, List.map_append]
  split <;> rfl

theorem isProper_of_mem_moduleLayouts {settings : Settings} {versions : Table String String}
    {e : Element} {l : Layout} (h : l ∈ moduleLayouts (compile settings versions e)) :
    l.IsProper := by
  rcases List.mem_append.1 h with h | h
  · split at h
    · cases h
    · rw [List.mem_singleton.1 h]
      exact isProper_code _
  · exact isProper_of_mem_layouts h

/-- **Bare and documented text.**  Under two settings that differ in the documentation
alone, one for it and one against, the documented text is the bare text with comments
put in, each at the start of a line and at depth zero or one.  And no setting changes the
name and the version of a module, its imports, or the names of what stalls. -/
theorem documented_text_eq_bare_text_with_comments (settings : Settings) (on off : Json)
    (hon : on.isOn = true) (hoff : off.isOn = false) (versions : Table String String)
    (e : Element) :
    (∃ start insertions,
      (compile { settings with documentation := off } versions e).text =
        Insertion.bare start insertions ∧
      (compile { settings with documentation := on } versions e).text =
        Insertion.commented start insertions ∧
      (∀ i ∈ insertions, i.depth = 0 ∨ i.depth = 1) ∧
      ∀ k < insertions.length, EndsLine (Insertion.bare start (insertions.take k)) ∧
        EndsLine (Insertion.commented start (insertions.take k))) ∧
    ∀ s s' : Settings,
      (compile s versions e).space = (compile s' versions e).space ∧
      (compile s versions e).version = (compile s' versions e).version ∧
      (compile s versions e).imports = (compile s' versions e).imports ∧
      (compile s versions e).stalled = (compile s' versions e).stalled := by
  refine ⟨?_, fun s s' => ⟨rfl, rfl, (order_outline s s' e).1, (order_outline s s' e).2⟩⟩
  have hproper : ∀ l ∈ moduleLayouts (compile settings versions e), l.IsProper :=
    fun l hl => isProper_of_mem_moduleLayouts hl
  have hbare : (compile { settings with documentation := off } versions e).text =
      Text.joinWith "\n\n" ((moduleLayouts (compile settings versions e)).map
        (Layout.text off.isOn)) ++ "\n" := text_eq_joinWith _
  have hdocumented : (compile { settings with documentation := on } versions e).text =
      Text.joinWith "\n\n" ((moduleLayouts (compile settings versions e)).map
        (Layout.text on.isOn)) ++ "\n" := text_eq_joinWith _
  rw [hoff] at hbare
  rw [hon] at hdocumented
  rw [hbare, hdocumented]
  exact (commented_joinWith hproper).exists_insertions

/-- A namespace with a function that is documented. -/
def documentedFunction : Element :=
  .mk ⟨some coreNamespace, "namespace"⟩ []
    [.element (.mk ⟨some coreNamespace, "function"⟩ [⟨⟨none, "name"⟩, "f"⟩]
      [.element (.mk ⟨some coreNamespace, "doc"⟩ [] [.text "Does it."])])]

/-- The comment of the function is what the documented text has more. -/
theorem documented_text_of_function :
    Json.isOn (.bool true) = true ∧ Json.isOn (.bool false) = false ∧
    ∃ start insertions,
      (compile { documentation := .bool false, originComment := .bool false } []
        documentedFunction).text = Insertion.bare start insertions ∧
      (compile { documentation := .bool true, originComment := .bool false } []
        documentedFunction).text = Insertion.commented start insertions ∧
      Insertion.bare start insertions = "export function f(): void;\n" ∧
      Insertion.commented start insertions =
        "/**\n * Does it.\n * @returns \x7bvoid\x7d\n */\nexport function f(): void;\n" := by
  have h := documented_text_eq_bare_text_with_comments { originComment := .bool false }
    (.bool true) (.bool false) rfl rfl [] documentedFunction
  obtain ⟨⟨start, insertions, hbare, hcommented, -, -⟩, -⟩ := h
  refine ⟨rfl, rfl, start, insertions, hbare, hcommented, ?_, ?_⟩
  · rw [← hbare]
    decide +kernel
  · rw [← hcommented]
    decide +kernel

end GirTypings
