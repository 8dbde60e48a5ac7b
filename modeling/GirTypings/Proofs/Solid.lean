import GirTypings.Proofs.OneLine

/-!
# Solid layouts

A layout is **solid** if each of its lines, comments included, is on one line and not
empty.  Whatever is laid out from names, types and values on one line is solid: a line of
code starts with something that is always there, documentation is cut into lines first,
and a line of a comment starts with a star.

`isSolid_callable`, `isSolid_property`, `isSolid_constant`, `isSolid_enumeration` and
`isSolid_shell` say so for each kind of declaration, and `eq_empty_or_solid_header` says it
of the header.
-/

namespace GirTypings

open Text

namespace Declaration

/-! ### Solid layouts -/

/-- Whether each line of a part is on one line and not empty, if it is written. -/
def Part.IsSolid (p : Part) : Prop :=
  ∀ documented, ∀ line ∈ p.lines documented, IsLine line

/-- Whether all parts of a layout are solid. -/
def Layout.IsSolid (l : Layout) : Prop :=
  ∀ p ∈ l, p.IsSolid

theorem Layout.IsSolid.append {l m : Layout} (hl : l.IsSolid) (hm : m.IsSolid) :
    Layout.IsSolid (l ++ m) :=
  fun p hp => (List.mem_append.1 hp).elim (hl p) (hm p)

theorem Layout.IsSolid.cons {p : Part} {l : Layout} (hp : p.IsSolid) (hl : l.IsSolid) :
    Layout.IsSolid (p :: l) :=
  List.forall_mem_cons.2 ⟨hp, hl⟩

theorem isSolid_code {t : String} (h : IsLine t) : (Part.code t).IsSolid := by
  intro documented line hline
  rwa [List.mem_singleton.1 (show line ∈ [t] from hline)]

theorem isSolid_line (depth : Int) {t : String} (h : IsLine t) : (Layout.line depth t).IsSolid :=
  List.forall_mem_singleton.2 (isSolid_code (isLine_indentLine h))

theorem isSolid_comment (depth : Int) {remarks : List String} (h : ∀ r ∈ remarks, OneLine r) :
    (Layout.comment depth remarks).IsSolid := by
  intro p hp documented line hline
  rw [Layout.comment] at hp
  split at hp
  · cases hp
  rw [List.mem_singleton.1 hp, Part.lines] at hline
  split at hline
  · obtain ⟨inner, hinner, rfl⟩ := List.mem_map.1 hline
    exact isLine_indentLine (isLine_of_mem_docBlock h hinner)
  · cases hline

theorem Layout.IsSolid.isLine {l : Layout} (h : l.IsSolid) {documented : Bool} {line : String}
    (hline : line ∈ l.lines documented) : IsLine line := by
  obtain ⟨p, hp, hmem⟩ := List.mem_flatMap.1 hline
  exact h p hp documented line hmem

/-! ### Callables and properties -/

/-- Whether all that a callable says, but for its documentation, is on one line. -/
structure Callable.IsOneLine (c : Callable) : Prop where
  name : OneLine c.name
  signature : c.signature.IsOneLine
  modifiers : ∀ m ∈ c.modifiers, OneLine m

theorem oneLine_remark {doc : Option String} (h : ∀ t ∈ doc, OneLine t) :
    OneLine (Callable.remark doc) := by
  cases doc with
  | none =>
    show OneLine ""
    decide
  | some t =>
    rw [Callable.remark]
    split
    · decide
    · exact oneLine_append.2 ⟨by decide, h t rfl⟩

theorem oneLine_of_mem_remarks {camel : Bool} {c : Callable} (h : c.IsOneLine) {r : String}
    (hr : r ∈ c.remarks camel) : OneLine r := by
  rw [Callable.remarks, List.mem_append, List.mem_append] at hr
  rcases hr with (hr | hr) | hr
  · exact oneLine_of_mem_docLines hr
  · obtain ⟨p, hp, rfl⟩ := List.mem_map.1 hr
    have hp := h.signature.parameters p hp
    simp +decide [Callable.parameterRemark, hp.name, hp.type, oneLine_remark hp.doc]
  · split at hr
    · cases hr
    · rw [List.mem_singleton.1 hr]
      have hreturns := h.signature.returns
      simp +decide [Callable.returnRemark, oneLine_returnType hreturns.type,
        oneLine_remark hreturns.doc]

theorem isLine_declaration {camel : Bool} {c : Callable} (h : c.IsOneLine) :
    IsLine (c.declaration camel) := by
  refine isLine_joinWith (by decide) h.modifiers (IsLine.append_front ?_ (by decide))
  have hreturns := oneLine_returnType h.signature.returns.type
  have hname : OneLine (printedName camel c.name) := oneLine_printedName h.name
  have hlist := oneLine_parameterList h.signature.parameters
  split
  · simp +decide [hname, hlist]
  · simp +decide [hname, hlist, hreturns]

theorem isSolid_callable {camel : Bool} (depth : Int) {c : Callable} (h : c.IsOneLine) :
    (c.layout camel depth).IsSolid :=
  (isSolid_comment depth fun _ hr => oneLine_of_mem_remarks h hr).append
    (isSolid_line depth (isLine_declaration h))

/-- Whether all that a property says is on one line. -/
structure Property.IsOneLine (p : Property) : Prop where
  name : OneLine p.name
  type : OneLine p.type
  doc : ∀ t ∈ p.doc, OneLine t

theorem oneLine_declaredName {p : Property} (h : OneLine p.name) : OneLine p.declaredName := by
  refine Naming.oneLine_sanitize ?_
  rw [oneLine_ofList, List.mem_map]
  rintro ⟨c, hc, hnewline⟩
  split at hnewline
  · cases hnewline
  · exact h (hnewline ▸ hc)

theorem isSolid_property (depth : Int) {p : Property} (h : p.IsOneLine) :
    (p.layout depth).IsSolid := by
  refine (isSolid_comment depth fun r hr => ?_).append (isSolid_line depth ?_)
  · exact h.doc r (Option.filter_eq_some_iff.1 (Option.mem_toList.1 hr)).1
  · refine IsLine.append_front ?_ (by decide)
    have hname := oneLine_declaredName h.name
    split <;> simp +decide [hname, h.type]

/-! ### Constants, enumerations and classes -/

theorem isSolid_constant {c : Constant} (hname : OneLine c.name)
    (hvalue : ∀ v ∈ c.value, OneLine v) :
    c.layout.IsSolid := by
  refine List.forall_mem_singleton.2 (isSolid_code (IsLine.append_front ?_ (by decide)))
  simp +decide [hname, oneLine_literal hvalue]

/-- Whether all that an enumeration says, but for its documentation, is on one line. -/
structure Enumeration.IsOneLine (e : Enumeration) : Prop where
  name : OneLine e.name
  members : ∀ m ∈ e.members, OneLine m.1 ∧ OneLine m.2

theorem isLine_memberLine {identifier value : String} (hidentifier : OneLine identifier)
    (hvalue : OneLine value) : IsLine (Enumeration.memberLine identifier value) := by
  refine IsLine.append_front ?_ (by decide)
  simp +decide [hidentifier, oneLine_escape hvalue]

theorem isSolid_enumeration {e : Enumeration} (h : e.IsOneLine) : e.layout.IsSolid := by
  have hheader : IsLine e.header := by
    refine IsLine.append_front ?_ (by decide)
    simp +decide [Naming.oneLine_sanitize h.name]
  have hmembers : ∀ identifier value, (identifier, value) ∈ e.declaredMembers →
      IsLine (Enumeration.memberLine identifier value) := by
    intro identifier value hm
    obtain ⟨⟨name, original⟩, hmember, heq⟩ := List.mem_map.1 ((firstBy_sublist _).subset hm)
    simp only [Prod.mk.injEq] at heq
    obtain ⟨rfl, rfl⟩ := heq
    obtain ⟨hname, hvalue⟩ := h.members _ hmember
    exact isLine_memberLine (oneLine_memberIdentifier hname) hvalue
  refine (isSolid_comment 0 fun _ hr => oneLine_of_mem_docLines hr).append ?_
  refine .append (.cons (isSolid_code hheader) fun p hp => ?_)
    (List.forall_mem_singleton.2 (isSolid_code (by decide)))
  obtain ⟨⟨identifier, value⟩, hm, rfl⟩ := List.mem_map.1 hp
  exact isSolid_code (hmembers identifier value hm)

/-- Whether all that a shell says, but for its documentation, is on one line, and its
members are solid. -/
structure Shell.IsOneLine (s : Shell) : Prop where
  name : OneLine s.name
  kind : OneLine s.kind
  base : ∀ b ∈ s.base, OneLine b
  interfaces : ∀ i ∈ s.interfaces, OneLine i
  members : ∀ m ∈ s.members, m.IsSolid

theorem isLine_header_shell {s : Shell} (h : s.IsOneLine) : IsLine s.header := by
  have hextended : OneLine (s.extended?.elim "" (" extends " ++ ·)) := by
    cases hbase : s.extended? with
    | none =>
      show OneLine ""
      decide
    | some name =>
      rw [Shell.extended?] at hbase
      split at hbase
      · obtain ⟨b, hb, rfl⟩ := Option.map_eq_some_iff.1 hbase
        have hb := h.base b (Option.filter_eq_some_iff.1 hb).1
        exact oneLine_append.2 ⟨by decide, oneLine_referenceName hb⟩
      · cases hbase
  refine IsLine.append_front ?_ (by decide)
  simp +decide [h.kind, Naming.oneLine_sanitize h.name, hextended]

theorem isSolid_shell {s : Shell} (h : s.IsOneLine) : s.layout.IsSolid := by
  have hremarks : ∀ r ∈ s.remarks, OneLine r := by
    intro r hr
    rcases List.mem_append.1 hr with hr | hr
    · exact oneLine_of_mem_docLines hr
    · obtain ⟨i, hi, rfl⟩ := List.mem_map.1 hr
      simp +decide [oneLine_referenceName (h.interfaces i hi)]
  refine (isSolid_comment 0 hremarks).append (.cons (isSolid_code (isLine_header_shell h)) ?_)
  refine .append (fun p hp => ?_) (List.forall_mem_singleton.2 (isSolid_code (by decide)))
  obtain ⟨m, hm, hpm⟩ := List.mem_flatten.1 hp
  exact h.members m hm p hpm

/-! ### Headers -/

theorem isLine_importLine {space version : String} (hspace : OneLine space)
    (hversion : OneLine version) : IsLine (Header.importLine space version) := by
  refine IsLine.append_front ?_ (by decide)
  simp +decide [hspace, hversion]

/-- A text that does not end in a line feed has none to lose. -/
theorem dropWhile_newline_of_endsInLine {cs : List Char} (h : EndsInLine cs) :
    (cs.reverse.dropWhile (· == '\n')).reverse = cs := by
  obtain ⟨c, hlast, hc⟩ := h
  obtain ⟨front, rfl⟩ := List.getLast?_eq_some_iff.1 hlast
  rw [List.reverse_concat, List.dropWhile_cons_of_neg (by simpa using hc), ← List.reverse_concat,
    List.reverse_reverse]

/-- The lines of a header whose parts are on one line. -/
theorem isLine_of_mem_header {h : Header} (hcomment : OneLine h.comment)
    (himports : ∀ i ∈ h.imports, OneLine i.1 ∧ OneLine i.2) {l : String} (hl : l ∈ h.lines) :
    IsLine l := by
  rcases List.mem_append.1 hl with hl | hl
  · split at hl
    · cases hl
    · rw [List.mem_singleton.1 hl]
      exact IsLine.append (by decide) hcomment
  · obtain ⟨⟨space, version⟩, hi, rfl⟩ := List.mem_map.1 hl
    obtain ⟨hspace, hversion⟩ := himports _ hi
    exact isLine_importLine hspace hversion

/-- A header is its lines, with a line feed between neighbours. -/
theorem text_header {h : Header} (hlines : ∀ l ∈ h.lines, IsLine l) :
    h.text = joinLines h.lines := by
  by_cases hnil : h.lines = []
  · rw [Header.text, hnil]
    rfl
  · rw [Header.text, dropWhile_newline_of_endsInLine (solid_joinLines hnil hlines).endsInLine,
      String.ofList_toList]

/-- A header is empty, or solid. -/
theorem eq_empty_or_solid_header {h : Header} (hlines : ∀ l ∈ h.lines, IsLine l) :
    h.text = "" ∨ Solid h.text.toList := by
  rw [text_header hlines]
  by_cases hnil : h.lines = []
  · rw [hnil]
    exact .inl rfl
  · exact .inr (solid_joinLines hnil hlines)

end Declaration

end GirTypings
