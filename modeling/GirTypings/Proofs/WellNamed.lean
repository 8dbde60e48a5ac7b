import Mathlib.Data.Option.Basic
import GirTypings.Proofs.Scanning
import GirTypings.Xml.Document

/-!
# Names in documents

Every element of a document has a plain local name, since it has been read off a tag.  The
local names of its attributes hold name characters only, also of those that a declaration
adds, and no two attributes have the same expanded name.

A document is read in three stages, and each keeps what the one before it has found: the
pieces of the text, the tokens that they stand for, and the tree that the tokens make.

* `gives_piece`, `isNamed_of_tokens?`: pieces and tokens name elements plainly;
* `isWellNamed_of_elementOf?`: so the tree has well named elements only, by induction on the
  tokens;
* `isWellNamed_of_document?`: this holds of all elements of a document.
-/

namespace GirTypings.Xml

open Scanner

/-! ### Elements inside elements -/

/-- An element and the elements inside it, at any depth. -/
inductive Element.Within (root : Element) : Element → Prop
  | root : root.Within root
  | child {e c : Element} (h : root.Within e) (hc : c ∈ e.children) : root.Within c

/-- An element is the outermost one or within one of its children. -/
theorem Element.within_iff {root e : Element} :
    root.Within e ↔ e = root ∨ ∃ c ∈ root.children, c.Within e := by
  constructor
  · intro h
    induction h with
    | root => exact .inl rfl
    | @child d c _ hc ih =>
      rcases ih with rfl | ⟨first, hfirst, hwithin⟩
      · exact .inr ⟨c, hc, .root⟩
      · exact .inr ⟨first, hfirst, .child hwithin hc⟩
  · rintro (rfl | ⟨c, hc, h⟩)
    · exact .root
    · induction h with
      | root => exact .child .root hc
      | child _ hd ih => exact .child ih hd

/-! ### Pieces -/

/-- Whether a name has a plain local name. -/
def QualifiedName.IsPlain (n : QualifiedName) : Prop :=
  isPlainName n.localName.toList = true

/-- Whether a piece names the element that it starts plainly, if it starts one. -/
def Piece.IsNamed : Piece → Prop
  | .opens name _ _ => name.IsPlain
  | _ => True

theorem gives_plainName : plainName.Gives fun t => isPlainName t.toList = true := by
  intro s t rest hreads
  obtain ⟨c, mid, hc, hmore⟩ := Eager.reads_andThen_iff.1 hreads
  obtain ⟨run, tail, hrun, hpure⟩ := reads_bind_iff.1 hmore
  obtain ⟨rfl, -⟩ := reads_pure_iff.1 hpure
  rw [String.toList_ofList, isPlainName, (reads_charWhere_iff.1 hc).2, (reads_charsWhere_iff.1 hrun).1,
    List.all_takeWhile]
  rfl

theorem gives_qualifiedName : qualifiedName.Gives QualifiedName.IsPlain :=
  gives_plainName.andThen fun _ hfirst =>
    .orElse
      (Eager.Gives.scan (Eager.gives_andThen fun _ =>
        gives_plainName.scan.bind fun _ hsecond => gives_pure hsecond))
      (gives_pure hfirst)

theorem gives_startTagBody : startTagBody.Gives Piece.IsNamed :=
  gives_qualifiedName.scan.bind fun _ hname =>
    gives_bind fun _ => gives_bind fun _ =>
      .orElse (gives_bind fun _ => gives_pure hname) (gives_bind fun _ => gives_pure hname)

/-- **A piece that starts an element names it plainly.** -/
theorem gives_piece : piece.Gives Piece.IsNamed := by
  refine .orElse (Eager.gives_andThen fun _ => gives_bind fun _ => gives_pure trivial) ?_
  refine .orElse (Eager.gives_andThen fun _ => gives_pure trivial) (Eager.gives_andThen fun _ => ?_)
  refine .orElse gives_startTagBody (.orElse ?_ (.orElse ?_ ?_))
  · exact gives_bind fun _ => gives_bind fun _ => gives_bind fun _ => gives_bind fun _ =>
      gives_pure trivial
  · exact gives_bind fun _ => gives_bind fun _ => gives_pure trivial
  · exact gives_bind fun _ => gives_pure trivial

theorem isNamed_of_pieces? {text : List Char} {pieces : List Piece} (h : pieces? text = some pieces) :
    ∀ p ∈ pieces, p.IsNamed :=
  gives_piece.many text pieces [] (all?_eq_some_iff.1 h)

/-! ### Tokens -/

/-- Whether a token names the element that it starts plainly, if it starts one. -/
def Token.IsNamed : Token → Prop
  | .opens name _ => name.IsPlain
  | _ => True

/-- What makes tokens of named ones that are named makes all of them so. -/
theorem isNamed_of_map_eq_some {more? : Option (List Token)} {f : List Token → List Token}
    {tokens : List Token} (hf : ∀ more, (∀ t ∈ more, t.IsNamed) → ∀ t ∈ f more, t.IsNamed)
    (hmore : ∀ more, more? = some more → ∀ t ∈ more, t.IsNamed) (h : more?.map f = some tokens) :
    ∀ t ∈ tokens, t.IsNamed := by
  obtain ⟨more, hsome, rfl⟩ := Option.map_eq_some_iff.1 h
  exact hf more (hmore more hsome)

/-- **The tokens that pieces stand for** name elements plainly if the pieces do. -/
theorem isNamed_of_tokens? {d : Doctype} {available : List Entity} {pieces : List Piece}
    {tokens : List Token} (hpieces : ∀ p ∈ pieces, p.IsNamed)
    (h : d.tokens? available pieces = some tokens) : ∀ t ∈ tokens, t.IsNamed := by
  fun_induction Doctype.tokens? d available pieces generalizing tokens with
  | case1 =>
    cases h
    exact List.forall_mem_nil _
  | case2 _ rest ih => exact ih (List.forall_mem_cons.1 hpieces).2 h
  | case3 _ _ rest ih | case4 _ _ rest ih | case5 _ _ rest ih | case8 _ _ rest ih
  | case9 _ _ rest _ _ ih =>
    refine isNamed_of_map_eq_some (fun more hmore => ?_)
      (fun more => ih (List.forall_mem_cons.1 hpieces).2) h
    exact List.forall_mem_cons.2 ⟨trivial, hmore⟩
  | case7 _ name _ closed rest _ _ ih =>
    obtain ⟨hname, hrest⟩ := List.forall_mem_cons.1 hpieces
    refine isNamed_of_map_eq_some (fun more hmore => ?_) (fun more => ih hrest) h
    refine List.forall_mem_cons.2 ⟨hname, ?_⟩
    split
    · exact List.forall_mem_cons.2 ⟨trivial, hmore⟩
    · exact hmore
  | case12 _ _ rest _ _ _ _ _ inside hinside inner hinner _ ihinner ih =>
    -- the pieces of an entity's text are named as those of any text
    have hinner : ∀ t ∈ inner, t.IsNamed := ihinner (isNamed_of_pieces? hinside) hinner
    refine isNamed_of_map_eq_some (fun more hmore => ?_)
      (fun more => ih (List.forall_mem_cons.1 hpieces).2) h
    exact List.forall_mem_append.2 ⟨hinner, hmore⟩
  | case6 | case10 | case11 | case13 | case14 => cases h

/-! ### Trees -/

/-- Whether a name and attributes can be those of an element in a document. -/
structure IsWellNamed (name : ExpandedName) (attributes : List Attribute) : Prop where
  plain : isPlainName name.localName.toList = true
  proper : ∀ a ∈ attributes, ∀ c ∈ a.name.localName.toList, isNameChar c = true
  distinct : (attributes.map Attribute.name).Nodup

theorem of_prefixed? {scope : Bindings} {p : String} {written : QualifiedName} {name : ExpandedName}
    (h : scope.prefixed? p written = some name) :
    written.isProper = true ∧ name.localName = written.localName := by
  rw [Bindings.prefixed?] at h
  split at h
  · next hproper =>
    obtain ⟨uri, -, rfl⟩ := Option.map_eq_some_iff.1 h
    exact ⟨hproper, rfl⟩
  · cases h

theorem localName_of_element? {scope : Bindings} {written : QualifiedName} {name : ExpandedName}
    (h : scope.element? written = some name) : name.localName = written.localName := by
  rw [Bindings.element?] at h
  split at h
  · exact (of_prefixed? h).2
  · split at h
    · cases h
      rfl
    · cases h

theorem isProper_of_attribute? {scope : Bindings} {written : QualifiedName} {name : ExpandedName}
    (h : scope.attribute? written = some name) :
    ∀ c ∈ name.localName.toList, isNameChar c = true := by
  have hwritten : written.isProper = true ∧ name.localName = written.localName := by
    rw [Bindings.attribute?] at h
    split at h
    · exact of_prefixed? h
    · split at h
      · next hproper =>
        cases h
        exact ⟨hproper, rfl⟩
      · cases h
  rw [hwritten.2]
  exact List.all_eq_true.1 hwritten.1

theorem forall_mem_of_mapM_eq_some {α β : Type} {f : α → Option β} {P : β → Prop}
    (hf : ∀ a b, f a = some b → P b) {as : List α} {bs : List β} (h : as.mapM f = some bs) :
    ∀ b ∈ bs, P b := by
  induction as generalizing bs with
  | nil =>
    cases h
    exact List.forall_mem_nil _
  | cons a as ih =>
    rw [List.mapM_cons] at h
    obtain ⟨b, hb, h⟩ := Option.bind_eq_some_iff.1 h
    obtain ⟨more, hmore, h⟩ := Option.bind_eq_some_iff.1 h
    cases h
    exact List.forall_mem_cons.2 ⟨hf a b hb, ih hmore⟩

/-- The attributes of an element have proper names, each another one. -/
theorem of_attributes? {scope : Bindings} {written : List (QualifiedName × String)}
    {attributes : List Attribute} (h : scope.attributes? written = some attributes) :
    (∀ a ∈ attributes, ∀ c ∈ a.name.localName.toList, isNameChar c = true) ∧
      (attributes.map Attribute.name).Nodup := by
  obtain ⟨named, hnamed, h⟩ := Option.bind_eq_some_iff.1 h
  obtain ⟨_, hguard, h⟩ := Option.bind_eq_some_iff.1 h
  cases h
  have hdistinct : (attributes.map Attribute.name).Nodup := (Option.guard_eq_some' _).1 hguard
  refine ⟨forall_mem_of_mapM_eq_some (fun w a ha => ?_) hnamed, hdistinct⟩
  obtain ⟨name, hname, h⟩ := Option.bind_eq_some_iff.1 ha
  cases h
  exact isProper_of_attribute? hname

theorem isWellNamed_of_open? {scope : Bindings} {written : QualifiedName}
    {attributes : List (QualifiedName × String)} {f : Frame} (hwritten : written.IsPlain)
    (h : Frame.open? scope written attributes = some f) :
    IsWellNamed f.name f.attributes ∧ f.content = [] := by
  obtain ⟨inner, -, h⟩ := Option.bind_eq_some_iff.1 h
  obtain ⟨name, hname, h⟩ := Option.bind_eq_some_iff.1 h
  obtain ⟨named, hnamed, h⟩ := Option.bind_eq_some_iff.1 h
  cases h
  obtain ⟨hproper, hdistinct⟩ := of_attributes? hnamed
  refine ⟨⟨?_, hproper, hdistinct⟩, rfl⟩
  rw [localName_of_element? hname]
  exact hwritten

/-- Whether all elements within one are well named. -/
def Element.IsWellNamedThroughout (root : Element) : Prop :=
  ∀ e, root.Within e → IsWellNamed e.name e.attributes

/-- Whether an element that has begun is well named, and so is everything inside it so far. -/
structure Frame.IsSound (f : Frame) : Prop where
  own : IsWellNamed f.name f.attributes
  inner : ∀ c, .element c ∈ f.content → c.IsWellNamedThroughout

namespace Frame

variable {f : Frame}

theorem isSound_of_open? {scope : Bindings} {written : QualifiedName}
    {attributes : List (QualifiedName × String)} (hwritten : written.IsPlain)
    (h : open? scope written attributes = some f) : f.IsSound := by
  obtain ⟨hown, hcontent⟩ := isWellNamed_of_open? hwritten h
  refine ⟨hown, fun c hc => ?_⟩
  rw [hcontent] at hc
  cases hc

/-- The parts of the content stay when one is added, runs of text apart. -/
theorem of_push (f : Frame) (n : Node) :
    (f.push n).name = f.name ∧ (f.push n).attributes = f.attributes ∧
      ∀ c, .element c ∈ (f.push n).content → .element c ∈ f.content ∨ n = .element c := by
  unfold push
  split
  · next hcontent =>
    refine ⟨rfl, rfl, fun c hc => .inl ?_⟩
    rw [hcontent]
    exact List.mem_cons_of_mem _ ((List.mem_cons.1 hc).resolve_left nofun)
  · refine ⟨rfl, rfl, fun c hc => ?_⟩
    exact (List.mem_cons.1 hc).symm.imp_right Eq.symm

theorem IsSound.push (h : f.IsSound) {n : Node}
    (hn : ∀ c, n = .element c → c.IsWellNamedThroughout) : (f.push n).IsSound := by
  obtain ⟨hname, hattributes, hcontent⟩ := of_push f n
  refine ⟨?_, fun c hc => (hcontent c hc).elim (h.inner c) (hn c)⟩
  rw [hname, hattributes]
  exact h.own

/-- What has ended is well named throughout. -/
theorem IsSound.element (h : f.IsSound) : f.element.IsWellNamedThroughout := by
  intro e he
  rcases Element.within_iff.1 he with rfl | ⟨c, hc, hwithin⟩
  · exact h.own
  · obtain ⟨n, hn, hnode⟩ := List.mem_filterMap.1 hc
    cases n with
    | text run => cases hnode
    | element d =>
      cases hnode
      exact h.inner c (List.mem_reverse.1 hn) e hwithin

end Frame

/-- **The tree that tokens make** is well named throughout, by induction on the tokens: so are
the elements that have begun. -/
theorem isWellNamed_of_elementOf? {frames : List Frame} {tokens : List Token} {root : Element}
    (hframes : ∀ f ∈ frames, f.IsSound) (htokens : ∀ t ∈ tokens, t.IsNamed)
    (h : elementOf? frames tokens = some root) : root.IsWellNamedThroughout := by
  fun_induction elementOf? frames tokens with
  | case1 | case3 | case6 | case8 => cases h
  | case2 name attributes rest ih =>
    obtain ⟨hname, hrest⟩ := List.forall_mem_cons.1 htokens
    obtain ⟨f, hf, h⟩ := Option.bind_eq_some_iff.1 h
    exact ih f (List.forall_mem_singleton.2 (Frame.isSound_of_open? hname hf)) hrest h
  | case4 f frames run rest ih =>
    obtain ⟨hf, hframes⟩ := List.forall_mem_cons.1 hframes
    exact ih (List.forall_mem_cons.2 ⟨hf.push nofun, hframes⟩) (List.forall_mem_cons.1 htokens).2 h
  | case5 f frames name attributes rest ih =>
    obtain ⟨hname, hrest⟩ := List.forall_mem_cons.1 htokens
    obtain ⟨g, hg, h⟩ := Option.bind_eq_some_iff.1 h
    exact ih g (List.forall_mem_cons.2 ⟨Frame.isSound_of_open? hname hg, hframes⟩) hrest h
  | case7 f name rest _ _ =>
    cases h
    exact (hframes f (List.mem_cons_self ..)).element
  | case9 f name rest _ g outer ih =>
    obtain ⟨hf, hothers⟩ := List.forall_mem_cons.1 hframes
    obtain ⟨hg, houter⟩ := List.forall_mem_cons.1 hothers
    refine ih (List.forall_mem_cons.2 ⟨hg.push fun c hc => ?_, houter⟩)
      (List.forall_mem_cons.1 htokens).2 h
    cases hc
    exact hf.element

/-! ### Documents -/

theorem mem_of_mem_splitRoot? {depth : Nat} {pieces inside outside : List Piece}
    (h : splitRoot? depth pieces = some (inside, outside)) : ∀ p ∈ inside, p ∈ pieces := by
  fun_induction splitRoot? depth pieces generalizing inside with
  | case1 | case2 => cases h
  | case3 _ p rest _ =>
    cases h
    exact List.forall_mem_singleton.2 (List.mem_cons_self ..)
  | case4 _ p rest _ _ _ ih =>
    obtain ⟨⟨more, others⟩, hmore, heq⟩ := Option.map_eq_some_iff.1 h
    cases heq
    exact List.forall_mem_cons.2
      ⟨List.mem_cons_self .., fun q hq => List.mem_cons_of_mem p (ih hmore q hq)⟩

theorem gives_prolog_and_pieces (allowed : Nat) :
    (do return (← prolog allowed, ← piece.many) : Scanner Char (Doctype × List Piece)).Gives
      fun read => ∀ p ∈ read.2, p.IsNamed :=
  gives_bind fun _ => gives_piece.many.bind fun _ hpieces => gives_pure hpieces

/-- **All elements of a document are well named.** -/
theorem isWellNamed_of_document? {text : String} {root : Element} (h : document? text = some root) :
    root.IsWellNamedThroughout := by
  obtain ⟨cs, -, h⟩ := Option.bind_eq_some_iff.1 h
  obtain ⟨_, -, h⟩ := Option.bind_eq_some_iff.1 h
  obtain ⟨⟨doctype, pieces⟩, hread, h⟩ := Option.bind_eq_some_iff.1 h
  obtain ⟨⟨inside, outside⟩, hsplit, h⟩ := Option.bind_eq_some_iff.1 h
  obtain ⟨_, -, h⟩ := Option.bind_eq_some_iff.1 h
  obtain ⟨_, -, h⟩ := Option.bind_eq_some_iff.1 h
  obtain ⟨tokens, htokens, h⟩ := Option.bind_eq_some_iff.1 h
  have hpieces : ∀ p ∈ pieces, p.IsNamed :=
    gives_prolog_and_pieces _ _ _ _ (all?_eq_some_iff.1 hread)
  exact isWellNamed_of_elementOf? (List.forall_mem_nil _)
    (isNamed_of_tokens? (fun p hp => hpieces p (mem_of_mem_splitRoot? hsplit p hp)) htokens) h

end GirTypings.Xml
