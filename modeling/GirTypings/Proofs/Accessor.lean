import GirTypings.Proofs.Reading
import GirTypings.Proofs.ShortName
import GirTypings.Proofs.Skeleton
import GirTypings.Proofs.TagSelector

/-!
# Accessors of an element

The children of an element are found by a tag in two ways: a selector leads to those with the
tag behind the core namespace, and others are told by their short names.  For the elements of a
document the two agree, as do the two ways to an attribute.

A tag without a blank is one name, and a child with a prefix in its short name has another
namespace.  Names in documents hold no blank.  So of a tag with one there is no child, and the
selector that the tag is cut into must not lead anywhere either.

* `read?_of_not_blank`, `read?_of_blank`: the selector that a tag writes;
* `IsChildName.key_eq_coreKey_iff`: the key of a tag is that of the children of its kind;
* `find?_eq_filter_key`: the children with the key are what the selector leads to;
* `accessors_agree`: the accessors agree.
-/

namespace GirTypings

open Xml Xml.Selector Text

namespace Gir

/-! ### Blanks in names -/

/-- The numbers of the blanks. -/
def blankNumbers : List Nat :=
  List.range' 9 5 ++ List.range' 28 5 ++ [0x85, 0xA0, 0x1680] ++ List.range' 0x2000 11 ++
    [0x2028, 0x2029, 0x202F, 0x205F, 0x3000]

theorem toNat_mem_blankNumbers {c : Char} (h : isBlank c = true) : c.toNat ∈ blankNumbers := by
  simp only [isBlank, Bool.or_eq_true, Bool.and_eq_true, decide_eq_true_eq, beq_iff_eq] at h
  simp only [blankNumbers, List.mem_append, List.mem_range'_1, List.mem_cons, List.not_mem_nil,
    or_false]
  omega

/-- No blank is a character of names. -/
theorem isNameChar_of_isBlank {c : Char} (h : isBlank c = true) : isNameChar c = false := by
  have hall : blankNumbers.all (fun n => !isNameChar (Char.ofNat n)) = true := by decide +kernel
  have hc := List.all_eq_true.1 hall c.toNat (toNat_mem_blankNumbers h)
  rwa [Char.ofNat_toNat, Bool.not_eq_true'] at hc

/-! ### Tags behind the core namespace -/

/-- Whether a text is a tag: a name without a colon, whatever characters beyond ASCII a name may
hold. -/
structure IsTag (t : String) : Prop where
  ne_empty : t ≠ ""
  isTagChar : ∀ c ∈ t.toList, isTagChar c = true

theorem IsTag.toList_ne_nil {t : String} (h : IsTag t) : t.toList ≠ [] :=
  fun hnil => h.ne_empty (String.toList_eq_nil_iff.1 hnil)

theorem isTagChar_of_isNameChar {c : Char} (h : isNameChar c = true) :
    Selector.isTagChar c = true := by
  by_cases hascii : c.toNat < 128
  · have halphanum : c.isAlphanum = (c.isAlpha || c.isDigit) := rfl
    simp only [isNameChar, isNameStart, if_pos hascii, Bool.or_eq_true] at h
    simp only [Selector.isTagChar, halphanum, Bool.or_eq_true]
    grind
  · rw [Selector.isTagChar, decide_eq_true (Nat.le_of_not_lt hascii)]
    rfl

/-- The names without a colon that documents use are tags. -/
theorem isTag_of_isPlainName {t : String} (h : isPlainName t.toList = true) : IsTag t := by
  refine ⟨?_, fun c hc => isTagChar_of_isNameChar (forall_isNameChar_of_isPlainName h c hc)⟩
  rintro rfl
  cases h

/-- A tag behind the core namespace. -/
def coreKey (t : String) : String :=
  ExpandedName.key ⟨some coreNamespace, t⟩

theorem find?_eq_map (e : Element) (t : String) : e.find? t = (read? (coreKey t)).map (·.select e) :=
  rfl

theorem getLast?_coreKey {t : String} (h : IsTag t) :
    ∀ c ∈ (coreKey t).toList.getLast?, Selector.isTagChar c = true := by
  intro c hc
  have hchars : (coreKey t).toList = ('\x7b' :: (coreNamespace.toList ++ ['\x7d'])) ++ t.toList := by
    rw [coreKey, toList_key_some, List.cons_append, List.append_assoc, List.singleton_append]
  rw [hchars, List.getLast?_append_of_ne_nil _ h.toList_ne_nil] at hc
  exact h.isTagChar c (List.mem_of_getLast? hc)

theorem ofText_coreKey {t : String} (h : IsTag t) :
    NameTest.ofText (coreKey t) = .key (coreKey t) := by
  have hchars : (coreKey t).toList =
      '\x7b' :: 'h' :: (coreNamespace.toList.tail ++ '\x7d' :: t.toList) := by
    rw [coreKey, toList_key_some]
    rfl
  have hstar : ¬ ['\x7d', '*'].isSuffixOf (coreKey t).toList = true := by
    intro hsuffix
    obtain ⟨front, hfront⟩ := List.isSuffixOf_iff_suffix.1 hsuffix
    have hlast := getLast?_coreKey h '*' (by rw [← hfront]; simp)
    exact absurd hlast (by decide)
  rw [hchars] at hstar
  simp only [NameTest.ofText, hchars]
  exact if_neg hstar

theorem getLast?_coreKey_ne {t : String} (h : IsTag t) : (coreKey t).toList.getLast? ≠ some '/' :=
  fun hslash => absurd (getLast?_coreKey h '/' hslash) (by decide)

theorem coreNamespace_ne_nil : coreNamespace.toList ≠ [] := by decide +kernel

theorem brace_not_mem_coreNamespace : '\x7d' ∉ coreNamespace.toList := by decide +kernel

/-- What of a tag is read together with the namespace: all in front of the first blank. -/
theorem reads_lexeme_coreKey {t : String} {run rest : List Char} (h : IsTag t)
    (ht : t.toList = run ++ rest) (hne : run ≠ []) (hrun : ∀ c ∈ run, isBlank c = false)
    (hrest : EndsRun isPathNameChar rest) :
    lexeme.Reads (coreKey t).toList (some (.name (coreKey (.ofList run)))) rest := by
  have hpath : ∀ c ∈ run, isPathNameChar c = true := fun c hc =>
    isPathNameChar_of_isTagChar (h.isTagChar c (ht ▸ List.mem_append_left rest hc)) (hrun c hc)
  have hread :=
    reads_lexeme_qualified coreNamespace_ne_nil brace_not_mem_coreNamespace hne hpath hrest
  have hname : String.ofList ('\x7b' :: (coreNamespace.toList ++ '\x7d' :: run)) =
      coreKey (.ofList run) := by
    rw [← String.toList_inj, coreKey, toList_key_some, String.toList_ofList, String.toList_ofList]
  rwa [hname, ← ht, ← toList_key_some] at hread

theorem isKnown_coreKey (t : String) : (Lexeme.name (coreKey t)).isKnown = true := by
  rw [Lexeme.isKnown, coreKey, toList_key_some]
  rfl

/-- **A tag without a blank** is one name. -/
theorem read?_of_not_blank {t : String} (h : IsTag t) (hblank : ∀ c ∈ t.toList, isBlank c = false) :
    read? (coreKey t) = some [.child (.key (coreKey t))] := by
  have hread := reads_lexeme_coreKey h (List.append_nil _).symm h.toList_ne_nil hblank endsRun_nil
  rw [String.ofList_toList] at hread
  have hlexemes : lexeme.many.Reads (coreKey t).toList ([Lexeme.name (coreKey t)].map some) [] :=
    Eager.reads_many_cons hread (Eager.reads_many_nil rfl)
  rw [← ofText_coreKey h]
  exact read?_eq_some (getLast?_coreKey_ne h) hlexemes
    (List.forall_mem_singleton.2 (isKnown_coreKey t)) (Walks.nil.steps_eq (coreKey t))

/-- What a tag is cut into behind its first blank, and how it leads on. -/
theorem exists_reads_blanks {c : Char} {rest : List Char}
    (htag : ∀ d ∈ c :: rest, Selector.isTagChar d = true) (hc : isBlank c = true) :
    ∃ (ls : List Lexeme) (ss : Selector),
      lexeme.many.Reads (c :: rest) ((.name "" :: ls).map some) [] ∧ (∀ l ∈ ls, l.isKnown = true) ∧
        Walks (.name "" :: ls) (.child (.key "") :: ss) := by
  have hblanks := reads_lexeme_blanks (s := rest)
    (not_mem_lexemeMarks (htag c (List.mem_cons_self ..))) hc
  obtain ⟨ls, hmany, hls⟩ := exists_reads_turns fun d hd =>
    htag d ((List.dropWhile_suffix isBlank).subset hd)
  obtain ⟨ss, hss⟩ := exists_walks hls
  exact ⟨ls, ss, Eager.reads_many_cons hblanks hmany, fun l hl => (hls l hl).isKnown, .name "" hss⟩

/-- **A tag that is cut at a blank** leads on from children with an empty name. -/
theorem read?_of_blank_inside {t : String} {run rest : List Char} {c : Char} (h : IsTag t)
    (ht : t.toList = run ++ c :: rest) (hne : run ≠ []) (hrun : ∀ c ∈ run, isBlank c = false)
    (hc : isBlank c = true) :
    ∃ first ss, read? (coreKey t) = some (.child first :: .child (.key "") :: ss) := by
  obtain ⟨ls, ss, hmany, hknown, hwalks⟩ := exists_reads_blanks
    (fun d hd => h.isTagChar d (ht ▸ List.mem_append_right run hd)) hc
  have hlexemes : lexeme.many.Reads (coreKey t).toList
      ((Lexeme.name (coreKey (.ofList run)) :: .name "" :: ls).map some) [] :=
    Eager.reads_many_cons
      (reads_lexeme_coreKey h ht hne hrun (endsRun_cons (isPathNameChar_of_isBlank hc))) hmany
  refine ⟨_, ss, read?_eq_some (getLast?_coreKey_ne h) hlexemes ?_ (hwalks.steps_eq _)⟩
  exact List.forall_mem_cons.2 ⟨isKnown_coreKey _, List.forall_mem_cons.2 ⟨rfl, hknown⟩⟩

/-- What the braces with the core namespace are cut into if they are not read as one. -/
def coreLexemes : List Lexeme :=
  [.name "\x7bhttp:", .slashes, .name "www.gtk.org", .slash, .name "introspection", .slash,
    .name "core", .slash, .name "1.0\x7d"]

/-- In front of a blank the braces are cut at the slashes of the namespace. -/
theorem reads_coreLexemes {c : Char} {rest : List Char} {ls : List Lexeme} (hc : isBlank c = true)
    (hmany : lexeme.many.Reads (c :: rest) (ls.map some) []) :
    lexeme.many.Reads ('\x7b' :: (coreNamespace.toList ++ '\x7d' :: c :: rest))
      ((coreLexemes ++ ls).map some) [] := by
  have hnone := refuses_qualified_of_blank (s := rest) brace_not_mem_coreNamespace hc
  have hchars : coreNamespace.toList ++ '\x7d' :: c :: rest = "http:".toList ++ '/' :: '/' ::
      'w' :: ("ww.gtk.org".toList ++ '/' :: 'i' :: ("ntrospection".toList ++ '/' ::
        'c' :: ("ore".toList ++ '/' :: '1' :: (".0\x7d".toList ++ c :: rest)))) := rfl
  rw [hchars] at hnone ⊢
  have hnumber : lexeme.Reads ('1' :: (".0\x7d".toList ++ c :: rest)) (some (.name "1.0\x7d"))
      (c :: rest) :=
    reads_lexeme_name (by decide) (by decide) (List.all_eq_true.1 (by decide))
      (endsRun_cons (isPathNameChar_of_isBlank hc))
  have hpath := reads_many_name_slash 'w' "ww.gtk.org".toList (by decide) (by decide) (by decide)
    (by decide) (reads_many_name_slash 'i' "ntrospection".toList (by decide) (by decide) (by decide)
      (by decide) (reads_many_name_slash 'c' "ore".toList (by decide) (by decide) (by decide)
        (by decide) (Eager.reads_many_cons hnumber hmany)))
  have hfirst := reads_lexeme_brace "http:".toList hnone (by decide) (endsRun_cons rfl)
  exact Eager.reads_many_cons hfirst (Eager.reads_many_cons (reads_lexeme_slashes _) hpath)

/-- **A tag that starts with a blank** leads on from what stands in front of the first slash of
the namespace. -/
theorem read?_of_blank_first {t : String} {rest : List Char} {c : Char} (h : IsTag t)
    (ht : t.toList = c :: rest) (hc : isBlank c = true) :
    ∃ ss, read? (coreKey t) = some (.child (.key "\x7bhttp:") :: ss) := by
  obtain ⟨ls, ss, hmany, hknown, hwalks⟩ :=
    exists_reads_blanks (fun d hd => h.isTagChar d (ht ▸ hd)) hc
  have hlexemes := reads_coreLexemes hc hmany
  rw [← ht, ← toList_key_some] at hlexemes
  have hsteps := (Walks.slashes "www.gtk.org"
    (.slash "introspection" (.slash "core" (.slash "1.0\x7d" hwalks)))).steps_eq "\x7bhttp:"
  refine ⟨_, read?_eq_some (getLast?_coreKey_ne h) hlexemes (fun l hl => ?_) hsteps⟩
  have hcore : coreLexemes.all Lexeme.isKnown = true := by decide +kernel
  rcases List.mem_append.1 hl with hl | hl
  · exact List.all_eq_true.1 hcore l hl
  · rcases List.mem_cons.1 hl with rfl | hl
    · rfl
    · exact hknown l hl

/-- **A tag with a blank** leads on from children without a closed namespace, or to children of
children with an empty name. -/
theorem read?_of_blank {t : String} (h : IsTag t) {c : Char} (hmem : c ∈ t.toList)
    (hc : isBlank c = true) :
    (∃ ss, read? (coreKey t) = some (.child (.key "\x7bhttp:") :: ss)) ∨
      ∃ first ss, read? (coreKey t) = some (.child first :: .child (.key "") :: ss) := by
  obtain ⟨d, hfirst⟩ := Option.isSome_iff_exists.1 (List.find?_isSome.2 ⟨c, hmem, hc⟩)
  obtain ⟨hd, run, rest, ht, hrun⟩ := List.find?_eq_some_iff_append.1 hfirst
  have hclear : ∀ a ∈ run, isBlank a = false := fun a ha => by simpa using hrun a ha
  rcases List.eq_nil_or_concat' run with rfl | ⟨front, a, rfl⟩
  · exact .inl (read?_of_blank_first h ht hd)
  · exact .inr (read?_of_blank_inside h ht (by simp) hclear hd)

/-! ### Names of children -/

/-- Whether a name can be that of a child that is found by its tag. -/
structure IsChildName (n : ExpandedName) : Prop where
  space : ∃ uri, n.space = some uri ∧ (uri = coreNamespace ∨ IsPrefixed uri)
  plain : isPlainName n.localName.toList = true

theorem isChildName_of_space {n : ExpandedName} (hplain : isPlainName n.localName.toList = true)
    (h : n.space ∈ [some coreNamespace, some cNamespace, some glibNamespace]) : IsChildName n := by
  refine ⟨?_, hplain⟩
  simp only [List.mem_cons, List.not_mem_nil, or_false] at h
  rcases h with h | h | h
  · exact ⟨_, h, .inl rfl⟩
  · exact ⟨_, h, .inr (.inl rfl)⟩
  · exact ⟨_, h, .inr (.inr rfl)⟩

/-- **A child has the key of a tag** exactly if the tag is its short name. -/
theorem IsChildName.key_eq_coreKey_iff {n : ExpandedName} (h : IsChildName n) {t : String}
    (ht : IsTag t) : n.key = coreKey t ↔ shortName n = t := by
  obtain ⟨space, l⟩ := n
  obtain ⟨uri, rfl, rfl | huri⟩ := h.space
  · have hshort : shortName ⟨some coreNamespace, l⟩ = l :=
      Element.kind_of_name (e := .mk ⟨some coreNamespace, l⟩ [] []) rfl
    rw [hshort]
    exact (key_inj brace_not_mem_coreNamespace brace_not_mem_coreNamespace).trans (and_iff_right rfl)
  · -- the short name has a colon behind its prefix, and a tag has none
    have hother : uri ≠ coreNamespace := by rcases huri with rfl | rfl <;> decide +kernel
    refine iff_of_false (fun hkey => hother ?_) (fun hshort => ?_)
    · exact ((key_inj huri.brace_not_mem brace_not_mem_coreNamespace).1 hkey).1
    · obtain ⟨p, hp⟩ := huri.exists_prefix
      have hcolon : ':' ∈ t.toList := by
        rw [← hshort, toList_shortName hp]
        exact List.mem_append_right p (List.mem_cons_self ..)
      exact absurd (ht.isTagChar ':' hcolon) (by decide)

/-- A child of a kind with a blank in it would have one in its name. -/
theorem IsChildName.key_ne_coreKey {n : ExpandedName} (h : IsChildName n) {t : String} {c : Char}
    (hmem : c ∈ t.toList) (hc : isBlank c = true) : n.key ≠ coreKey t := by
  obtain ⟨space, l⟩ := n
  obtain ⟨uri, rfl, huri⟩ := h.space
  have hbrace : '\x7d' ∉ uri.toList := huri.elim (· ▸ brace_not_mem_coreNamespace) (·.brace_not_mem)
  intro hkey
  obtain ⟨-, rfl⟩ := (key_inj hbrace brace_not_mem_coreNamespace).1 hkey
  have hname := forall_isNameChar_of_isPlainName h.plain c hmem
  rw [isNameChar_of_isBlank hc] at hname
  cases hname

/-- A namespace is closed by a brace. -/
theorem IsChildName.key_ne_of_not_mem {n : ExpandedName} (h : IsChildName n) {k : String}
    (hk : '\x7d' ∉ k.toList) : n.key ≠ k := by
  obtain ⟨space, l⟩ := n
  obtain ⟨uri, rfl, -⟩ := h.space
  rintro rfl
  rw [toList_key_some] at hk
  exact hk (List.mem_cons_of_mem _ (List.mem_append_right _ (List.mem_cons_self ..)))

theorem key_ne_empty {n : ExpandedName} (h : isPlainName n.localName.toList = true) : n.key ≠ "" := by
  obtain ⟨space | uri, l⟩ := n
  · rintro rfl
    cases h
  · intro hkey
    have hchars := toList_key_some uri l
    rw [hkey] at hchars
    cases hchars

/-! ### Accessors -/

/-- **What a tag leads to** are the children with its key. -/
theorem find?_eq_filter_key {e : Element} (hchildren : ∀ c ∈ e.children, IsChildName c.name)
    (hplain : ∀ c ∈ e.children, ∀ d ∈ c.children, isPlainName d.name.localName.toList = true)
    {t : String} (ht : IsTag t) : e.find? t = some (e.children.filter (·.name.key == coreKey t)) := by
  by_cases hblank : ∀ c ∈ t.toList, isBlank c = false
  · rw [find?_eq_map, read?_of_not_blank ht hblank, Option.map_some, Selector.select_child]
    rfl
  · -- no child has a blank in its name, and the tag is cut there and leads nowhere
    simp only [not_forall, Bool.not_eq_false] at hblank
    obtain ⟨c, hmem, hc⟩ := hblank
    have hnone : e.children.filter (·.name.key == coreKey t) = [] :=
      List.filter_eq_nil_iff.2 fun d hd hkey =>
        (hchildren d hd).key_ne_coreKey hmem hc (beq_iff_eq.1 hkey)
    rw [find?_eq_map, hnone]
    obtain ⟨ss, hread⟩ | ⟨first, ss, hread⟩ := read?_of_blank ht hmem hc
    · rw [hread, Option.map_some, Selector.select_eq_nil]
      exact fun d hd => beq_false_of_ne ((hchildren d hd).key_ne_of_not_mem (by decide))
    · rw [hread, Option.map_some, Selector.select_second_eq_nil]
      exact fun d hd d' hd' => beq_false_of_ne (key_ne_empty (hplain d hd d' hd'))

/-- **The accessors of an element agree.**  The attributes of an element of a document have an
entry each under their short names, and an attribute is found there exactly as it is found in the
element; the children found by a tag are those of that kind, and the first child of a kind is the
first of them. -/
theorem accessors_agree {text : String} {root e : Element} (hdocument : document? text = some root)
    (he : root.Within e)
    (hattributes : ∀ a ∈ e.attributes, a.name.space ∈ [none, some cNamespace, some glibNamespace])
    (hchildren : ∀ c ∈ e.children,
      c.name.space ∈ [some coreNamespace, some cNamespace, some glibNamespace]) :
    (e.shortAttributes = e.attributes.map (fun a => (shortName a.name, a.value)) ∧
      (e.shortAttributes.map Prod.fst).Nodup ∧
      ∀ short : String, short.toList.head? ≠ some '\x7b' →
        e.attr? short = e.shortAttributes.lookup short) ∧
    ∀ t : String, IsTag t →
      e.find? t = some (e.children.filter (·.kind == t)) ∧
        e.child? t = (e.children.filter (·.kind == t)).head? := by
  have hnamed := isWellNamed_of_document? hdocument
  have hdistinct := (hnamed e he).distinct
  have hshortenable : ∀ a ∈ e.attributes, IsShortenable a.name := fun a ha =>
    isShortenable_of_space ((hnamed e he).proper a ha) (hattributes a ha)
  have hchild : ∀ c ∈ e.children, IsChildName c.name := fun c hc =>
    isChildName_of_space (hnamed c (he.child hc)).plain (hchildren c hc)
  have hplain : ∀ c ∈ e.children, ∀ d ∈ c.children, isPlainName d.name.localName.toList = true :=
    fun c hc d hd => (hnamed d ((he.child hc).child hd)).plain
  refine ⟨⟨shortAttributes_eq hshortenable hdistinct, ?_, fun short =>
    attr?_eq_lookup hshortenable hdistinct⟩, fun t ht => ⟨?_, (List.head?_filter ..).symm⟩⟩
  · rw [shortAttributes_eq hshortenable hdistinct, List.map_map]
    exact nodup_shortNames hshortenable hdistinct
  · have hkinds : ∀ c ∈ e.children, (c.name.key == coreKey t) = (c.kind == t) := fun c hc => by
      rw [Bool.eq_iff_iff, beq_iff_eq, beq_iff_eq]
      exact (hchild c hc).key_eq_coreKey_iff ht
    rw [find?_eq_filter_key hchild hplain ht, List.filter_congr hkinds]

/-! ### A class in a document -/

/-- The characters of a class with names of all three namespaces. -/
def buttonChars : List Char :=
  "<class xmlns='".toList ++ coreNamespace.toList ++ "' xmlns:c='".toList ++ cNamespace.toList ++
    "' xmlns:glib='".toList ++ glibNamespace.toList ++
    "' name='Button' c:type='GtkButton' glib:get-type='gtk_button_get_type'>".toList ++
    "<method/><glib:signal/><method name='click'/></class>".toList

/-- The pieces of the class. -/
def buttonPieces : List Piece :=
  [.opens ⟨none, "class"⟩
      [(⟨none, "xmlns"⟩, coreNamespace.toList), (⟨some "xmlns", "c"⟩, cNamespace.toList),
        (⟨some "xmlns", "glib"⟩, glibNamespace.toList), (⟨none, "name"⟩, "Button".toList),
        (⟨some "c", "type"⟩, "GtkButton".toList),
        (⟨some "glib", "get-type"⟩, "gtk_button_get_type".toList)] false,
    .opens ⟨none, "method"⟩ [] true, .opens ⟨some "glib", "signal"⟩ [] true,
    .opens ⟨none, "method"⟩ [(⟨none, "name"⟩, "click".toList)] true, .closes ⟨none, "class"⟩]

/-- The class. -/
def buttonClass : Element :=
  .mk ⟨some coreNamespace, "class"⟩
    [⟨⟨none, "name"⟩, "Button"⟩, ⟨⟨some cNamespace, "type"⟩, "GtkButton"⟩,
      ⟨⟨some glibNamespace, "get-type"⟩, "gtk_button_get_type"⟩]
    [.element (coreElement "method" none []), .element (.mk ⟨some glibNamespace, "signal"⟩ [] []),
      .element (coreElement "method" (some "click") [])]

/-- The tokens of the class. -/
def buttonTokens : List Token :=
  [.opens ⟨none, "class"⟩
      [(⟨none, "xmlns"⟩, coreNamespace), (⟨some "xmlns", "c"⟩, cNamespace),
        (⟨some "xmlns", "glib"⟩, glibNamespace), (⟨none, "name"⟩, "Button"),
        (⟨some "c", "type"⟩, "GtkButton"), (⟨some "glib", "get-type"⟩, "gtk_button_get_type")],
    .opens ⟨none, "method"⟩ [], .closes ⟨none, "method"⟩, .opens ⟨some "glib", "signal"⟩ [],
    .closes ⟨some "glib", "signal"⟩, .opens ⟨none, "method"⟩ [(⟨none, "name"⟩, "click")],
    .closes ⟨none, "method"⟩, .closes ⟨none, "class"⟩]

theorem document?_button : document? (.ofList buttonChars) = some buttonClass := by
  have hstart : ['<', 'c'] <+: buttonChars := by decide
  have hlayout : layout? buttonChars =
      some (⟨8388324, false, false, true, [], []⟩, buttonPieces, []) := by
    decide +kernel
  have htokens : Doctype.tokens? ⟨8388324, false, false, true, [], []⟩ [] buttonPieces =
      some buttonTokens := by
    cbv
  rw [document?_of_layout? hstart (by decide) hlayout, rootOf?_of_tokens? rfl rfl htokens]
  rfl

/-- The methods of the class are found, the signal between them is not, and neither is the type
that is asked for without its prefix. -/
theorem accessors_of_button :
    buttonClass.find? "method" =
        some [coreElement "method" none [], coreElement "method" (some "click") []] ∧
      buttonClass.child? "method" = some (coreElement "method" none []) ∧
      buttonClass.find? "signal" = some [] ∧
      buttonClass.attr? "glib:get-type" = some "gtk_button_get_type" ∧
      buttonClass.attr? "get-type" = none := by
  obtain ⟨⟨hentries, -, hlookup⟩, hchildren⟩ := accessors_agree document?_button .root
    (by decide +kernel) (by decide +kernel)
  have hmethod := hchildren "method" (isTag_of_isPlainName (by decide))
  have hsignal := hchildren "signal" (isTag_of_isPlainName (by decide))
  refine ⟨hmethod.1, hmethod.2, hsignal.1, (hlookup _ (by decide)).trans ?_,
    (hlookup _ (by decide)).trans ?_⟩
  · rw [hentries]
    decide +kernel
  · rw [hentries]
    decide +kernel

end Gir

end GirTypings
