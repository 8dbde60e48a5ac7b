import Mathlib.Data.List.Find
import Mathlib.Data.List.TakeDrop
import Mathlib.Data.List.TakeWhile
import GirTypings.Gir.Element
import GirTypings.Proofs.SignatureLine
import GirTypings.Proofs.WellNamed

/-!
# Short names

The short name of an attribute is taken back to its key by `attributeKey`: a prefix that
stands for a namespace is replaced by it, anything else is kept.  The two translations undo
each other on the attributes of a document that are in no namespace or in one of the two with
a prefix.  Different attributes then have different short names, and an attribute is found by
its short name among all of them.

* `key_inj`: names with different keys;
* `attributeKey_shortName`, `attributeKey_cases`: the key that a short name means;
* `key_eq_attributeKey_iff`: the two translations agree;
* `shortAttributes_eq`, `attr?_eq_lookup`: the attributes under their short names.
-/

namespace GirTypings

open Xml

namespace Gir

/-! ### Keys -/

/-- Whether a namespace has a prefix in short names. -/
def IsPrefixed (uri : String) : Prop :=
  uri = cNamespace ∨ uri = glibNamespace

theorem IsPrefixed.brace_not_mem {uri : String} (h : IsPrefixed uri) : '\x7d' ∉ uri.toList := by
  rcases h with rfl | rfl <;> decide +kernel

theorem toList_key_some (uri l : String) :
    (ExpandedName.key ⟨some uri, l⟩).toList = '\x7b' :: (uri.toList ++ '\x7d' :: l.toList) := by
  simp only [ExpandedName.key, String.toList_append, List.append_assoc]
  rfl

/-- Names in namespaces whose identifiers hold no brace have different keys. -/
theorem key_inj {uri uri' l l' : String} (huri : '\x7d' ∉ uri.toList) (huri' : '\x7d' ∉ uri'.toList) :
    ExpandedName.key ⟨some uri, l⟩ = ExpandedName.key ⟨some uri', l'⟩ ↔ uri = uri' ∧ l = l' := by
  rw [← String.toList_inj, toList_key_some, toList_key_some, List.cons_inj_right,
    Text.append_cons_inj huri huri', String.toList_inj, String.toList_inj]

/-! ### What short names mean -/

/-- The prefixes that stand for namespaces are those that short names put in front. -/
theorem namespaceOfPrefix?_eq_some_iff {p : List Char} {uri : String} :
    namespaceOfPrefix? p = some uri ↔
      IsPrefixed uri ∧ (shortPrefix (some uri)).toList = p ++ [':'] := by
  have hc : (shortPrefix (some cNamespace)).toList = ['c'] ++ [':'] := by decide +kernel
  have hglib : (shortPrefix (some glibNamespace)).toList = ['g', 'l', 'i', 'b'] ++ [':'] := by
    decide +kernel
  constructor
  · intro h
    rw [namespaceOfPrefix?] at h
    split at h
    · next hp =>
      cases h
      exact ⟨.inl rfl, hp ▸ hc⟩
    · split at h
      · next hp =>
        cases h
        exact ⟨.inr rfl, hp ▸ hglib⟩
      · cases h
  · rintro ⟨rfl | rfl, hp⟩
    · rw [hc, List.append_left_inj] at hp
      exact if_pos hp.symm
    · rw [hglib, List.append_left_inj] at hp
      rw [← hp]
      rfl

theorem colon_not_mem_of_namespaceOfPrefix? {p : List Char} {uri : String}
    (h : namespaceOfPrefix? p = some uri) : ':' ∉ p := by
  rw [namespaceOfPrefix?] at h
  split at h
  · next hp =>
    rw [hp]
    decide
  · split at h
    · next hp =>
      rw [hp]
      decide
    · cases h

theorem toList_shortName {p : List Char} {uri : String} (h : namespaceOfPrefix? p = some uri)
    (l : String) : (shortName ⟨some uri, l⟩).toList = p ++ ':' :: l.toList := by
  rw [shortName, String.toList_append, (namespaceOfPrefix?_eq_some_iff.1 h).2, List.append_assoc,
    List.singleton_append]

theorem IsPrefixed.exists_prefix {uri : String} (h : IsPrefixed uri) :
    ∃ p, namespaceOfPrefix? p = some uri := by
  rcases h with rfl | rfl
  · exact ⟨['c'], rfl⟩
  · exact ⟨['g', 'l', 'i', 'b'], rfl⟩

/-- A short name with a prefix means the key of the name that it is short for. -/
theorem attributeKey_of_isPrefixed {uri : String} (h : IsPrefixed uri) (l : String) :
    attributeKey (shortName ⟨some uri, l⟩) = ExpandedName.key ⟨some uri, l⟩ := by
  obtain ⟨p, hp⟩ := h.exists_prefix
  have hspan : (p ++ ':' :: l.toList).span (· != ':') = (p, ':' :: l.toList) := by
    have hrun : ∀ c ∈ p, (c != ':') = true := fun c hc =>
      bne_iff_ne.2 fun heq => colon_not_mem_of_namespaceOfPrefix? hp (heq ▸ hc)
    have hcolon : Text.EndsRun (· != ':') (':' :: l.toList) := Text.endsRun_cons rfl
    rw [List.span_eq_takeWhile_dropWhile, Text.takeWhile_run hrun hcolon,
      Text.dropWhile_run hrun hcolon]
  simp only [attributeKey, toList_shortName hp, hspan, hp, String.ofList_toList]

/-- Any other text means itself. -/
theorem attributeKey_cases (short : String) :
    attributeKey short = short ∨
      ∃ uri l, IsPrefixed uri ∧ short = shortName ⟨some uri, l⟩ := by
  simp only [attributeKey, List.span_eq_takeWhile_dropWhile]
  split
  · next p colon rest heq =>
    split
    · next uri hp =>
      obtain ⟨huri, hprefix⟩ := namespaceOfPrefix?_eq_some_iff.1 hp
      refine .inr ⟨uri, .ofList rest, huri, ?_⟩
      obtain ⟨rfl, hrest⟩ := Prod.mk.inj heq
      have hcolon : short.toList.dropWhile (· != ':') = ':' :: rest := by
        have hnot := List.head?_dropWhile_not (· != ':') short.toList
        rw [hrest] at hnot ⊢
        rw [bne_eq_false_iff_eq.1 hnot]
      rw [← String.toList_inj, shortName, String.toList_append, hprefix, String.toList_ofList,
        List.append_assoc, List.singleton_append, ← hcolon, List.takeWhile_append_dropWhile]
    · exact .inl rfl
  · exact .inl rfl

/-! ### Names of attributes -/

/-- Whether a name can be that of an attribute with a short name of its own: it is in no
namespace or in one with a prefix, and its local name is proper. -/
structure IsShortenable (n : ExpandedName) : Prop where
  space : n.space = none ∨ ∃ uri, n.space = some uri ∧ IsPrefixed uri
  proper : ∀ c ∈ n.localName.toList, isNameChar c = true

theorem isShortenable_of_space {n : ExpandedName}
    (hproper : ∀ c ∈ n.localName.toList, isNameChar c = true)
    (h : n.space ∈ [none, some cNamespace, some glibNamespace]) : IsShortenable n := by
  refine ⟨?_, hproper⟩
  simp only [List.mem_cons, List.not_mem_nil, or_false] at h
  rcases h with h | h | h
  · exact .inl h
  · exact .inr ⟨_, h, .inl rfl⟩
  · exact .inr ⟨_, h, .inr rfl⟩

namespace IsShortenable

variable {n n' : ExpandedName}

theorem not_mem (h : IsShortenable n) {c : Char} (hc : isNameChar c = false) :
    c ∉ n.localName.toList := fun hmem => by
  rw [h.proper c hmem] at hc
  cases hc

/-- **A short name means the key** of the name that it is short for. -/
theorem attributeKey_shortName (h : IsShortenable n) : attributeKey (shortName n) = n.key := by
  obtain ⟨space, l⟩ := n
  rcases h.space with rfl | ⟨uri, rfl, huri⟩
  · have hshort : shortName ⟨none, l⟩ = l := String.empty_append
    rw [hshort]
    rcases attributeKey_cases l with hkey | ⟨uri, l', huri, rfl⟩
    · exact hkey
    · -- a prefix ends with a colon, which a proper name does not hold
      obtain ⟨p, hp⟩ := huri.exists_prefix
      refine absurd ?_ (h.not_mem isNameChar_colon)
      rw [toList_shortName hp]
      exact List.mem_append_right _ (List.mem_cons_self ..)
  · exact attributeKey_of_isPrefixed huri l

theorem eq_of_key_eq_key_some (h : IsShortenable n) {uri l : String} (huri : IsPrefixed uri)
    (hkey : n.key = ExpandedName.key ⟨some uri, l⟩) : n = ⟨some uri, l⟩ := by
  obtain ⟨space, l'⟩ := n
  rcases h.space with rfl | ⟨uri', rfl, huri'⟩
  · -- the key of a name in a namespace starts with a brace
    have hl : l' = ExpandedName.key ⟨some uri, l⟩ := hkey
    have hbrace : '\x7b' ∉ l'.toList := h.not_mem (by decide)
    rw [hl, toList_key_some] at hbrace
    exact absurd (List.mem_cons_self ..) hbrace
  · obtain ⟨rfl, rfl⟩ := (key_inj huri'.brace_not_mem huri.brace_not_mem).1 hkey
    rfl

/-- Names with the same key are the same. -/
theorem eq_of_key_eq (h : IsShortenable n) (h' : IsShortenable n') (hkey : n.key = n'.key) :
    n = n' := by
  obtain ⟨space', l'⟩ := n'
  rcases h'.space with rfl | ⟨uri', rfl, huri'⟩
  · obtain ⟨space, l⟩ := n
    rcases h.space with rfl | ⟨uri, rfl, huri⟩
    · exact congrArg (ExpandedName.mk none) hkey
    · exact (h'.eq_of_key_eq_key_some huri hkey.symm).symm
  · exact h.eq_of_key_eq_key_some huri' hkey

/-- Names with the same short name are the same. -/
theorem eq_of_shortName_eq (h : IsShortenable n) (h' : IsShortenable n')
    (hshort : shortName n = shortName n') : n = n' :=
  h.eq_of_key_eq h' <| by rw [← h.attributeKey_shortName, ← h'.attributeKey_shortName, hshort]

/-- **The two translations agree**: an attribute has the key that a text means exactly if the
text is its short name, unless the text is a key itself. -/
theorem key_eq_attributeKey_iff (h : IsShortenable n) {short : String}
    (hshort : short.toList.head? ≠ some '\x7b') :
    n.key = attributeKey short ↔ shortName n = short := by
  constructor
  · intro hkey
    rcases attributeKey_cases short with hself | ⟨uri, l, huri, rfl⟩
    · rw [hself] at hkey
      obtain ⟨space, l⟩ := n
      rcases h.space with rfl | ⟨uri, rfl, huri⟩
      · rw [← hkey]
        exact String.empty_append
      · refine absurd ?_ hshort
        rw [← hkey, toList_key_some]
        rfl
    · rw [attributeKey_of_isPrefixed huri] at hkey
      rw [h.eq_of_key_eq_key_some huri hkey]
  · rintro rfl
    exact h.attributeKey_shortName.symm

end IsShortenable

/-! ### Attributes -/

theorem lookup_map_eq_map_find? {α β : Type} (f : α → String) (g : α → β) (key : String)
    (items : List α) : (items.map fun a => (f a, g a)).lookup key =
      (items.find? (f · == key)).map g := by
  induction items with
  | nil => rfl
  | cons a items ih =>
    rw [List.map_cons, List.lookup_cons, List.find?_cons, ih]
    by_cases h : f a = key
    · subst h
      rw [beq_self_eq_true]
      rfl
    · rw [beq_false_of_ne h, beq_false_of_ne (Ne.symm h)]

section

variable {e : Element} (hnames : ∀ a ∈ e.attributes, IsShortenable a.name)
  (hdistinct : (e.attributes.map Attribute.name).Nodup)

include hnames hdistinct

/-- The short names of attributes are different. -/
theorem nodup_shortNames : (e.attributes.map fun a => shortName a.name).Nodup := by
  rw [List.Nodup, List.pairwise_map] at hdistinct ⊢
  exact hdistinct.imp_of_mem fun ha hb hne heq =>
    hne ((hnames _ ha).eq_of_shortName_eq (hnames _ hb) heq)

/-- **The attributes under their short names** are the attributes, one by one. -/
theorem shortAttributes_eq :
    e.shortAttributes = e.attributes.map fun a => (shortName a.name, a.value) := by
  refine Table.ofEntries_of_nodup ?_
  rw [List.map_map]
  exact nodup_shortNames hnames hdistinct

/-- **An attribute is found by its short name** among all of them. -/
theorem attr?_eq_lookup {short : String} (hshort : short.toList.head? ≠ some '\x7b') :
    e.attr? short = e.shortAttributes.lookup short := by
  rw [shortAttributes_eq hnames hdistinct,
    lookup_map_eq_map_find? (fun a : Attribute => shortName a.name) Attribute.value,
    Element.attr?, Element.value?]
  refine congrArg (Option.map Attribute.value) (List.find?_congr fun a ha => ?_)
  rw [Bool.eq_iff_iff, beq_iff_eq, beq_iff_eq]
  exact (hnames a ha).key_eq_attributeKey_iff hshort

end

end Gir

end GirTypings
