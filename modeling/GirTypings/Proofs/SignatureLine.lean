import GirTypings.Proofs.Row
import GirTypings.Proofs.ValueType

/-!
# What a line says of a callable

Without its comment a callable is one line, and the line says all that is declared: the
printed name, the names and types of the parameters, and, unless the callable makes new
objects, the type of what is returned.  The line can be taken apart again because each mark
that separates two parts is missing from the part in front of it: names hold no bracket and
no colon, types hold no comma, and neither holds the bracket that closes the list.

* `append_inj_of_not_mem`: what a mark separates can be told apart;
* `commaList_inj`: so can the items of a list with commas;
* `parameterList_inj`, `returnType_inj`: parameters and return types are read back;
* `bare_line_eq_iff`: the line of a callable determines its signature.
-/

namespace GirTypings

open Declaration Naming Text

/-! ### Separators -/

namespace Text

/-- The first cut is at the first mark. -/
theorem cutAt_front {c : Char} {cs : List Char} (h : c ∉ cs) (ds : List Char) :
    cutAt (· == c) (cs ++ c :: ds) = cs :: cutAt (· == c) ds :=
  calc cutAt (· == c) (cs ++ c :: ds)
      = cutAt (· == c) cs ++ cutAt (· == c) ds := cutAt_append_cons (by simp) cs ds
    _ = cs :: cutAt (· == c) ds := by rw [cutAt_of_not_mem h]; rfl

/-- A mark that neither front holds ends both. -/
theorem append_cons_inj {c : Char} {cs cs' ds ds' : List Char} (h : c ∉ cs) (h' : c ∉ cs') :
    cs ++ c :: ds = cs' ++ c :: ds' ↔ cs = cs' ∧ ds = ds' := by
  constructor
  · intro heq
    have hfirst := congrArg (cutAt (· == c)) heq
    rw [cutAt_front h, cutAt_front h'] at hfirst
    obtain rfl : cs = cs' := (List.cons.inj hfirst).1
    exact ⟨rfl, (List.cons.inj (List.append_cancel_left heq)).2⟩
  · rintro ⟨rfl, rfl⟩
    rfl

/-- **What a mark separates can be told apart**, if the part in front does not hold the
character that the mark starts with. -/
theorem append_inj_of_not_mem {sep t t' u u' : String} {c : Char} (hsep : sep.toList.head? = some c)
    (h : c ∉ t.toList) (h' : c ∉ t'.toList) :
    t ++ (sep ++ u) = t' ++ (sep ++ u') ↔ t = t' ∧ u = u' := by
  obtain ⟨more, hmore⟩ := List.head?_eq_some_iff.1 hsep
  have hchars : ∀ front back : String,
      (front ++ (sep ++ back)).toList = front.toList ++ c :: (more ++ back.toList) := by
    intro front back
    rw [String.toList_append, String.toList_append, hmore, List.cons_append]
  rw [← String.toList_inj, hchars, hchars, append_cons_inj h h', List.append_cancel_left_eq,
    String.toList_inj, String.toList_inj]

/-- Whether a text can be an item of a list with commas. -/
def IsItem (t : String) : Prop :=
  t ≠ "" ∧ ',' ∉ t.toList

/-- The commas of a list are where its items meet. -/
theorem cutAt_commaList {t : String} {rest : List String} (h : ∀ u ∈ t :: rest, IsItem u) :
    cutAt (· == ',') (commaList (t :: rest)).toList =
      t.toList :: rest.map fun u => ' ' :: u.toList := by
  induction rest generalizing t with
  | nil => exact cutAt_of_not_mem (h t (List.mem_cons_self ..)).2
  | cons u rest ih =>
    obtain ⟨ht, hrest⟩ := List.forall_mem_cons.1 h
    have hchars : (commaList (t :: u :: rest)).toList =
        t.toList ++ ',' :: ' ' :: (commaList (u :: rest)).toList :=
      toList_joinWith_cons ", " t (List.cons_ne_nil u rest)
    rw [hchars, cutAt_front ht.2, cutAt, if_neg (by decide), ih hrest]
    rfl

theorem commaList_ne_empty {t : String} (ht : IsItem t) (rest : List String) :
    commaList (t :: rest) ≠ "" := by
  intro h
  by_cases hrest : rest = []
  · subst hrest
    exact ht.1 h
  · rw [commaList, joinWith_cons _ _ hrest] at h
    exact ht.1 (String.append_eq_empty_iff.1 h).1

/-- **The items of a list with commas are read back.** -/
theorem commaList_inj {ts us : List String} (ht : ∀ t ∈ ts, IsItem t) (hu : ∀ u ∈ us, IsItem u) :
    commaList ts = commaList us ↔ ts = us := by
  refine ⟨fun h => ?_, fun h => h ▸ rfl⟩
  cases ts with
  | nil =>
    cases us with
    | nil => rfl
    | cons u us => exact absurd h.symm (commaList_ne_empty (hu u (List.mem_cons_self ..)) us)
  | cons t ts =>
    cases us with
    | nil => exact absurd h (commaList_ne_empty (ht t (List.mem_cons_self ..)) ts)
    | cons u us =>
      have hcut := congrArg (fun t => cutAt (· == ',') t.toList) h
      obtain ⟨hfirst, hrest⟩ := List.cons.inj
        ((cutAt_commaList ht).symm.trans (hcut.trans (cutAt_commaList hu)))
      have hspaced : Function.Injective fun v : String => ' ' :: v.toList :=
        fun v w hvw => String.toList_inj.1 (List.cons.inj hvw).2
      rw [String.toList_inj.1 hfirst, hspaced.list_map hrest]

end Text

/-! ### Parameters and return types -/

namespace Declaration

/-- The characters that separate the parts of a list of parameters. -/
def listMarks : List Char := [':', ',', ')']

/-- Whether a parameter has a legal name, or the one that stands for all further arguments,
and the type of a value. -/
structure IsSpelled (p : Parameter) : Prop where
  name : isReserved p.name = false ∨ p.name = "...other"
  type : ∃ t : ValueType, p.type = t.spelling

variable {p q : Parameter} {c : Char}

theorem eq_of_mem_listMarks (hc : c ∈ listMarks) : c = ':' ∨ c = ',' ∨ c = ')' := by
  simpa [listMarks] using hc

theorem not_mem_name (h : IsSpelled p) (hc : c ∈ listMarks) : c ∉ p.name.toList := by
  obtain ⟨hchar, hnewline, hrest⟩ :
      isIdentifierChar c = false ∧ c ≠ '\n' ∧ c ∉ "...other".toList := by
    rcases eq_of_mem_listMarks hc with rfl | rfl | rfl <;> decide
  intro hmem
  rcases h.name with hlegal | hname
  · rcases isIdentifierChar_of_mem hlegal c hmem with h | h
    · rw [h] at hchar
      cases hchar
    · exact hnewline h
  · exact hrest (hname ▸ hmem)

theorem not_mem_spelling (t : ValueType) (hc : c ∈ listMarks) : c ∉ t.spelling.toList := by
  obtain ⟨hscalar, hopen, hclose⟩ : c ∉ t.scalar.spelling.toList ∧ c ≠ '[' ∧ c ≠ ']' := by
    rcases eq_of_mem_listMarks hc with rfl | rfl | rfl <;> cases t.scalar <;> decide
  intro hmem
  rcases mem_toList_spelling hmem with h | h | h
  · exact hscalar h
  · exact hopen h
  · exact hclose h

theorem not_mem_type (h : IsSpelled p) (hc : c ∈ listMarks) : c ∉ p.type.toList := by
  obtain ⟨t, ht⟩ := h.type
  exact ht ▸ not_mem_spelling t hc

theorem not_mem_parameterText (h : IsSpelled p) (hc : c ∈ listMarks) (hcolon : c ≠ ':') :
    c ∉ (parameterText p).toList := by
  have hmark : c ∉ ": ".toList := by
    have hblank : c ≠ ' ' := by rcases eq_of_mem_listMarks hc with rfl | rfl | rfl <;> decide
    simp [hcolon, hblank]
  rw [parameterText, String.toList_append, String.toList_append, List.mem_append, List.mem_append,
    not_or, not_or]
  exact ⟨⟨not_mem_name h hc, hmark⟩, not_mem_type h hc⟩

theorem isItem_parameterText (h : IsSpelled p) : IsItem (parameterText p) := by
  refine ⟨fun hempty => ?_, not_mem_parameterText h (by decide) (by decide)⟩
  exact absurd (String.append_eq_empty_iff.1 (String.append_eq_empty_iff.1 hempty).1).2 (by decide)

theorem parameterText_inj (hp : IsSpelled p) (hq : IsSpelled q) :
    parameterText p = parameterText q ↔ p.name = q.name ∧ p.type = q.type := by
  rw [parameterText, parameterText, String.append_assoc, String.append_assoc]
  exact append_inj_of_not_mem rfl (not_mem_name hp (by decide)) (not_mem_name hq (by decide))

/-- The name and the type of a parameter. -/
def nameAndType (p : Parameter) : String × String :=
  (p.name, p.type)

theorem map_parameterText_inj {ps qs : List Parameter} (hp : ∀ p ∈ ps, IsSpelled p)
    (hq : ∀ q ∈ qs, IsSpelled q) :
    ps.map parameterText = qs.map parameterText ↔ ps.map nameAndType = qs.map nameAndType := by
  induction ps generalizing qs with
  | nil => cases qs <;> simp
  | cons p ps ih =>
    cases qs with
    | nil => simp
    | cons q qs =>
      obtain ⟨hp, hps⟩ := List.forall_mem_cons.1 hp
      obtain ⟨hq, hqs⟩ := List.forall_mem_cons.1 hq
      rw [List.map_cons, List.map_cons, List.map_cons, List.map_cons, List.cons.injEq,
        List.cons.injEq, parameterText_inj hp hq, ih hps hqs, nameAndType, nameAndType,
        Prod.mk.injEq]

/-- **Names and types of parameters are read back.** -/
theorem parameterList_inj {ps qs : List Parameter} (hp : ∀ p ∈ ps, IsSpelled p)
    (hq : ∀ q ∈ qs, IsSpelled q) :
    parameterList ps = parameterList qs ↔ ps.map nameAndType = qs.map nameAndType := by
  have hitems : ∀ {ps : List Parameter}, (∀ p ∈ ps, IsSpelled p) →
      ∀ t ∈ ps.map parameterText, IsItem t :=
    fun hps => List.forall_mem_map.2 fun p hmem => isItem_parameterText (hps p hmem)
  exact (commaList_inj (hitems hp) (hitems hq)).trans (map_parameterText_inj hp hq)

theorem not_mem_parameterList {ps : List Parameter} (h : ∀ p ∈ ps, IsSpelled p) :
    ')' ∉ (parameterList ps).toList :=
  not_mem_joinWith (by decide) <| List.forall_mem_map.2 fun p hp =>
    not_mem_parameterText (h p hp) (by decide) (by decide)

/-- **The type of what is returned is read back**: `void` is written for one type only, and is
no type itself. -/
theorem returnType_inj {r s : ReturnValue} (hr : ∃ t : ValueType, r.type = t.spelling)
    (hs : ∃ t : ValueType, s.type = t.spelling) :
    returnType r = returnType s ↔ r.type = s.type := by
  have hvoid : ∀ {r : ReturnValue}, (∃ t : ValueType, r.type = t.spelling) → r.type ≠ "void" := by
    rintro r ⟨t, ht⟩ h
    have hspelling : t.spelling = "void" := ht.symm.trans h
    exact not_void_isInfix_spelling t (hspelling ▸ List.infix_rfl)
  constructor
  · intro h
    rw [returnType, returnType] at h
    split at h
    · next hr' =>
      split at h
      · next hs' => exact (of_decide_eq_true hr').trans (of_decide_eq_true hs').symm
      · exact absurd h.symm (hvoid hs)
    · split at h
      · exact absurd h (hvoid hr)
      · exact h
  · intro h
    rw [returnType, returnType, ReturnValue.isVoid, ReturnValue.isVoid, h]

/-! ### Lines -/

namespace Callable

variable {camel : Bool} {c d : Callable}

/-- Whether a callable has a name of identifier characters, parameters that can be told apart
from what stands around them, and the type of a value for what it returns. -/
structure IsSpelled (c : Callable) : Prop where
  name : IsIdentifierText c.name
  parameters : ∀ p ∈ c.signature.parameters, Declaration.IsSpelled p
  returns : ∃ t : ValueType, c.signature.returns.type = t.spelling

/-- What stands behind the parameters. -/
def ending (camel : Bool) (c : Callable) : String :=
  (if c.isConstructor camel then "" else ": " ++ returnType c.signature.returns) ++ ";"

theorem head_eq (camel : Bool) (c : Callable) :
    c.head camel = printedName camel c.name ++
      ("(" ++ (parameterList c.signature.parameters ++ (")" ++ c.ending camel))) := by
  rw [head, ending]
  simp only [String.append_assoc]

theorem not_mem_printedName (h : c.IsSpelled) : '(' ∉ (printedName camel c.name).toList :=
  fun hmem => absurd (isIdentifierText_printedName camel h.name '(' hmem) (by decide)

/-- What is returned is told exactly if the callable is not printed as a constructor. -/
theorem ending_inj (hname : printedName camel c.name = printedName camel d.name) (hc : c.IsSpelled)
    (hd : d.IsSpelled) :
    c.ending camel = d.ending camel ↔
      (printedName camel c.name ≠ constructorName →
        c.signature.returns.type = d.signature.returns.type) := by
  rw [ending, ending, isConstructor, isConstructor, ← hname, String.append_left_inj]
  by_cases hconstructor : printedName camel c.name = constructorName
  · simp [hconstructor]
  · rw [decide_eq_false hconstructor, if_neg Bool.false_ne_true, if_neg Bool.false_ne_true,
      String.append_right_inj, returnType_inj hc.returns hd.returns]
    exact ⟨fun h _ => h, fun h => h hconstructor⟩

/-- The bare form of a callable is one line. -/
theorem text_bare (camel : Bool) (depth : Int) (c : Callable) :
    (c.layout camel depth).text false = indentLine depth (c.declaration camel) := by
  rw [Layout.text, layout, Layout.lines_append, Layout.lines_comment_bare, Layout.lines_line]
  rfl

/-- Lines at one depth are told apart as they are without it. -/
theorem indentLine_inj {depth : Int} {t u : String} (ht : t ≠ "") (hu : u ≠ "") :
    indentLine depth t = indentLine depth u ↔ t = u := by
  rw [indentLine, indentLine, if_neg ht, if_neg hu, String.append_right_inj]

end Callable

end Declaration

open Callable

/-- **A bare line determines the signature.**  If two callables stand at one depth behind the
same modifiers, and their parts are spelled as they should be, then they have the same line
exactly if their printed names are equal, the lists of names and types of their parameters
are equal, and, unless the name is that of a constructor, the types of what they return are
equal. -/
theorem bare_line_eq_iff (camel : Bool) (depth : Int) {c d : Callable}
    (hmodifiers : c.modifiers = d.modifiers) (hc : c.IsSpelled) (hd : d.IsSpelled) :
    (c.layout camel depth).text false = (d.layout camel depth).text false ↔
      printedName camel c.name = printedName camel d.name ∧
      c.signature.parameters.map nameAndType = d.signature.parameters.map nameAndType ∧
      (printedName camel c.name ≠ constructorName →
        c.signature.returns.type = d.signature.returns.type) := by
  rw [text_bare, text_bare, indentLine_inj declaration_ne_empty declaration_ne_empty, declaration,
    declaration, hmodifiers, joinWith_concat_inj, head_eq, head_eq,
    append_inj_of_not_mem rfl (not_mem_printedName hc) (not_mem_printedName hd),
    append_inj_of_not_mem rfl (not_mem_parameterList hc.parameters)
      (not_mem_parameterList hd.parameters),
    parameterList_inj hc.parameters hd.parameters]
  exact and_congr_right fun hname => and_congr_right fun _ => ending_inj hname hc hd

/-- A static function with a parameter and others to follow. -/
def sumOf (name docstring : String) (doc : Option String) : Callable :=
  ⟨name, ⟨[⟨"first", "number[]", doc⟩, ⟨"...other", "any[]", none⟩], ⟨"null", doc⟩⟩, docstring,
    ["static"]⟩

theorem isSpelled_sumOf {name : String} (h : IsIdentifierText name) (docstring : String)
    (doc : Option String) : (sumOf name docstring doc).IsSpelled where
  name := h
  parameters := by
    intro p hp
    rcases List.mem_cons.1 hp with rfl | hp
    · exact ⟨.inl (show isReserved "first" = false by decide +kernel), ⟨.number, 1⟩, rfl⟩
    · obtain rfl := List.mem_singleton.1 hp
      exact ⟨.inr rfl, ⟨.any, 1⟩, rfl⟩
  returns := ⟨⟨.null, 0⟩, rfl⟩

/-- Two names that are printed alike, with and without documentation. -/
theorem bare_line_of_sumOf :
    (sumOf "sum_of" "Adds." (some "A list.")).modifiers = (sumOf "sumOf" "" none).modifiers ∧
    (sumOf "sum_of" "Adds." (some "A list.")).IsSpelled ∧ (sumOf "sumOf" "" none).IsSpelled ∧
    ((sumOf "sum_of" "Adds." (some "A list.")).layout true 1).text false =
      "    static sumOf(first: number[], ...other: any[]): void;" ∧
    printedName true "sum_of" = printedName true "sumOf" := by
  have hmodifiers : (sumOf "sum_of" "Adds." (some "A list.")).modifiers =
      (sumOf "sumOf" "" none).modifiers := rfl
  have hc : (sumOf "sum_of" "Adds." (some "A list.")).IsSpelled := isSpelled_sumOf (by decide) _ _
  have hd : (sumOf "sumOf" "" none).IsSpelled := isSpelled_sumOf (by decide) _ _
  have hline : ((sumOf "sum_of" "Adds." (some "A list.")).layout true 1).text false =
      ((sumOf "sumOf" "" none).layout true 1).text false := by decide +kernel
  exact ⟨hmodifiers, hc, hd, by decide +kernel,
    ((bare_line_eq_iff true 1 hmodifiers hc hd).1 hline).1⟩

end GirTypings
