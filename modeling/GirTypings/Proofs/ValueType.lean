import GirTypings.Proofs.Constructor

/-!
# Types of values

The type of a value is found step by step: from an element to its first child that tells a
type, and on from there as long as that child is an array.  Every element leads somewhere,
for each step goes one level down, and only to one place.  The way there is what is written:
the scalar type at its end, and a pair of brackets for each array on it.

What a callable returns is told by a type too, or by none.  Two scans of the same children
decide this: one asks whether there is a type or an array at all, the other goes to the
first child that tells a type, which can also be a mark of variable arguments.

* `exists_leads`, `Leads.unique`: from each element there is one way;
* `Leads.valueType_eq`: the type at its end;
* `not_void_isInfix_typeSpelling`: no type of a value is made with `void`;
* `type_returnValue_eq_null_iff`: when nothing is returned;
* `typeSpelling_and_printed_return`: all of this for an element.
-/

namespace GirTypings

open Declaration Gir Xml Xml.Element

/-! ### The way to a type -/

/-- Whether an element tells the type of the one around it. -/
def tellsType (c : Element) : Bool :=
  c.kind == "type" || c.kind == "array" || c.kind == "varargs"

/-- The first child that tells the type of an element. -/
def typeChild? (e : Element) : Option Element :=
  e.children.find? tellsType

/-- `Leads e k last`: from `e` the first children that tell a type lead through `k` arrays to
`last`, or to an element without such a child. -/
inductive Leads : Element → Nat → Option Element → Prop where
  | nowhere {e : Element} (h : typeChild? e = none) : Leads e 0 none
  | here {e c : Element} (h : typeChild? e = some c) (hc : c.kind ≠ "array") : Leads e 0 (some c)
  | array {e c : Element} {k : Nat} {last : Option Element} (h : typeChild? e = some c)
      (hc : c.kind = "array") (rest : Leads c k last) : Leads e (k + 1) last

/-- The scalar type that the end of the way tells. -/
def scalarAt (last : Option Element) : Scalar :=
  match last with
  | none => .any
  | some c => if c.kind = "type" then (c.attr? "name").elim .any nativeScalar else .any

/-- The array that the end of the way adds: a mark of variable arguments is one. -/
def arraysAt (last : Option Element) : Nat :=
  if last.any (·.kind == "varargs") then 1 else 0

theorem sizeOf_lt_of_mem_children {e c : Element} (h : c ∈ e.children) : sizeOf c < sizeOf e := by
  obtain ⟨name, attributes, content⟩ := e
  obtain ⟨node, hnode, hc⟩ := List.mem_filterMap.1 h
  have hlt : sizeOf node < sizeOf content := List.sizeOf_lt_of_mem hnode
  cases node with
  | text run => cases hc
  | element inner =>
    cases hc
    simp only [Element.mk.sizeOf_spec, Node.element.sizeOf_spec] at *
    omega

/-- **Every element leads somewhere.** -/
theorem exists_leads (e : Element) : ∃ k last, Leads e k last := by
  cases h : typeChild? e with
  | none => exact ⟨0, none, .nowhere h⟩
  | some c =>
    by_cases hc : c.kind = "array"
    · -- the array is smaller than the element around it
      have hlt : sizeOf c < sizeOf e := sizeOf_lt_of_mem_children (List.mem_of_find?_eq_some h)
      obtain ⟨k, last, hrest⟩ := exists_leads c
      exact ⟨k + 1, last, .array h hc hrest⟩
    · exact ⟨0, some c, .here h hc⟩
termination_by sizeOf e

/-- **An element leads to one place only.** -/
theorem Leads.unique {e : Element} {k k' : Nat} {last last' : Option Element} (h : Leads e k last)
    (h' : Leads e k' last') : k' = k ∧ last' = last := by
  induction h generalizing k' last' with
  | nowhere hchild =>
    cases h' with
    | nowhere => exact ⟨rfl, rfl⟩
    | here hchild' | array hchild' =>
      rw [hchild] at hchild'
      cases hchild'
  | here hchild hc =>
    cases h' with
    | nowhere hchild' =>
      rw [hchild] at hchild'
      cases hchild'
    | here hchild' =>
      rw [hchild] at hchild'
      exact ⟨rfl, hchild'.symm⟩
    | array hchild' hc' =>
      rw [hchild] at hchild'
      cases hchild'
      exact absurd hc' hc
  | array hchild hc _ ih =>
    cases h' with
    | nowhere hchild' =>
      rw [hchild] at hchild'
      cases hchild'
    | here hchild' hc' =>
      rw [hchild] at hchild'
      cases hchild'
      exact absurd hc hc'
    | array hchild' _ hrest' =>
      rw [hchild] at hchild'
      cases hchild'
      obtain ⟨rfl, rfl⟩ := ih hrest'
      exact ⟨rfl, rfl⟩

/-! ### The type at its end -/

/-- The type that a child tells. -/
def typeOfChild (c : Element) : ValueType :=
  if c.kind = "array" then c.valueType.array else ⟨scalarAt (some c), arraysAt (some c)⟩

/-- The type of a value is what the first child that tells a type says. -/
theorem valueType_eq (e : Element) : e.valueType = (typeChild? e).elim .any typeOfChild := by
  obtain ⟨name, attributes, content⟩ := e
  show typeIn content = ((content.filterMap Node.element?).find? tellsType).elim .any typeOfChild
  induction content with
  | nil => rfl
  | cons node rest ih =>
    cases node with
    | text run =>
      rw [typeIn, ih]
      rfl
    | element c =>
      rw [typeIn, List.filterMap_cons_some (show Node.element? (.element c) = some c from rfl)]
      by_cases htype : c.kind = "type"
      · rw [List.find?_cons_of_pos (by simp [tellsType, htype]), if_pos htype]
        cases hname : c.attr? "name" <;>
          simp [typeOfChild, scalarAt, arraysAt, htype, hname, ValueType.any]
      · by_cases harray : c.kind = "array"
        · rw [List.find?_cons_of_pos (by simp [tellsType, harray]), if_neg htype, if_pos harray]
          simp [typeOfChild, harray]
        · by_cases hvarargs : c.kind = "varargs"
          · rw [List.find?_cons_of_pos (by simp [tellsType, hvarargs]), if_neg htype, if_neg harray,
              if_pos hvarargs]
            simp [typeOfChild, scalarAt, arraysAt, hvarargs, ValueType.any, ValueType.array]
          · rw [List.find?_cons_of_neg (by simp [tellsType, htype, harray, hvarargs]), if_neg htype,
              if_neg harray, if_neg hvarargs, ih]

/-- **The type of a value**: the scalar at the end of the way, and an array for each on it. -/
theorem Leads.valueType_eq {e : Element} {k : Nat} {last : Option Element} (h : Leads e k last) :
    e.valueType = ⟨scalarAt last, k + arraysAt last⟩ := by
  induction h with
  | nowhere h =>
    rw [GirTypings.valueType_eq, h]
    rfl
  | here h hc =>
    rw [GirTypings.valueType_eq, h, Option.elim_some, typeOfChild, if_neg hc, Nat.zero_add]
  | array h hc _ ih =>
    rw [GirTypings.valueType_eq, h, Option.elim_some, typeOfChild, if_pos hc, ih, ValueType.array,
      Nat.add_right_comm]

/-! ### How types are written -/

theorem brackets_eq (n : Nat) : ValueType.brackets n = String.join (List.replicate n "[]") := by
  induction n with
  | zero => rfl
  | succ n ih => rw [ValueType.brackets, ih, List.replicate_succ, String.join_cons]

theorem mem_toList_brackets {n : Nat} {c : Char} (h : c ∈ (ValueType.brackets n).toList) :
    c = '[' ∨ c = ']' := by
  induction n with
  | zero => cases h
  | succ n ih =>
    rw [ValueType.brackets, String.toList_append, List.mem_append] at h
    rcases h with h | h
    · simpa using h
    · exact ih h

/-- A character of a written type is one of the scalar type or a bracket. -/
theorem mem_toList_spelling {t : ValueType} {c : Char} (h : c ∈ t.spelling.toList) :
    c ∈ t.scalar.spelling.toList ∨ c = '[' ∨ c = ']' := by
  rw [ValueType.spelling, String.toList_append, List.mem_append] at h
  exact h.imp_right mem_toList_brackets

/-- No type of a value is made with `void`. -/
theorem not_void_isInfix_spelling (t : ValueType) : ¬ "void".toList <:+: t.spelling.toList := by
  intro hvoid
  have hmem : 'v' ∈ t.spelling.toList := hvoid.subset (by decide)
  rcases mem_toList_spelling hmem with hscalar | hbracket
  · revert hscalar
    cases t.scalar <;> decide
  · revert hbracket
    decide

theorem spelling_eq_null_iff {t : ValueType} : t.spelling = "null" ↔ t = ⟨.null, 0⟩ := by
  constructor
  · intro h
    obtain ⟨scalar, rank⟩ := t
    cases rank with
    | zero =>
      have hscalar : scalar.spelling = "null" := by
        rw [← h, ValueType.spelling, ValueType.brackets, String.append_empty]
      cases scalar with
      | null => rfl
      | boolean | number | string | any => exact absurd hscalar (by decide)
    | succ n =>
      -- a bracket is no character of `null`
      have hmem : '[' ∈ (ValueType.spelling ⟨scalar, n + 1⟩).toList := by
        rw [ValueType.spelling, ValueType.brackets, String.toList_append, String.toList_append]
        exact List.mem_append_right _ (List.mem_append_left _ (by decide))
      rw [h] at hmem
      exact absurd hmem (by decide)
  · rintro rfl
    decide

theorem Leads.typeSpelling_eq {e : Element} {k : Nat} {last : Option Element} (h : Leads e k last) :
    e.typeSpelling =
      (scalarAt last).spelling ++ String.join (List.replicate (k + arraysAt last) "[]") := by
  rw [typeSpelling, h.valueType_eq, ValueType.spelling, brackets_eq]

theorem not_void_isInfix_typeSpelling (e : Element) : ¬ "void".toList <:+: e.typeSpelling.toList :=
  not_void_isInfix_spelling _

/-! ### What is returned -/

/-- The type of a value is written `null` if a native type without values tells it. -/
theorem typeSpelling_eq_null_iff {r : Element} :
    r.typeSpelling = "null" ↔ ∃ t native, typeChild? r = some t ∧ t.kind = "type" ∧
      t.attr? "name" = some native ∧ nativeScalar native = .null := by
  rw [typeSpelling, spelling_eq_null_iff, valueType_eq]
  constructor
  · intro h
    cases hchild : typeChild? r with
    | none =>
      rw [hchild] at h
      cases h
    | some t =>
      rw [hchild, Option.elim_some, typeOfChild] at h
      by_cases harray : t.kind = "array"
      · -- an array has a rank
        rw [if_pos harray, ValueType.array] at h
        exact absurd (congrArg ValueType.rank h) (Nat.succ_ne_zero _)
      rw [if_neg harray, scalarAt] at h
      by_cases htype : t.kind = "type"
      · cases hname : t.attr? "name" with
        | none => simp [htype, hname] at h
        | some native =>
          rw [if_pos htype, hname] at h
          exact ⟨t, native, rfl, htype, hname, congrArg ValueType.scalar h⟩
      · rw [if_neg htype] at h
        cases h
  · rintro ⟨t, native, hchild, htype, hname, hnative⟩
    rw [hchild, Option.elim_some, typeOfChild]
    simp [scalarAt, arraysAt, htype, hname, hnative]

/-- Whether a callable returns nothing: it has no return value, or one without a type and an
array, or one that a native type without values tells first. -/
def ReturnsNothing (e : Element) : Prop :=
  e.child? "return-value" = none ∨ ∃ r, e.child? "return-value" = some r ∧
    ((∀ c ∈ r.children, c.kind ≠ "type" ∧ c.kind ≠ "array") ∨
      ∃ t native, typeChild? r = some t ∧ t.kind = "type" ∧ t.attr? "name" = some native ∧
        nativeScalar native = .null)

/-- What a callable returns has the type of its return value, or `null` for nothing. -/
theorem type_returnValue_of_child {e r : Element} (h : e.child? "return-value" = some r) :
    e.returnValue.type =
      if (∀ c ∈ r.children, c.kind ≠ "type" ∧ c.kind ≠ "array") then "null" else r.typeSpelling := by
  rw [returnValue, h]
  by_cases hnone : ∀ c ∈ r.children, c.kind ≠ "type" ∧ c.kind ≠ "array"
  · rw [if_pos hnone]
    have hany : (r.children.any fun c => c.kind == "type" || c.kind == "array") = false := by
      rw [List.any_eq_false]
      intro c hc
      simp [hnone c hc]
    simp only [hany]
    rfl
  · rw [if_neg hnone]
    have hany : (r.children.any fun c => c.kind == "type" || c.kind == "array") = true := by
      by_contra hall
      refine hnone fun c hc => ?_
      have hc := List.any_eq_false.1 (Bool.eq_false_iff.2 hall) c hc
      rw [Bool.or_eq_true, not_or, beq_iff_eq, beq_iff_eq] at hc
      exact hc
    simp only [hany]
    rfl

/-- **When nothing is returned.** -/
theorem type_returnValue_eq_null_iff {e : Element} :
    e.returnValue.type = "null" ↔ ReturnsNothing e := by
  rw [ReturnsNothing]
  cases hchild : e.child? "return-value" with
  | none =>
    refine iff_of_true ?_ (.inl rfl)
    rw [returnValue, hchild]
    rfl
  | some r =>
    rw [type_returnValue_of_child hchild]
    by_cases hnone : ∀ c ∈ r.children, c.kind ≠ "type" ∧ c.kind ≠ "array"
    · rw [if_pos hnone]
      exact iff_of_true rfl (.inr ⟨r, rfl, .inl hnone⟩)
    · rw [if_neg hnone, typeSpelling_eq_null_iff]
      constructor
      · intro h
        exact .inr ⟨r, rfl, .inr h⟩
      · rintro (h | ⟨r', hr', h⟩)
        · cases h
        · cases hr'
          exact h.resolve_left hnone

/-- What is returned is nothing, or a type of a value that is not written `null`. -/
theorem returnType_cases (e : Element) :
    (ReturnsNothing e ∧ returnType e.returnValue = "void") ∨
      (¬ ReturnsNothing e ∧ ∃ r : Element, returnType e.returnValue = r.typeSpelling ∧
        r.typeSpelling ≠ "null") := by
  by_cases hnothing : ReturnsNothing e
  · left
    have hvoid : e.returnValue.isVoid = true := decide_eq_true (type_returnValue_eq_null_iff.2 hnothing)
    exact ⟨hnothing, if_pos hvoid⟩
  · right
    have htype : e.returnValue.type ≠ "null" := fun h => hnothing (type_returnValue_eq_null_iff.1 h)
    have hreturned : returnType e.returnValue = e.returnValue.type :=
      if_neg fun hvoid => htype (of_decide_eq_true hvoid)
    cases hchild : e.child? "return-value" with
    | none => exact absurd (.inl hchild) hnothing
    | some r =>
      have hspelling : e.returnValue.type = r.typeSpelling := by
        rw [type_returnValue_of_child hchild, if_neg]
        exact fun hnone => hnothing (.inr ⟨r, hchild, .inl hnone⟩)
      exact ⟨hnothing, r, hreturned.trans hspelling, hspelling ▸ htype⟩

/-- **What is printed is `void` exactly if nothing is returned**, never `null`, and `void` is
part of no other type. -/
theorem returnType_spec (e : Element) :
    (returnType e.returnValue = "void" ↔ ReturnsNothing e) ∧
      returnType e.returnValue ≠ "null" ∧
      ("void".toList <:+: (returnType e.returnValue).toList → returnType e.returnValue = "void") := by
  rcases returnType_cases e with ⟨hnothing, hvoid⟩ | ⟨hsome, r, hreturned, hnull⟩
  · rw [hvoid]
    exact ⟨iff_of_true rfl hnothing, by decide, fun _ => rfl⟩
  · rw [hreturned]
    have hnovoid := not_void_isInfix_typeSpelling r
    refine ⟨iff_of_false (fun h => ?_) hsome, hnull, fun h => absurd h hnovoid⟩
    rw [h] at hnovoid
    exact hnovoid List.infix_rfl

/-- The type of a parameter is never made with `void`. -/
theorem not_void_isInfix_of_mem_parameters {e : Element} {p : Parameter} (hp : p ∈ e.parameters) :
    ¬ "void".toList <:+: p.type.toList := by
  obtain ⟨m, -, hread⟩ := List.mem_filterMap.1 ((firstBy_sublist _).subset hp)
  rw [toOption_parameter] at hread
  obtain ⟨name, -, rfl⟩ := Option.map_eq_some_iff.1 hread
  split
  · exact not_void_isInfix_spelling ValueType.any.array
  · exact not_void_isInfix_typeSpelling m

/-- A callable that is not printed as a constructor says on its line what it returns. -/
theorem signature?_of_ne (camel : Bool) (c : Callable) (depth : Int)
    (h : printedName camel c.name ≠ constructorName) :
    (c.layout camel depth).signature? = some (indentLine depth (c.annotated camel)) := by
  rw [Callable.layout, Layout.signature?_append_line, Callable.declaration_eq_annotated_iff.2 h]

/-- Its comment says it too. -/
theorem remarks_of_ne (camel : Bool) (c : Callable) (h : printedName camel c.name ≠ constructorName) :
    c.remarks camel = docLines c.docstring ++ c.signature.parameters.map Callable.parameterRemark ++
      [Callable.returnRemark c.signature.returns] := by
  rw [Callable.remarks, Callable.isConstructor, decide_eq_false h, if_neg Bool.false_ne_true]

theorem spelling_mem (scalar : Scalar) :
    scalar.spelling ∈ ["boolean", "number", "string", "null", "any"] := by
  cases scalar <;> decide

/-- **The types that are written, and when `void` is.**  An element leads through some arrays
to one place, and its type is written as the scalar type told there with a pair of brackets
for each array.  `void` is part of no such type, and of no type of a parameter.  The line of
a callable that is not printed as a constructor ends in what it returns, and so does its
comment: `void` exactly if nothing is returned, never `null`, and otherwise nothing made
with `void`. -/
theorem typeSpelling_and_printed_return (e : Element) :
    (∃ k last, Leads e k last ∧ (∀ k' last', Leads e k' last' → k' = k ∧ last' = last) ∧
      (scalarAt last).spelling ∈ ["boolean", "number", "string", "null", "any"] ∧
      e.typeSpelling =
        (scalarAt last).spelling ++ String.join (List.replicate (k + arraysAt last) "[]")) ∧
    ¬ "void".toList <:+: e.typeSpelling.toList ∧
    (∀ p ∈ e.parameters, ¬ "void".toList <:+: p.type.toList) ∧
    ∀ (camel : Bool) (modifiers : List String) (depth : Int) (name : String),
      e.attr? "name" = some name → printedName camel name ≠ constructorName →
      ∃ c returned, e.callable modifiers = .ok c ∧
        (c.layout camel depth).signature? =
          some (indentLine depth (Text.joinWith " " (modifiers ++ [printedName camel name ++ "(" ++
            parameterList e.parameters ++ "): " ++ returned ++ ";"]))) ∧
        c.remarks camel = docLines e.docstring ++ e.parameters.map Callable.parameterRemark ++
          ["@returns \x7b" ++ returned ++ "\x7d" ++ Callable.remark e.returnValue.doc] ∧
        (returned = "void" ↔ ReturnsNothing e) ∧ returned ≠ "null" ∧
        ("void".toList <:+: returned.toList → returned = "void") := by
  obtain ⟨k, last, hleads⟩ := exists_leads e
  refine ⟨⟨k, last, hleads, fun _ _ h => hleads.unique h, spelling_mem _, hleads.typeSpelling_eq⟩,
    not_void_isInfix_typeSpelling e, fun _ hp => not_void_isInfix_of_mem_parameters hp, ?_⟩
  intro camel modifiers depth name hname hprinted
  let c : Callable := ⟨name, e.signature, e.docstring, modifiers⟩
  have hread : e.callable modifiers = .ok c := by
    rw [callable, require, hname]
    rfl
  exact ⟨c, returnType e.returnValue, hread, signature?_of_ne camel c depth hprinted,
    remarks_of_ne camel c hprinted, returnType_spec e⟩

/-- A function with a return value of some content. -/
def functionReturning (name : String) (content : List Element) : Element :=
  coreElement "function" (some name) [coreElement "return-value" none content]

/-- A function whose return value is told by a native type without values. -/
def clearing : Element :=
  functionReturning "clear_all" [coreElement "type" (some "none") []]

/-- It is printed to return `void`. -/
theorem printed_return_of_clearing :
    clearing.attr? "name" = some "clear_all" ∧ printedName true "clear_all" ≠ constructorName ∧
    ReturnsNothing clearing ∧
    ∃ c, clearing.callable ["static"] = .ok c ∧
      (c.layout true memberDepth).signature? = some "    static clearAll(): void;" := by
  have hname : clearing.attr? "name" = some "clear_all" := rfl
  have hprinted : printedName true "clear_all" ≠ constructorName := by decide +kernel
  have hnothing : ReturnsNothing clearing :=
    .inr ⟨_, rfl, .inr ⟨_, "none", rfl, rfl, rfl, by decide +kernel⟩⟩
  obtain ⟨-, -, -, hprint⟩ := typeSpelling_and_printed_return clearing
  obtain ⟨c, returned, hread, hline, -, hvoid, -⟩ :=
    hprint true ["static"] memberDepth "clear_all" hname hprinted
  refine ⟨hname, hprinted, hnothing, c, hread, hline.trans ?_⟩
  rw [hvoid.2 hnothing]
  decide +kernel

/-- An array of what has no values is written with `null`, not with `void`. -/
example : returnType (functionReturning "list" [coreElement "array" none
    [coreElement "type" (some "none") []]]).returnValue = "null[]" := by
  decide +kernel

end GirTypings
