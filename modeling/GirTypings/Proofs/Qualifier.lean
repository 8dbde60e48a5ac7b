import GirTypings.NativeType
import GirTypings.Proofs.Trimming

/-!
# Qualified native types

A native type may stand between blanks and behind one `const` with a space.  The qualifier
is looked for once the blanks are gone, and what is behind it is trimmed again; if nothing
is behind it, the space is gone as well, and what is left is the word alone, which no type
has for its name.

* `dropConst_of_unqualified`: a name without the qualifier is kept;
* `dropConst_trimChars_qualified`: what is left of a qualified name;
* `nativeScalar_ignores_blanks_and_qualifier`: blanks and a qualifier do not change what a type
  stands for.
-/

namespace GirTypings

open Text

/-- The characters of the qualifier, with the space behind it. -/
def qualifier : List Char :=
  "const ".toList

/-- What a trimmed name without a qualifier stands for. -/
def scalarNamed (name : List Char) : Scalar :=
  (nativeTypes.lookup (.ofList name)).getD .any

theorem nativeScalar_eq_scalarNamed (t : String) :
    nativeScalar t = scalarNamed (dropConst (trimChars t.toList)) := rfl

/-! ### The qualifier -/

theorem dropConst_qualifier_append (rest : List Char) :
    dropConst (qualifier ++ rest) = trimChars rest := rfl

/-- A name without the qualifier is kept. -/
theorem dropConst_of_unqualified {name : List Char} (h : ¬ qualifier <+: name) :
    dropConst name = name := by
  rw [dropConst]
  rintro rest rfl
  exact h ⟨rest, rfl⟩

/-- The qualifier loses its space if it has nothing but blanks behind it. -/
theorem trimChars_qualifier_append_blanks {blanks : List Char}
    (h : ∀ c ∈ blanks, isBlank c = true) : trimChars (qualifier ++ blanks) = "const".toList :=
  calc trimChars (qualifier ++ blanks)
      = trimChars ([] ++ (qualifier ++ blanks)) := rfl
    _ = trimChars qualifier := trimChars_append_blanks (List.forall_mem_nil _) h qualifier
    _ = "const".toList := by decide +kernel

/-- The qualifier stays in front of what is not blank. -/
theorem trimChars_qualifier_append {rest : List Char} (h : trimRightChars rest ≠ []) :
    trimChars (qualifier ++ rest) = qualifier ++ trimRightChars rest := by
  have hstart : trimLeftChars (qualifier ++ rest) = qualifier ++ rest :=
    trimLeftChars_eq_self fun c hc => by
      obtain rfl : 'c' = c := Option.some.inj hc
      decide
  rw [trimChars, hstart, trimRightChars_append h]

/-- **What is left of a qualified name**: what is left of the name behind the qualifier, or the
word alone, if there is none. -/
theorem dropConst_trimChars_qualified (rest : List Char) :
    dropConst (trimChars (qualifier ++ rest)) =
      if trimChars rest = [] then "const".toList else trimChars rest := by
  by_cases hblank : ∀ c ∈ rest, isBlank c = true
  · rw [if_pos (trimChars_eq_nil_iff.2 hblank), trimChars_qualifier_append_blanks hblank]
    rfl
  · rw [if_neg (mt trimChars_eq_nil_iff.1 hblank),
      trimChars_qualifier_append (mt trimRightChars_eq_nil.1 hblank), dropConst_qualifier_append,
      trimChars_trimRightChars]

/-- Neither the word alone nor the empty name stands for a type. -/
theorem scalarNamed_const : scalarNamed "const".toList = scalarNamed [] := by decide +kernel

/-- A qualifier in front of a name makes no difference. -/
theorem scalarNamed_dropConst_qualified (rest : List Char) :
    scalarNamed (dropConst (trimChars (qualifier ++ rest))) = scalarNamed (trimChars rest) := by
  rw [dropConst_trimChars_qualified]
  split
  · next hempty => rw [hempty, scalarNamed_const]
  · rfl

/-! ### Native types -/

/-- **Blanks and one qualifier do not matter.**  A native type that is not qualified itself
stands for what the table has under its trimmed name, and for any value if the table does not
have it.  It stands for the same with blanks around it, and with a qualifier in front and blanks
in front of the qualifier, behind it and at the end; it may be empty, blank or the word
`const`. -/
theorem nativeScalar_ignores_blanks_and_qualifier {t before between behind : String}
    (ht : ¬ "const ".toList <+: (trim t).toList) (hbefore : before.toList.all isBlank = true)
    (hbetween : between.toList.all isBlank = true) (hbehind : behind.toList.all isBlank = true) :
    nativeScalar t = (nativeTypes.lookup (trim t)).getD .any ∧
    nativeScalar (before ++ t ++ behind) = nativeScalar t ∧
    nativeScalar (before ++ "const " ++ between ++ t ++ behind) = nativeScalar t := by
  rw [List.all_eq_true] at hbefore hbetween hbehind
  have htrim : (trim t).toList = trimChars t.toList := String.toList_ofList
  rw [htrim] at ht
  have hplain : nativeScalar t = scalarNamed (trimChars t.toList) :=
    congrArg scalarNamed (dropConst_of_unqualified ht)
  refine ⟨hplain, ?_, ?_⟩
  · have htrimmed : trimChars (before ++ t ++ behind).toList = trimChars t.toList := by
      rw [String.toList_append, String.toList_append, List.append_assoc]
      exact trimChars_append_blanks hbefore hbehind t.toList
    rw [nativeScalar_eq_scalarNamed, htrimmed, nativeScalar_eq_scalarNamed]
  · have htrimmed : trimChars (before ++ "const " ++ between ++ t ++ behind).toList =
        trimChars (qualifier ++ (between.toList ++ t.toList)) := by
      rw [← trimChars_append_blanks hbefore hbehind (qualifier ++ (between.toList ++ t.toList))]
      simp only [String.toList_append, List.append_assoc]
      rfl
    have hname : trimChars (between.toList ++ t.toList) = trimChars t.toList := by
      have hblanks := trimChars_append_blanks hbetween (List.forall_mem_nil _) t.toList
      rwa [List.append_nil] at hblanks
    rw [nativeScalar_eq_scalarNamed, htrimmed, scalarNamed_dropConst_qualified, hname, hplain]

/-- A qualified pointer between blanks of all kinds, a line feed before it and an ideographic
space behind it. -/
theorem nativeScalar_of_qualified_pointer :
    ¬ "const ".toList <+: (trim " gchar*").toList ∧ "\n".toList.all isBlank = true ∧
    "\t ".toList.all isBlank = true ∧ "\u3000".toList.all isBlank = true ∧
    nativeScalar "\nconst \t  gchar*\u3000" = .string := by
  have ht : ¬ "const ".toList <+: (trim " gchar*").toList := by decide +kernel
  have hbefore : "\n".toList.all isBlank = true := by decide +kernel
  have hbetween : "\t ".toList.all isBlank = true := by decide +kernel
  have hbehind : "\u3000".toList.all isBlank = true := by decide +kernel
  obtain ⟨hplain, -, hqualified⟩ :=
    nativeScalar_ignores_blanks_and_qualifier ht hbefore hbetween hbehind
  refine ⟨ht, hbefore, hbetween, hbehind, ?_⟩
  calc nativeScalar "\nconst \t  gchar*\u3000"
      = nativeScalar " gchar*" := hqualified
    _ = (nativeTypes.lookup (trim " gchar*")).getD .any := hplain
    _ = .string := by decide +kernel

end GirTypings
