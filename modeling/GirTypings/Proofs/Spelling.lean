import Mathlib.Data.List.TakeDrop
import Mathlib.Data.List.TakeWhile
import GirTypings.CommandLine.Arguments

/-!
# Arguments for an invocation

Whatever is to be asked for, there are arguments that ask for it: the long names of the
options, each with its value if it takes one, then two hyphens and the paths
(`Invocation.spelling`).

* `Invocation.takeAll?_cons_long`: what a long name comes to;
* `Invocation.ofArguments?_spelling`: what all of the arguments come to.
-/

namespace GirTypings.CommandLine

/-- The long name of an option. -/
def OptionName.long : OptionName → String
  | config => "--config"
  | outputDirectory => "--output-dir"
  | noDocumentation => "--no-documentation"
  | camelCase => "--camel-case"
  | verbose => "--verbose"
  | help => "--help"

theorem OptionName.ofLong?_long (o : OptionName) : ofLong? o.long = some o := by
  cases o <;> decide

/-- A long name is neither a path nor the end of the options, and gives no value. -/
theorem OptionName.toList_long (o : OptionName) :
    o.long.toList.head? = some '-' ∧ 2 < o.long.toList.length ∧ '=' ∉ o.long.toList := by
  cases o <;> decide +kernel

namespace Invocation

/-- Arguments that ask for an invocation: its options, and its paths after two hyphens. -/
def spelling (i : Invocation) : List String :=
  value .config i.config ++ (value .outputDirectory i.outputDirectory ++
    (flag .noDocumentation i.noDocumentation ++ (flag .camelCase i.camelCase ++
      (flag .verbose i.verbose ++ (flag .help i.help ++ "--" :: i.paths)))))
where
  /-- The arguments for an option that takes a value. -/
  value (o : OptionName) : Option String → List String
    | none => []
    | some v => [o.long, v]
  /-- The arguments for an option that takes none. -/
  flag (o : OptionName) (on : Bool) : List String :=
    if on then [o.long] else []

/-- A long name is taken for its option, with nothing given yet. -/
theorem takeAll?_cons_long (i : Invocation) (o : OptionName) (rest : List String) :
    i.takeAll? none (o.long :: rest) =
      (i.takeLong? o none).bind fun taken => taken.1.takeAll? taken.2 rest := by
  obtain ⟨hhyphen, hlength, hplain⟩ := o.toList_long
  have hends : o.long ≠ "--" := fun h => absurd hlength (by rw [h]; decide)
  have hlone : o.long ≠ "-" := fun h => absurd hlength (by rw [h]; decide)
  have hspan : o.long.toList.span (· != '=') = (o.long.toList, []) := by
    have hname : ∀ c ∈ o.long.toList, (c != '=') = true :=
      fun c hc => bne_iff_ne.2 (ne_of_mem_of_not_mem hc hplain)
    rw [List.span_eq_takeWhile_dropWhile, List.takeWhile_eq_self_iff.2 hname,
      List.dropWhile_eq_nil_iff.2 hname]
  have htaken : i.takeOption? o.long.toList = i.takeLong? o none := by
    simp only [takeOption?, hspan, String.ofList_toList, o.ofLong?_long]
    rfl
  rw [takeAll?, if_neg hends, hhyphen, htaken, if_pos (by simp [hlone])]
  cases i.takeLong? o none with
  | none => rfl
  | some taken => rfl

theorem takeAll?_value {o : OptionName} (ho : o.takesValue = true) (i : Invocation)
    (v : Option String) (rest : List String) :
    i.takeAll? none (spelling.value o v ++ rest) =
      (v.elim i fun v => i.setValue v o).takeAll? none rest := by
  cases v with
  | none => rfl
  | some v =>
    have htaken : i.takeLong? o none = some (i, some o) := by simp only [takeLong?, ho]
    rw [spelling.value, List.cons_append, takeAll?_cons_long, htaken]
    rfl

theorem takeAll?_flag {o : OptionName} (ho : o.takesValue = false) (i : Invocation) (on : Bool)
    (rest : List String) :
    i.takeAll? none (spelling.flag o on ++ rest) =
      (if on then i.setFlag o else i).takeAll? none rest := by
  cases on with
  | false => rfl
  | true =>
    have htaken : i.takeLong? o none = some (i.setFlag o, none) := by simp only [takeLong?, ho]
    rw [spelling.flag, if_pos rfl, List.singleton_append, takeAll?_cons_long, htaken]
    rfl

theorem foldl_addPath (i : Invocation) (paths : List String) :
    paths.foldl addPath i = { i with paths := i.paths ++ paths } := by
  induction paths generalizing i with
  | nil => rw [List.append_nil]; rfl
  | cons p rest ih =>
    rw [List.foldl_cons, ih, addPath]
    simp only [List.append_assoc, List.singleton_append]

theorem takeAll?_paths (i : Invocation) (paths : List String) :
    i.takeAll? none ("--" :: paths) = some { i with paths := i.paths ++ paths } := by
  rw [takeAll?, if_pos rfl, foldl_addPath]

/-- **Every invocation can be asked for.** -/
theorem ofArguments?_spelling (i : Invocation) : ofArguments? i.spelling = some i := by
  obtain ⟨config, outputDirectory, noDocumentation, camelCase, verbose, help, paths⟩ := i
  rw [ofArguments?, spelling, takeAll?_value rfl, takeAll?_value rfl, takeAll?_flag rfl,
    takeAll?_flag rfl, takeAll?_flag rfl, takeAll?_flag rfl, takeAll?_paths]
  cases config <;> cases outputDirectory <;> cases noDocumentation <;> cases camelCase <;>
    cases verbose <;> cases help <;> rfl

end Invocation

end GirTypings.CommandLine
