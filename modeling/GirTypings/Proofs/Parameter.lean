import Mathlib.Data.List.Nodup
import GirTypings.Proofs.FirstOccurrence
import GirTypings.Proofs.LegalName
import GirTypings.Proofs.Provenance
import GirTypings.Proofs.Selection

/-!
# Parameters

A callable has one parameter for each final name among the named parameters in its list,
in the order in which the names occur first, with the type and the documentation given
there.  The final name is not the name in the document: three dots and reserved words are
rewritten, so two names that differ can collide.  What has no name, what is no parameter,
and what repeats a final name might as well not be in the list.

* `finalName_eq_rest_iff`: only three dots stand for all further arguments;
* `finalName_underscore_iff`: when an underscore in front makes a name collide;
* `parameters_eq`: the parameters are made of the first occurrences;
* `parameters_eq_first_of_each_name`: all of this for a callable.
-/

namespace GirTypings

open Gir Naming Xml Xml.Element

/-! ### Final names -/

/-- The name under which a parameter is known. -/
def finalName (name : String) : String :=
  if name = "..." then "...other" else sanitize name

/-- What `sanitize` makes of a word does not start with a dot. -/
theorem head?_sanitize_ne_dot (word : String) : (sanitize word).toList.head? ≠ some '.' := by
  intro hdot
  rcases sanitize_starts_or_forall word with hstart | hall
  · rw [hstart] at hdot
    cases hdot
  · rcases hall '.' (List.mem_of_head? hdot) with hchar | hnewline
    · exact absurd hchar (by decide)
    · exact absurd hnewline (by decide)

theorem sanitize_ne_rest (word : String) : sanitize word ≠ "...other" := by
  intro h
  have hdot := head?_sanitize_ne_dot word
  rw [h] at hdot
  exact hdot rfl

/-- Only three dots stand for all further arguments. -/
theorem finalName_eq_rest_iff {name : String} : finalName name = "...other" ↔ name = "..." := by
  rw [finalName]
  constructor
  · intro h
    by_contra hdots
    rw [if_neg hdots] at h
    exact sanitize_ne_rest name h
  · intro hdots
    rw [if_pos hdots]

/-- **When an underscore in front makes a name collide**: the word gets one itself, and with
one it gets no other. -/
theorem finalName_underscore_iff {word : String} :
    finalName ("_" ++ word) = finalName word ↔
      isReserved word = true ∧ isReserved ("_" ++ word) = false := by
  have hdots : "_" ++ word ≠ "..." := by
    intro h
    have hhead := congrArg (fun t => t.toList.head?) h
    rw [String.toList_append] at hhead
    cases hhead
  have hlength : ∀ t : String, ("_" ++ t).length = t.length + 1 := fun t => by
    rw [String.length_append, show "_".length = 1 from rfl, Nat.add_comm]
  rw [finalName, if_neg hdots]
  by_cases hrest : word = "..."
  · -- three dots with an underscore are no identifier
    subst hrest
    decide +kernel
  -- the other ways two names become one would need a name as long as a longer one
  have hfirst : "_" ++ word ≠ word := fun h => by
    have hlong := congrArg String.length h
    rw [hlength] at hlong
    omega
  have htwice : word ≠ "_" ++ ("_" ++ word) := fun h => by
    have hlong := congrArg String.length h
    rw [hlength, hlength] at hlong
    omega
  rw [finalName, if_neg hrest, sanitize_eq_sanitize_iff]
  simp [hfirst, htwice]

/-! ### The parameters of a callable -/

/-- The parameter that an element of a name describes. -/
def parameterOf (name : String) (p : Element) : Parameter :=
  ⟨finalName name, if name = "..." then "any[]" else p.typeSpelling, p.inlineDoc?⟩

/-- What stands in the list of parameters of a callable, the first if there are several. -/
def listed (e : Element) : List Element :=
  (e.child? "parameters").elim [] Element.children

/-- The parameters in the list of a callable that have a name, with it. -/
def namedParameters (e : Element) : List (String × Element) :=
  named ((listed e).filter (·.kind == "parameter"))

theorem parameterElements_eq (e : Element) :
    e.parameterElements = (listed e).filter (·.kind == "parameter") := by
  rw [parameterElements, listed]
  cases e.child? "parameters" <;> rfl

theorem toOption_parameter_eq (p : Element) :
    p.parameter.toOption = (p.attr? "name").map fun name => parameterOf name p := by
  rw [toOption_parameter]
  refine congrArg (Option.map · _) (funext fun name => ?_)
  rw [parameterOf, finalName]
  split <;> rfl

/-- Of the named parameters those with one final name make one parameter. -/
theorem parameters_eq_map_firstBy (e : Element) :
    e.parameters =
      (firstBy (fun p : String × Element => finalName p.1) (namedParameters e)).map fun p =>
        parameterOf p.1 p.2 := by
  have hread : e.parameterElements.filterMap (fun p => p.parameter.toOption) =
      (namedParameters e).map fun p => parameterOf p.1 p.2 := by
    rw [parameterElements_eq]
    exact filterMap_eq_map_named toOption_parameter_eq _
  rw [parameters, hread]
  exact firstBy_map (fun _ => rfl) _

/-- The parameters are made of the first occurrences. -/
theorem parameters_eq (e : Element) :
    e.parameters =
      (firstOccurrences (fun (name, _) => finalName name) (namedParameters e)).map
        fun (name, p) => parameterOf name p := by
  rw [parameters_eq_map_firstBy]
  exact congrArg (List.map _) (firstBy_eq_firstOccurrences _)

theorem nodup_names_parameters (e : Element) : (e.parameters.map Parameter.name).Nodup :=
  nodup_map_firstBy _

/-- A name that occurs once at most is that of one parameter at most. -/
theorem length_filter_name_le_one (e : Element) (name : String) :
    (e.parameters.filter (·.name == name)).length ≤ 1 := by
  rw [← List.countP_eq_length_filter]
  have hcount := List.nodup_iff_count_le_one.1 (nodup_names_parameters e) name
  rwa [List.count, List.countP_map] at hcount

/-! ### What changes nothing -/

/-- Whether an element in a list of parameters repeats a final name of those before it. -/
def RepeatsName (before : List Element) (m : Element) : Prop :=
  ∃ earlier ∈ before, earlier.kind = "parameter" ∧
    ∃ n ∈ earlier.attr? "name", ∃ n' ∈ m.attr? "name", finalName n = finalName n'

/-- An element that is no named parameter, or repeats a final name, might as well not be in
the list. -/
theorem parameters_eq_of_listed {e e' : Element} {before after : List Element} {m : Element}
    (hlisted : listed e = before ++ m :: after) (hlisted' : listed e' = before ++ after)
    (hm : m.kind ≠ "parameter" ∨ m.attr? "name" = none ∨ RepeatsName before m) :
    e.parameters = e'.parameters := by
  rw [parameters_eq_map_firstBy, parameters_eq_map_firstBy, namedParameters, namedParameters,
    hlisted, hlisted', List.filter_append, List.filter_append]
  by_cases hkind : m.kind = "parameter"
  · rw [List.filter_cons_of_pos (by simpa using hkind), named_append, named_append]
    cases hname : m.attr? "name" with
    | none => rw [named_cons_of_none hname]
    | some name =>
      obtain ⟨earlier, hearlier, hparameter, n, hn, n', hn', hfinal⟩ : RepeatsName before m := by
        rcases hm with hm | hm | hm
        · exact absurd hkind hm
        · rw [hname] at hm
          cases hm
        · exact hm
      obtain rfl : name = n' := Option.some.inj (hname.symm.trans hn')
      have hmem : (n, earlier) ∈ named (before.filter (·.kind == "parameter")) :=
        mem_named.2 ⟨List.mem_filter.2 ⟨hearlier, by simpa using hparameter⟩, hn⟩
      rw [named_cons_of_some hname, firstBy_append_cons_of_mem]
      exact List.mem_map.2 ⟨(n, earlier), hmem, hfinal⟩
  · rw [List.filter_cons_of_neg (by simpa using hkind)]

/-- **A callable has one parameter for each final name in its list.**  The parameters are
the first occurrences, by final name, among the named `parameter` children of the first
`parameters` child, in document order and each with the type and the documentation of that
occurrence.  So their names are distinct, and one at most stands for all further arguments.
An underscore in front of a name makes it collide exactly if the name is reserved and is not
with the underscore, as with every reserved word.  A child that is no `parameter`, or has no
name, or repeats a final name, might as well not be in the list. -/
theorem parameters_eq_first_of_each_name (e : Element) :
    e.parameters =
      (firstOccurrences (fun (name, _) => finalName name) (namedParameters e)).map
        (fun (name, p) => parameterOf name p) ∧
    (e.parameters.map Parameter.name).Nodup ∧
    (e.parameters.filter (·.name == "...other")).length ≤ 1 ∧
    (∀ name, finalName name = "...other" ↔ name = "...") ∧
    (∀ word, finalName ("_" ++ word) = finalName word ↔
      isReserved word = true ∧ isReserved ("_" ++ word) = false) ∧
    (∀ word ∈ reservedWords, finalName ("_" ++ word) = finalName word) ∧
    ∀ (e' : Element) (before after : List Element) (m : Element),
      listed e = before ++ m :: after → listed e' = before ++ after →
      m.kind ≠ "parameter" ∨ m.attr? "name" = none ∨ RepeatsName before m →
      e.parameters = e'.parameters := by
  refine ⟨parameters_eq e, nodup_names_parameters e, length_filter_name_le_one e "...other",
    fun _ => finalName_eq_rest_iff, fun _ => finalName_underscore_iff, ?_, ?_⟩
  · decide +kernel
  · intro e' before after m hlisted hlisted' hm
    exact parameters_eq_of_listed hlisted hlisted' hm

/-- A parameter of a native type. -/
def parameterElement (name : Option String) (native : String) : Element :=
  coreElement "parameter" name [coreElement "type" (some native) []]

/-- A method with a list of parameters. -/
def methodWith (parameters : List Element) : Element :=
  coreElement "method" (some "watch") [coreElement "parameters" none parameters]

/-- An instance, a parameter with a reserved word for its name, and one without a name. -/
def watchedFirst : List Element :=
  [coreElement "instance-parameter" (some "self") [], parameterElement (some "delete") "gint",
    parameterElement none "gint"]

/-- Three dots, twice. -/
def watchedLast : List Element :=
  [parameterElement (some "...") "utf8", parameterElement (some "...") "gint"]

/-- The reserved word with the underscore that it gets. -/
def watchedAgain : Element :=
  parameterElement (some "_delete") "utf8"

/-- Of all these there are two parameters, with and without the one that repeats a name. -/
theorem parameters_of_watched :
    listed (methodWith (watchedFirst ++ watchedAgain :: watchedLast)) =
      watchedFirst ++ watchedAgain :: watchedLast ∧
    listed (methodWith (watchedFirst ++ watchedLast)) = watchedFirst ++ watchedLast ∧
    RepeatsName watchedFirst watchedAgain ∧
    (methodWith (watchedFirst ++ watchedAgain :: watchedLast)).parameters =
      (methodWith (watchedFirst ++ watchedLast)).parameters ∧
    (methodWith (watchedFirst ++ watchedLast)).parameters =
      [⟨"_delete", "number", none⟩, ⟨"...other", "any[]", none⟩] := by
  have hrepeats : RepeatsName watchedFirst watchedAgain :=
    ⟨_, List.mem_cons_of_mem _ (List.mem_cons_self ..), rfl, "delete", rfl, "_delete", rfl,
      by decide +kernel⟩
  obtain ⟨-, -, -, -, -, -, hsame⟩ :=
    parameters_eq_first_of_each_name (methodWith (watchedFirst ++ watchedAgain :: watchedLast))
  refine ⟨rfl, rfl, hrepeats, ?_, ?_⟩
  · exact hsame _ watchedFirst watchedLast watchedAgain rfl rfl (.inr (.inr hrepeats))
  · decide +kernel

end GirTypings
