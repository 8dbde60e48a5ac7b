/-!
# Runs

A **run** of characters of a class goes on as far as it can: what follows it does not go on
with a character of the class (`EndsRun`).  So the run is what is taken off the front of the
text, and it can be told apart from what follows.

* `takeWhile_run`, `dropWhile_run`: what is taken off and what is left;
* `run_inj`: a text has one run at its front.
-/

namespace GirTypings.Text

variable {p : Char → Bool} {run run' rest rest' : List Char}

/-- Whether a text does not go on with a character of a class. -/
def EndsRun (p : Char → Bool) (rest : List Char) : Prop :=
  ∀ c, rest.head? = some c → p c = false

theorem endsRun_nil : EndsRun p [] := nofun

theorem endsRun_cons {c : Char} (h : p c = false) : EndsRun p (c :: rest) := by
  rintro _ ⟨⟩
  exact h

theorem endsRun_dropWhile (s : List Char) : EndsRun p (s.dropWhile p) := by
  intro c hc
  have hnot := List.head?_dropWhile_not p s
  rwa [hc] at hnot

theorem dropWhile_run (hrun : ∀ c ∈ run, p c = true) (hrest : EndsRun p rest) :
    (run ++ rest).dropWhile p = rest := by
  rw [List.dropWhile_append_of_pos hrun]
  cases rest with
  | nil => rfl
  | cons c rest => exact List.dropWhile_cons_of_neg (by simp [hrest c rfl])

theorem takeWhile_run (hrun : ∀ c ∈ run, p c = true) (hrest : EndsRun p rest) :
    (run ++ rest).takeWhile p = run := by
  rw [List.takeWhile_append_of_pos hrun]
  cases rest with
  | nil => rw [List.takeWhile_nil, List.append_nil]
  | cons c rest => rw [List.takeWhile_cons_of_neg (by simp [hrest c rfl]), List.append_nil]

/-- A run can be told apart from what follows it. -/
theorem run_inj (hrun : ∀ c ∈ run, p c = true) (hrest : EndsRun p rest)
    (hrun' : ∀ c ∈ run', p c = true) (hrest' : EndsRun p rest') (h : run ++ rest = run' ++ rest') :
    run = run' ∧ rest = rest' :=
  ⟨by rw [← takeWhile_run hrun hrest, h, takeWhile_run hrun' hrest'],
    by rw [← dropWhile_run hrun hrest, h, dropWhile_run hrun' hrest']⟩

end GirTypings.Text
