/-!
# Joining texts

`joinWith sep` writes the texts of a list one after the other with `sep` between
neighbours, and nothing before the first or after the last.  It goes through the list
from the left and appends to what it has, so that no text is copied twice;
`joinWith_cons` describes it from the front.
-/

namespace GirTypings.Text

/-- The texts of a list with a separator between neighbours. -/
def joinWith (sep : String) : List String → String
  | [] => ""
  | first :: rest => rest.foldl (fun joined t => joined ++ sep ++ t) first

@[simp] theorem joinWith_nil (sep : String) : joinWith sep [] = "" := rfl

@[simp] theorem joinWith_singleton (sep t : String) : joinWith sep [t] = t := rfl

/-- What is in front of an appended text stays in front of all that follows. -/
theorem foldl_append_front (sep front t : String) (rest : List String) :
    rest.foldl (fun joined u => joined ++ sep ++ u) (front ++ t) =
      front ++ rest.foldl (fun joined u => joined ++ sep ++ u) t := by
  induction rest generalizing t with
  | nil => rfl
  | cons u rest ih => simpa only [List.foldl_cons, String.append_assoc] using ih (t ++ sep ++ u)

/-- The first text, the separator, and the other texts joined. -/
theorem joinWith_cons (sep t : String) {rest : List String} (h : rest ≠ []) :
    joinWith sep (t :: rest) = t ++ (sep ++ joinWith sep rest) := by
  cases rest with
  | nil => exact absurd rfl h
  | cons u rest =>
    rw [← String.append_assoc]
    exact foldl_append_front sep (t ++ sep) u rest

theorem toList_joinWith_cons (sep t : String) {rest : List String} (h : rest ≠ []) :
    (joinWith sep (t :: rest)).toList =
      t.toList ++ (sep.toList ++ (joinWith sep rest).toList) := by
  rw [joinWith_cons sep t h, String.toList_append, String.toList_append]

/-- The other texts joined, the separator, and the last text. -/
theorem joinWith_concat (sep last : String) {front : List String} (h : front ≠ []) :
    joinWith sep (front ++ [last]) = joinWith sep front ++ (sep ++ last) := by
  cases front with
  | nil => exact absurd rfl h
  | cons t front =>
    show (front ++ [last]).foldl (fun joined u => joined ++ sep ++ u) t = _
    rw [List.foldl_append, ← String.append_assoc]
    rfl

/-- Behind the same texts only the last one can tell joined texts apart. -/
theorem joinWith_concat_inj {sep t u : String} (front : List String) :
    joinWith sep (front ++ [t]) = joinWith sep (front ++ [u]) ↔ t = u := by
  by_cases hnil : front = []
  · subst hnil
    exact Iff.rfl
  · rw [joinWith_concat _ _ hnil, joinWith_concat _ _ hnil, String.append_right_inj,
      String.append_right_inj]

/-- Each text on a line of its own. -/
def joinLines (lines : List String) : String :=
  joinWith "\n" lines

theorem toList_joinLines_cons (l : String) {rest : List String} (h : rest ≠ []) :
    (joinLines (l :: rest)).toList = l.toList ++ '\n' :: (joinLines rest).toList :=
  toList_joinWith_cons "\n" l h

/-- The texts of a list with a comma and a space between neighbours. -/
def commaList (items : List String) : String :=
  joinWith ", " items

end GirTypings.Text
