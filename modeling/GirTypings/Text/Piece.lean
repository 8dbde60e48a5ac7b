/-!
# Pieces of a text

A text is cut into pieces from its end: each character either begins a piece, or goes in
front of the first piece of what follows it, `growFirst`.  `cutAt` cuts at every
character of a class and drops these characters, so that there is one piece more than
there are cuts.
-/

namespace GirTypings.Text

/-- Puts a character in front of the first piece; the only piece if there is none. -/
def growFirst (c : Char) : List (List Char) → List (List Char)
  | [] => [[c]]
  | p :: ps => (c :: p) :: ps

/-- What stands before, between and after the characters of a class. -/
def cutAt (isCut : Char → Bool) : List Char → List (List Char)
  | [] => [[]]
  | c :: rest => if isCut c then [] :: cutAt isCut rest else growFirst c (cutAt isCut rest)

@[simp] theorem cutAt_nil (isCut : Char → Bool) : cutAt isCut [] = [[]] := rfl

theorem growFirst_ne_nil (c : Char) (ps : List (List Char)) : growFirst c ps ≠ [] := by
  cases ps <;> exact List.cons_ne_nil _ _

/-- Growing the first piece puts a character in front of all. -/
@[simp] theorem flatten_growFirst (c : Char) (ps : List (List Char)) :
    (growFirst c ps).flatten = c :: ps.flatten := by
  cases ps <;> rfl

/-- What holds of a character and of all those in pieces holds of all in the pieces that it
makes grow. -/
theorem forall_mem_growFirst {p : Char → Prop} {c : Char} {pieces : List (List Char)} (hc : p c)
    (h : ∀ piece ∈ pieces, ∀ d ∈ piece, p d) : ∀ piece ∈ growFirst c pieces, ∀ d ∈ piece, p d := by
  cases pieces with
  | nil => simpa [growFirst] using hc
  | cons first rest => simpa [growFirst, hc] using h

end GirTypings.Text
