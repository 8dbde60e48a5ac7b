/-!
# Scanners

A `Scanner` reads a value off the front of a list, or refuses; the list is a text, or
the symbols that an earlier scanner made of one.  What it leaves is never longer than
what it was given, and its type says so; an `Eager` scanner leaves strictly less.
Repetition (`many`) takes an eager scanner, so it ends by the length of the list,
without a bound on the number of rounds.

Scanners are sequenced with `do`; an eager scanner followed by any scanner is eager
(`Eager.andThen`).
-/

namespace GirTypings

/-- Reads a value off the front of a list. -/
structure Scanner (σ α : Type) where
  /-- The value read and the rest of the list; `none` if the list does not start as
  the scanner wants. -/
  run : (s : List σ) → Option (α × { rest : List σ // rest.length ≤ s.length })

/-- Reads a value off the front of a list and at least one item with it. -/
structure Eager (σ α : Type) where
  /-- The value read and the rest of the list. -/
  run : (s : List σ) → Option (α × { rest : List σ // rest.length < s.length })

namespace Scanner

variable {σ : Type}

instance : Monad (Scanner σ) where
  pure a := ⟨fun s => some (a, ⟨s, Nat.le_refl _⟩)⟩
  bind p f := ⟨fun s =>
    match p.run s with
    | none => none
    | some (a, ⟨rest, h⟩) =>
      match (f a).run rest with
      | none => none
      | some (b, ⟨tail, h'⟩) => some (b, ⟨tail, Nat.le_trans h' h⟩)⟩

/-- Refuses everything. -/
def refuse {α : Type} : Scanner σ α :=
  ⟨fun _ => none⟩

/-- Reads as the first scanner does, or, where that one refuses, as the second. -/
def orElse {α : Type} (p : Scanner σ α) (q : Unit → Scanner σ α) : Scanner σ α :=
  ⟨fun s =>
    match p.run s with
    | some found => some found
    | none => (q ()).run s⟩

instance {α : Type} : OrElse (Scanner σ α) where
  orElse := orElse

/-- Goes on only if a condition holds. -/
def require (condition : Bool) : Scanner σ Unit :=
  if condition then pure () else refuse

/-- Goes on with the value of an option, if there is one. -/
def ofOption {α : Type} : Option α → Scanner σ α
  | some a => pure a
  | none => refuse

/-- The value read, if the scanner reads the whole list. -/
def all? {α : Type} (p : Scanner σ α) (s : List σ) : Option α :=
  match p.run s with
  | some (a, ⟨[], _⟩) => some a
  | _ => none

end Scanner

namespace Eager

variable {σ : Type}

/-- An eager scanner is a scanner. -/
def scan {α : Type} (p : Eager σ α) : Scanner σ α :=
  ⟨fun s =>
    match p.run s with
    | none => none
    | some (a, ⟨rest, h⟩) => some (a, ⟨rest, Nat.le_of_lt h⟩)⟩

/-- An eager scanner and then any other. -/
def andThen {α β : Type} (p : Eager σ α) (f : α → Scanner σ β) : Eager σ β :=
  ⟨fun s =>
    match p.run s with
    | none => none
    | some (a, ⟨rest, h⟩) =>
      match (f a).run rest with
      | none => none
      | some (b, ⟨tail, h'⟩) => some (b, ⟨tail, Nat.lt_of_le_of_lt h' h⟩)⟩

/-- Reads as the first scanner does, or, where that one refuses, as the second. -/
def orElse {α : Type} (p : Eager σ α) (q : Unit → Eager σ α) : Eager σ α :=
  ⟨fun s =>
    match p.run s with
    | some found => some found
    | none => (q ()).run s⟩

instance {α : Type} : OrElse (Eager σ α) where
  orElse := orElse

/-- As many readings as the list allows, and what is left. -/
def repeatFrom {α : Type} (p : Eager σ α) (s : List σ) :
    List α × { rest : List σ // rest.length ≤ s.length } :=
  match p.run s with
  | none => ([], ⟨s, Nat.le_refl _⟩)
  | some (a, ⟨rest, h⟩) =>
    let (more, ⟨tail, h'⟩) := repeatFrom p rest
    (a :: more, ⟨tail, Nat.le_trans h' (Nat.le_of_lt h)⟩)
termination_by s.length

/-- As many readings as the list allows; it refuses nothing. -/
def many {α : Type} (p : Eager σ α) : Scanner σ (List α) :=
  ⟨fun s => some (repeatFrom p s)⟩

end Eager

namespace Eager

variable {σ α : Type}

/-- The scanner that may refer to itself so many levels deep. -/
def level (f : (Unit → Eager σ α) → Eager σ α) : Nat → Eager σ α
  | 0 => ⟨fun _ => none⟩
  | n + 1 => f fun _ => level f n

/-- A scanner that refers to itself.  It reads something before each reference, so the
length of the list bounds the levels. -/
def nested (f : (Unit → Eager σ α) → Eager σ α) : Eager σ α :=
  ⟨fun s => (level f (s.length + 1)).run s⟩

end Eager

namespace Scanner

/-- One item of which a function knows what it means. -/
def item {σ α : Type} (f : σ → Option α) : Eager σ α :=
  ⟨fun
    | [] => none
    | c :: rest => (f c).map (·, ⟨rest, Nat.lt_succ_self _⟩)⟩

/-! ### Characters and words -/

/-- One character of a class. -/
def charWhere (p : Char → Bool) : Eager Char Char :=
  item fun c => if p c then some c else none

/-- One given character. -/
def char (c : Char) : Eager Char Char :=
  charWhere (· == c)

/-- The rest of a text that starts with a given one. -/
def dropStart? : List Char → (s : List Char) → Option { rest : List Char // rest.length ≤ s.length }
  | [], s => some ⟨s, Nat.le_refl _⟩
  | _ :: _, [] => none
  | c :: word, d :: s =>
    if c == d then
      match dropStart? word s with
      | some ⟨rest, h⟩ => some ⟨rest, Nat.le_succ_of_le h⟩
      | none => none
    else none

/-- A given text. -/
def word (t : String) : Scanner Char Unit :=
  ⟨fun s => (dropStart? t.toList s).map ((), ·)⟩

/-- The longest run of characters of a class; it may be empty. -/
def charsWhere (p : Char → Bool) : Scanner Char (List Char) :=
  ⟨fun s => some (s.takeWhile p, ⟨s.dropWhile p, (List.dropWhile_suffix p).length_le⟩)⟩

/-- A run of characters of a class, at least one. -/
def someCharsWhere (p : Char → Bool) : Eager Char (List Char) :=
  (charWhere p).andThen fun c => do return c :: (← charsWhere p)

/-- What stands before the first occurrence of a given text, which is read too. -/
def splitAt? (stop : List Char) :
    (s : List Char) → Option (List Char × { rest : List Char // rest.length ≤ s.length })
  | [] => (dropStart? stop []).map ([], ·)
  | c :: s =>
    match dropStart? stop (c :: s) with
    | some rest => some ([], rest)
    | none =>
      match splitAt? stop s with
      | some (before, ⟨rest, h⟩) => some (c :: before, ⟨rest, Nat.le_succ_of_le h⟩)
      | none => none

/-- Everything before the next occurrence of a given text, which is read too. -/
def through (stop : String) : Scanner Char (List Char) :=
  ⟨splitAt? stop.toList⟩

/-- Whether the text has ended or goes on with a character of a class; nothing is
read. -/
def aheadIs (p : Char → Bool) : Scanner Char Bool :=
  ⟨fun s => some (s.head?.all p, ⟨s, Nat.le_refl _⟩)⟩

end Scanner

end GirTypings
