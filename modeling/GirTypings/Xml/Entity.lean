import GirTypings.Xml.Reference

/-!
# Entities

An internal **entity** stands for a text.  Where it is referred to in an attribute
value its text is read as a part of the value, references in it included.  An entity
may not refer to itself, directly or through others: while its text is being read it
is not among the entities that may be opened, and since that list shrinks with each
text inside a text, reading ends.
-/

namespace GirTypings.Xml

/-- What a declared entity stands for. -/
inductive EntityText where
  /-- A text of the document. -/
  | internal (text : List Char)
  /-- Something outside the document. -/
  | external
deriving DecidableEq, Repr

/-- A declared entity. -/
structure Entity where
  /-- The name that references use. -/
  name : String
  /-- What they stand for. -/
  text : EntityText
deriving DecidableEq, Repr

/-- The entities that may still be opened inside the text of one of them. -/
def closedOff (name : String) (available : List Entity) : List Entity :=
  available.filter (·.name != name)

/-- Inside the text of an available entity fewer entities are available. -/
theorem length_closedOff_lt {name : String} {available : List Entity} {e : Entity}
    (h : available.find? (·.name == name) = some e) :
    (closedOff name available).length < available.length := by
  have hname : (e.name == name) = true := by simpa using List.find?_some h
  refine List.length_filter_lt_length_iff_exists.2 ⟨e, List.mem_of_find?_eq_some h, ?_⟩
  simpa using hname

/-- The text of an entity, as its declaration gives it: characters given by number are
put in, references to entities stay.  A percent sign is refused, since references to
parameter entities have no place there. -/
def entityText? (value : List Char) : Option (List Char) := do
  let parts ← fragments? value
  guard (!parts.contains (.plain '%'))
  return parts.flatMap fun
    | .plain c => [c]
    | .reference (.character c) => [c]
    | .reference (.entity name) => '&' :: (name.toList ++ [';'])

/-- The characters of an attribute value.  Every space of the written value becomes the
space character.  `strict` says that a name which is not `declared` is an error; it is
passed over otherwise. -/
def valueOf? (declared : String → Bool) (strict : Bool) (available : List Entity) :
    List Fragment → Option (List Char)
  | [] => some []
  | .plain c :: rest =>
    if c = '<' then none
    else (valueOf? declared strict available rest).map ((if isSpace c then ' ' else c) :: ·)
  | .reference (.character c) :: rest =>
    (valueOf? declared strict available rest).map (c :: ·)
  | .reference (.entity name) :: rest =>
    match predefined? name with
    | some c => (valueOf? declared strict available rest).map (c :: ·)
    | none =>
      if !declared name && !strict then valueOf? declared strict available rest
      else match h : available.find? (·.name == name) with
        | some ⟨_, .internal text⟩ =>
          have := length_closedOff_lt h
          match fragments? text with
          | none => none
          | some parts =>
            match valueOf? declared strict (closedOff name available) parts with
            | none => none
            | some inner => (valueOf? declared strict available rest).map (inner ++ ·)
        | _ => none
termination_by parts => (available.length, parts.length)

end GirTypings.Xml
