/-!
# Records

A record stands for a class, interface or enumeration that waits to be written.  It has
the names of its parents: a name with a dot in it belongs to another namespace and is
**foreign**, every other is **local**.  What is to be written can be anything; the
order of records depends on names and parents alone.
-/

namespace GirTypings.Registry

/-- Whether a name is qualified with a namespace. -/
def isForeign (name : String) : Bool :=
  name.toList.contains '.'

/-- What stands before the first dot of a name. -/
def namespaceOf (name : String) : String :=
  .ofList (name.toList.takeWhile (· != '.'))

/-- A class, interface or enumeration that waits to be written. -/
structure Record (α : Type) where
  /-- Its name. -/
  name : String
  /-- The names of its parents: the class it extends, the interfaces it implements, its
  prerequisites. -/
  parents : List String
  /-- What is to be written. -/
  contents : α
deriving DecidableEq, Repr

namespace Record

variable {α β : Type}

/-- The parents of the same namespace. -/
def localParents (r : Record α) : List String :=
  r.parents.filter fun p => !isForeign p

/-- The parents of other namespaces. -/
def foreignParents (r : Record α) : List String :=
  r.parents.filter isForeign

/-- The record with other contents. -/
def map (f : α → β) (r : Record α) : Record β :=
  ⟨r.name, r.parents, f r.contents⟩

@[simp] theorem name_map (f : α → β) (r : Record α) : (r.map f).name = r.name := rfl

@[simp] theorem parents_map (f : α → β) (r : Record α) : (r.map f).parents = r.parents := rfl

@[simp] theorem contents_map (f : α → β) (r : Record α) :
    (r.map f).contents = f r.contents := rfl

@[simp] theorem localParents_map (f : α → β) (r : Record α) :
    (r.map f).localParents = r.localParents := rfl

@[simp] theorem foreignParents_map (f : α → β) (r : Record α) :
    (r.map f).foreignParents = r.foreignParents := rfl

end Record

end GirTypings.Registry
