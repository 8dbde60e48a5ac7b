import GirTypings.Gir.Element
import GirTypings.Xml.Document

/-!
# Introspection documents

A document has a `repository` at its root and in it, for our purposes, one `namespace`,
the first.  What else the repository says that matters are the versions of the
namespaces it includes.  A document can be unusable in three ways, `StructuralError`.

The text of a document is made of characters: it was decoded from bytes, and no bytes stand
for half of a surrogate pair.  Only settings, which can hold escapes, may have such halves in
them (`Json.halves`).
-/

namespace GirTypings.Gir

open Xml (Element)

/-- Why a document cannot be used at all. -/
inductive StructuralError where
  /-- The text is no document. -/
  | malformed
  /-- The root is no repository. -/
  | noRepository
  /-- The repository has no namespace. -/
  | noNamespace
deriving DecidableEq, Repr

/-- The wording of a structural error.  Where a text is no document, a reader would add what is
wrong with it and in which line; that detail is left out. -/
def StructuralError.message : StructuralError → String
  | .malformed => "Malformed GIR document"
  | .noRepository => "Cannot find repository."
  | .noNamespace => "Cannot find namespace."

/-- The repository that a text describes. -/
def repository (text : String) : Except StructuralError Element :=
  match Xml.document? text with
  | none => .error .malformed
  | some root => if root.kind = "repository" then .ok root else .error .noRepository

/-- The namespace of a repository. -/
def namespaceOf (repository : Element) : Except StructuralError Element :=
  match repository.coreChildren "namespace" with
  | [] => .error .noNamespace
  | first :: _ => .ok first

/-- What an `include` says: a namespace and its version, if it tells both. -/
def inclusion? (e : Element) : Option (String × String) := do
  return (← e.filled? "name", ← e.filled? "version")

/-- The versions of included namespaces, the last one said for each. -/
def includedVersions (repository : Element) : Table String String :=
  .ofEntries ((repository.coreChildren "include").filterMap inclusion?)

end GirTypings.Gir
