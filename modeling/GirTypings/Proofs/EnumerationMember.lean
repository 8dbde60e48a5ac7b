import GirTypings.Proofs.FirstOccurrence
import GirTypings.Proofs.Provenance
import GirTypings.Proofs.Selection

/-!
# Members of enumerations

An enumeration is declared with one line for each identifier among the members that have
a name and a value.  Identifiers collide in three ways: two names are equal, two names have
the same capitals (`ß` and `ss` do), or one already has the underscore that the other gets.
The first member with the identifier gives the value.  A member without a name or a value is
dropped before identifiers are compared, so it cannot take the place of a later one.

* `memberIdentifier_eq`: what the identifier of a name is;
* `declaredMembers_enumeration`: the members that are declared are first occurrences;
* `text_enumeration`: the lines of an enumeration;
* `enumerationRecord_congr`: the record depends on the members with a value only;
* `enumeration_declares_each_identifier_once`: all of this for an element.
-/

namespace GirTypings

open Declaration Gir Registry Xml Xml.Element

/-! ### Identifiers -/

/-- Whether a text is empty or starts with a digit. -/
def needsUnderscore (t : String) : Bool :=
  t.toList.head?.all Text.isDigit

/-- The identifier of a name is the name in capitals, with an underscore in front of nothing
and of a digit. -/
theorem memberIdentifier_eq (name : String) :
    memberIdentifier name =
      if needsUnderscore (Text.upper name) then "_" ++ Text.upper name else Text.upper name := by
  rw [memberIdentifier, needsUnderscore]
  cases hchars : (Text.upper name).toList with
  | nil =>
    have hempty : Text.upper name = "" := String.toList_inj.1 hchars
    rw [hempty]
    rfl
  | cons c rest => rfl

theorem needsUnderscore_append (t : String) : needsUnderscore ("_" ++ t) = false := by
  rw [needsUnderscore, String.toList_append]
  exact (by decide : Text.isDigit '_' = false)

/-- An identifier starts with a character that is no digit. -/
theorem exists_head?_memberIdentifier (name : String) :
    ∃ c, (memberIdentifier name).toList.head? = some c ∧ Text.isDigit c = false := by
  have hstart : needsUnderscore (memberIdentifier name) = false := by
    rw [memberIdentifier_eq]
    split
    · exact needsUnderscore_append _
    · next h => exact Bool.eq_false_iff.2 h
  rw [needsUnderscore] at hstart
  cases hhead : (memberIdentifier name).toList.head? with
  | none =>
    rw [hhead] at hstart
    cases hstart
  | some c =>
    rw [hhead] at hstart
    exact ⟨c, rfl, hstart⟩

/-! ### The lines of an enumeration -/

/-- The name and the value of a member, if it has both. -/
def valuedMember? (m : Element) : Option (String × String) :=
  (m.attr? "name").bind fun name => (m.attr? "value").map fun value => (name, value)

/-- The names and values of the members that have both, in document order. -/
def valuedMembers (e : Element) : List (String × String) :=
  (e.coreChildren "member").filterMap valuedMember?

/-- Of the members that have a name and a value the first with each identifier. -/
def firstMembers (e : Element) : List (String × String) :=
  firstOccurrences (fun (name, _) => memberIdentifier name) (valuedMembers e)

theorem members_enumeration (e : Element) (name : String) :
    (e.enumeration name).members = valuedMembers e :=
  congrArg (List.filterMap · _) (funext toOption_enumerationMember)

/-- What is declared are the first occurrences of identifiers. -/
theorem declaredMembers_enumeration (e : Element) (name : String) :
    (e.enumeration name).declaredMembers =
      (firstMembers e).map fun (name, value) => (memberIdentifier name, value) := by
  rw [Enumeration.declaredMembers, members_enumeration, firstMembers, ← firstBy_eq_firstOccurrences]
  exact firstBy_map (fun _ => rfl) _

/-- Lines of code are there with comments and without. -/
theorem lines_map_code {α : Type} (documented : Bool) (line : α → String) (items : List α) :
    Layout.lines documented (items.map fun a => .code (line a)) = items.map line := by
  rw [Layout.lines, List.flatMap_map, List.map_eq_flatMap]
  rfl

/-- The text of an enumeration: its comment, what opens it, a line for each member that is
declared, and a bracket. -/
theorem text_enumeration (documented : Bool) (en : Enumeration) :
    en.layout.text documented =
      Text.joinLines ((Layout.comment 0 (docLines en.docstring)).lines documented ++
        ("export enum " ++ Naming.sanitize en.name ++ " \x7b") ::
          ((en.declaredMembers.map fun (identifier, value) =>
            Enumeration.memberLine identifier value) ++ ["\x7d"])) := by
  have hbody : Layout.lines documented
      (.code en.header :: (en.declaredMembers.map fun (identifier, value) =>
        .code (Enumeration.memberLine identifier value)) ++ [.code "\x7d"]) =
      en.header :: ((en.declaredMembers.map fun (identifier, value) =>
        Enumeration.memberLine identifier value) ++ ["\x7d"]) := by
    rw [Layout.lines_append, ← List.singleton_append, Layout.lines_append, lines_map_code]
    rfl
  rw [Layout.text, Enumeration.layout, Layout.lines_append, hbody]
  rfl

/-! ### Records -/

/-- The record depends on the name, the documentation and the members with a value. -/
theorem enumerationRecord_congr {e e' : Element} {name : String} (hname : e.attr? "name" = some name)
    (hname' : e'.attr? "name" = some name) (hdoc : e.docstring = e'.docstring)
    (hvalued : valuedMembers e = valuedMembers e') :
    e.enumerationRecord = e'.enumerationRecord := by
  have hmembers : (e.enumeration name).members = (e'.enumeration name).members := by
    rw [members_enumeration, members_enumeration, hvalued]
  have henumeration : e.enumeration name = e'.enumeration name :=
    calc e.enumeration name = ⟨name, e.docstring, (e.enumeration name).members⟩ := rfl
      _ = ⟨name, e'.docstring, (e'.enumeration name).members⟩ := by rw [hdoc, hmembers]
      _ = e'.enumeration name := rfl
  rw [enumerationRecord_of_name hname, enumerationRecord_of_name hname', henumeration]

/-- A member without a name or a value might as well not be there. -/
theorem valuedMembers_eq_of_coreChildren {e e' : Element} {before after : List Element} {m : Element}
    (h : e.coreChildren "member" = before ++ m :: after)
    (h' : e'.coreChildren "member" = before ++ after)
    (hm : m.attr? "name" = none ∨ m.attr? "value" = none) :
    valuedMembers e = valuedMembers e' := by
  have hread : valuedMember? m = none := by
    rw [valuedMember?]
    rcases hm with hm | hm
    · rw [hm]
      rfl
    · rw [hm]
      cases m.attr? "name" <;> rfl
  rw [valuedMembers, valuedMembers, h, h', List.filterMap_append, List.filterMap_append,
    List.filterMap_cons_none hread]

/-- **An enumeration declares each identifier once.**  Its record has the name of the element
and no parents.  Behind the comment and the line that opens it, the text has one line for
each of the first members, those of the members with a name and a value that no earlier one
has the identifier of, in document order and with the value of that member.  So identifiers
are distinct, each identifier of a member with a value has its line, and none is empty or
starts with a digit.  A member without a name or a value might as well not be there. -/
theorem enumeration_declares_each_identifier_once (settings : Settings) {e : Element} {name : String}
    (hname : e.attr? "name" = some name) :
    (∃ record, e.enumerationRecord = .ok record ∧
      (isEnumerationLike e = true → record? settings.camel e = some record) ∧
      record.name = name ∧ record.parents = [] ∧
      record.contents.text settings.documented =
        Text.joinLines ((Layout.comment 0 (docLines e.docstring)).lines settings.documented ++
          ("export enum " ++ Naming.sanitize name ++ " \x7b") ::
            (((firstMembers e).map fun (n, value) =>
              "    " ++ memberIdentifier n ++ " = '" ++ escape value ++ "',") ++ ["\x7d"]))) ∧
    ((firstMembers e).map fun (n, _) => memberIdentifier n).Nodup ∧
    (∀ identifier, identifier ∈ ((firstMembers e).map fun (n, _) => memberIdentifier n) ↔
      identifier ∈ (valuedMembers e).map fun (n, _) => memberIdentifier n) ∧
    (∀ n, memberIdentifier n =
      if needsUnderscore (Text.upper n) then "_" ++ Text.upper n else Text.upper n) ∧
    (∀ n, ∃ c, (memberIdentifier n).toList.head? = some c ∧ Text.isDigit c = false) ∧
    ∀ (e' : Element) (before after : List Element) (m : Element),
      e'.attr? "name" = some name → e'.docstring = e.docstring →
      e.coreChildren "member" = before ++ m :: after →
      e'.coreChildren "member" = before ++ after →
      m.attr? "name" = none ∨ m.attr? "value" = none →
      e.enumerationRecord = e'.enumerationRecord := by
  have hrecord := enumerationRecord_of_name hname
  refine ⟨⟨_, hrecord, ?_, rfl, rfl, ?_⟩, ?_, ?_, memberIdentifier_eq, exists_head?_memberIdentifier,
    ?_⟩
  · intro hkind
    exact record?_eq_some_iff.2 (.inr ⟨hkind, name, hname, rfl⟩)
  · rw [text_enumeration, declaredMembers_enumeration, List.map_map]
    rfl
  · rw [firstMembers, ← firstBy_eq_firstOccurrences]
    exact nodup_map_firstBy _
  · intro identifier
    rw [firstMembers, ← firstBy_eq_firstOccurrences]
    exact mem_map_firstBy
  · intro e' before after m hname' hdoc hmembers hmembers' hm
    exact enumerationRecord_congr hname hname' hdoc.symm
      (valuedMembers_eq_of_coreChildren hmembers hmembers' hm)

/-- A member of an enumeration. -/
def memberElement (name value : Option String) : Element :=
  .mk ⟨some coreNamespace, "member"⟩
    ((name.map fun n => ⟨⟨none, "name"⟩, n⟩).toList ++
      (value.map fun v => ⟨⟨none, "value"⟩, v⟩).toList) []

/-- Members with one identifier among them for each of the three reasons. -/
def collidingMembers : List Element :=
  [memberElement (some "ß") (some "1"), memberElement (some "ss") (some "2"),
    memberElement (some "2d") (some "it's"), memberElement (some "_2D") (some "4"),
    memberElement (some "ß") (some "5")]

/-- A bitfield with these members behind one of the same name that has no value. -/
def collidingBitfield : Element :=
  coreElement "bitfield" (some "Mode") (memberElement (some "SS") none :: collidingMembers)

/-- The first of each is declared, and the member without a value takes no place. -/
theorem text_of_collidingBitfield :
    collidingBitfield.attr? "name" = some "Mode" ∧
    collidingBitfield.coreChildren "member" = [] ++ memberElement (some "SS") none :: collidingMembers ∧
    (memberElement (some "SS") none).attr? "value" = none ∧
    collidingBitfield.enumerationRecord =
      (coreElement "bitfield" (some "Mode") collidingMembers).enumerationRecord ∧
    ∃ record, collidingBitfield.enumerationRecord = .ok record ∧
      record.contents.text true =
        "export enum Mode \x7b\n    SS = '1',\n    _2D = 'it\\'s',\n\x7d" := by
  have hname : collidingBitfield.attr? "name" = some "Mode" := rfl
  obtain ⟨⟨record, hrecord, -, -, -, htext⟩, -, -, -, -, hsame⟩ :=
    enumeration_declares_each_identifier_once {} hname
  refine ⟨hname, rfl, rfl, ?_, record, hrecord, htext.trans ?_⟩
  · exact hsame _ [] collidingMembers (memberElement (some "SS") none) rfl rfl rfl rfl (.inr rfl)
  · decide +kernel

end GirTypings
