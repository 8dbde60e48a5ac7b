import GirTypings.Proofs.Provenance

/-!
# What the order depends on

The passes look at names and parents only, so they commute with any change of what the
records contain (`order_map`).  The **outline** of a record is the record without
contents.  The outlines of a namespace do not depend on how names are printed or on
what is documented, and so neither do the names of what stalls, nor the imports.
-/

namespace GirTypings

namespace Registry

variable {α β : Type}

/-! ### Changing contents -/

theorem Record.isReady_map (f : α → β) (placed : List String) (r : Record α) :
    (r.map f).isReady placed = r.isReady placed := by
  rw [Record.isReady, Record.localParents_map]
  rfl

theorem pass_map (f : α → β) (placed : List String) (waiting : List (Record α)) :
    pass placed (waiting.map (Record.map f)) =
      ((pass placed waiting).1.map (Record.map f), (pass placed waiting).2.map (Record.map f)) := by
  induction waiting generalizing placed with
  | nil => rfl
  | cons r rest ih =>
    have hmap := r.isReady_map f placed
    cases h : r.isReady placed with
    | true => rw [List.map_cons, pass_cons_ready (hmap.trans h), pass_cons_ready h, ih]; rfl
    | false => rw [List.map_cons, pass_cons_waiting (hmap.trans h), pass_cons_waiting h, ih]; rfl

namespace Ordering

/-- The outcome for records with other contents. -/
def map (f : α → β) (o : Ordering α) : Ordering β :=
  ⟨o.placed.map (Record.map f), o.stalled.map (Record.map f)⟩

@[simp] theorem stalledNames_map (f : α → β) (o : Ordering α) :
    (o.map f).stalledNames = o.stalledNames := by
  rw [stalledNames, map, List.map_map]
  rfl

theorem emission_map (f : α → β) (o : Ordering α) :
    (o.map f).emission = o.emission.map (Record.map f) :=
  (List.map_append ..).symm

@[simp] theorem imports_map (f : α → β) (o : Ordering α) : (o.map f).imports = o.imports := by
  rw [imports, emission_map, List.flatMap_map]
  rfl

end Ordering

/-- The passes commute with a change of contents, by induction on the passes. -/
theorem arrange_map (f : α → β) (placed : List String) (waiting : List (Record α)) :
    arrange placed (waiting.map (Record.map f)) = (arrange placed waiting).map f := by
  fun_induction arrange placed waiting with
  | case1 placed waiting later h =>
    have hmap := pass_map f placed waiting
    rw [h] at hmap
    exact arrange_of_stuck hmap
  | case2 placed waiting r now later h _ further ih =>
    have hmap : pass placed (waiting.map (Record.map f)) =
        (r.map f :: now.map (Record.map f), later.map (Record.map f)) := by
      rw [pass_map, h]
      rfl
    have hnames : (r.map f :: now.map (Record.map f)).map Record.name =
        (r :: now).map Record.name := by
      simp [Function.comp_def]
    rw [arrange_of_progress hmap, hnames, ih]
    show _ = Ordering.mk ((r :: now ++ further.placed).map (Record.map f)) _
    rw [List.map_append]
    rfl

/-- A record without its contents. -/
def Record.outline (r : Record α) : Record Unit :=
  r.map fun _ => ()

theorem Record.outline_mk (name : String) (parents : List String) (contents : α) :
    Record.outline ⟨name, parents, contents⟩ = ⟨name, parents, ()⟩ := rfl

/-- **The order does not depend on contents.** -/
theorem order_map (f : α → β) (records : List (Record α)) :
    order (records.map (Record.map f)) = (order records).map f :=
  arrange_map f [] records

end Registry

/-! ### Outlines of a namespace -/

open Declaration Registry Xml

/-- The outline of a record is made of attributes alone. -/
theorem map_outline_record? (camel camel' : Bool) (e : Element) :
    (record? camel e).map Record.outline = (record? camel' e).map Record.outline := by
  rw [record?, record?, Element.toOption_classRecord, Element.toOption_classRecord]
  split
  · -- contents are dropped by rewriting, for the layouts are never to be compared
    simp only [Option.map_map, Function.comp_def, Record.outline_mk]
  · rfl

theorem map_outline_records (camel camel' : Bool) (e : Element) :
    (records camel e).map Record.outline = (records camel' e).map Record.outline := by
  rw [records, records, List.map_filterMap, List.map_filterMap]
  exact congrArg (e.children.filterMap ·)
    (funext fun child => map_outline_record? camel camel' child)

/-- What is imported and what stalls does not depend on the settings. -/
theorem order_outline (settings settings' : Settings) (e : Element) :
    (orderedRecords settings e).imports = (orderedRecords settings' e).imports ∧
      (orderedRecords settings e).stalledNames = (orderedRecords settings' e).stalledNames := by
  have h := congrArg order (map_outline_records settings.camel settings'.camel e)
  have hmap : ((orderedRecords settings e).map fun _ => ()) =
      (orderedRecords settings' e).map fun _ => () := by
    rw [orderedRecords, orderedRecords, ← order_map, ← order_map]
    exact h
  constructor
  · rw [← Ordering.imports_map fun _ => (), hmap, Ordering.imports_map]
  · rw [← Ordering.stalledNames_map fun _ => (), hmap, Ordering.stalledNames_map]

end GirTypings
