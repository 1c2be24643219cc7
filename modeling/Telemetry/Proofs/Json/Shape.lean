import Mathlib.Data.List.Forall2
import Mathlib.Data.List.Nodup
import Telemetry.Event.Line
import Telemetry.Proofs.Json.RoundTrip

/-!
# The shape of what is read

A shape says which fields an object has, and what their values are or which shape they have in
their turn. It is a table with every name that may occur, and leaves out what is not there. An
object fits it if it has the fields of the table and no others, each of them once, in any order.

An event writes its fields in a fixed order, some of them only if there is something to write. What
is read from its text has the fields in the order of their names. `Json.Shape.Writes` relates a
table to the fields as they are written, one by one, and from there
`Json.Shape.Writes.fits_readBack` passes to what is read.

## Main definitions

* `Json.Shape`, `Json.Shape.Fits`: a value has the fields of a shape, and what belongs in them.
* `Json.Shape.Writes`: fields that are written in the order of a table.

## Main results

* `Fields.perm_ofList`: pairs with different keys are the fields of an object, in some order.
* `Json.Shape.Writes.fits_readBack`: what is written by a table is read as an object that fits it.
* `Json.Shape.Fits.isSome_get?`: where an object fits a table, a field is there exactly when the
  table says so.
-/

namespace Telemetry

/-! ### Fields in another order -/

namespace Fields

variable {key : String} {value : Json} {fields other : Fields}

/-- A field that was not there yet is one more. -/
theorem perm_set (h : key ∉ fields.map (·.1)) :
    (fields.set key value).Perm ((key, value) :: fields) := by
  induction fields with
  | nil => exact .refl _
  | cons f rest ih =>
    obtain ⟨hne, hrest⟩ := not_or.mp (List.mem_cons.not.mp h)
    rw [set, if_neg (Ne.symm hne)]
    split
    · exact .refl _
    · exact ((ih hrest).cons f).trans (.swap _ _ _)

theorem perm_extend (h : ((fields ++ other).map (·.1)).Nodup) :
    (fields.extend other).Perm (fields ++ other) := by
  induction other generalizing fields with
  | nil => simp [extend]
  | cons f rest ih =>
    have hmiddle : (fields ++ f :: rest).Perm (f :: fields ++ rest) := List.perm_middle
    have hnodup : ((f :: fields ++ rest).map (·.1)).Nodup := (hmiddle.map _).nodup_iff.mp h
    have hfresh : f.1 ∉ fields.map (·.1) := fun hmem =>
      (List.nodup_cons.mp hnodup).1 (List.map_append ▸ List.mem_append_left _ hmem)
    have hset : (fields.set f.1 f.2 ++ rest).Perm (f :: fields ++ rest) :=
      (perm_set hfresh).append_right rest
    exact ((ih ((hset.map _).nodup_iff.mpr hnodup)).trans hset).trans hmiddle.symm

/-- **Pairs with different keys are the fields of an object**, in some order. -/
theorem perm_ofList (h : (fields.map (·.1)).Nodup) : (ofList fields).Perm fields :=
  perm_extend h

theorem isSome_get?_iff : (fields.get? key).isSome ↔ key ∈ fields.map (·.1) := by
  induction fields with
  | nil => simp
  | cons f rest ih =>
    rw [get?, List.map_cons, List.mem_cons]
    by_cases hk : f.1 = key
    · simp [hk]
    · simp [hk, Ne.symm hk, ih]

end Fields

namespace Json

theorem readBackItems_eq_map (items : List Json) : readBackItems items = items.map readBack := by
  induction items with
  | nil => rfl
  | cons v rest ih => rw [readBackItems, ih, List.map_cons]

theorem readBackFields_eq_map (fields : Fields) :
    readBackFields fields = fields.map fun f => (f.1, f.2.readBack) := by
  induction fields with
  | nil => rfl
  | cons f rest ih => rw [readBackFields, ih, List.map_cons]

/-! ### Shapes -/

/-- What there is to be found: one value, a list or an object. A field of an object that is not
there has no shape. -/
inductive Shape
  | value (v : Json)
  | list (items : List Shape)
  | object (table : List (String × Option Shape))

namespace Shape

/-- What is read of a value, after it was written. -/
def read (v : Json) : Shape := .value v.readBack

/-- What is read of a value that may be missing. -/
def read? {α : Type} (toJson : α → Json) (value : Option α) : Option Shape :=
  value.map fun a => read (toJson a)

/-- A list, if there is anything in it. -/
def list? : List Shape → Option Shape
  | [] => none
  | items => some (.list items)

/-- The fields of a table that are there. -/
def present (table : List (String × Option Shape)) : List (String × Shape) :=
  table.filterMap fun entry => entry.2.map (entry.1, ·)

theorem mem_present {name : String} {shape : Shape} {table : List (String × Option Shape)} :
    (name, shape) ∈ present table ↔ (name, some shape) ∈ table := by
  simp [present]

theorem map_present_sublist (table : List (String × Option Shape)) :
    ((present table).map (·.1)).Sublist (table.map (·.1)) := by
  induction table with
  | nil => exact .slnil
  | cons entry rest ih =>
    obtain ⟨name, _ | shape⟩ := entry
    · exact ih.cons name
    · exact ih.cons_cons name

/-- A value is the one of a shape, or it has the fields of the shape and no others; and its lists
are as long as those of the shape. -/
inductive Fits : Shape → Json → Prop
  | value (v : Json) : Fits (.value v) v
  | list {shapes : List Shape} {items : List Json} (h : List.Forall₂ Fits shapes items) :
      Fits (.list shapes) (.arr items)
  | object {table : List (String × Option Shape)} {fields : Fields}
      (names : (fields.map (·.1)).Perm ((present table).map (·.1)))
      (values : ∀ name shape v, (name, shape) ∈ present table → (name, v) ∈ fields →
        Fits shape v) :
      Fits (.object table) (.obj fields)

/-- The fields are those of the table, in its order, and what is read of each fits its shape. -/
def Writes (table : List (String × Option Shape)) (fields : Fields) : Prop :=
  List.Forall₂ (fun entry f => entry.1 = f.1 ∧ entry.2.Fits f.2.readBack) (present table) fields

variable {α : Type} {name : String} {shape : Shape} {v : Json}
  {table : List (String × Option Shape)} {fields : Fields}

namespace Writes

theorem nil : Writes [] [] := List.Forall₂.nil

/-- A field that is always there. -/
theorem field (hv : shape.Fits v.readBack) (h : Writes table fields) :
    Writes ((name, some shape) :: table) ((name, v) :: fields) :=
  .cons ⟨rfl, hv⟩ h

theorem field_read (h : Writes table fields) :
    Writes ((name, some (read v)) :: table) ((name, v) :: fields) :=
  .field (.value v.readBack) h

/-- A field that is there only if its value is. -/
theorem optional {toShape : α → Shape} {toJson : α → Json} {value : Option α}
    (hv : ∀ a, (toShape a).Fits (toJson a).readBack) (h : Writes table fields) :
    Writes ((name, value.map toShape) :: table) (optionalField name toJson value ++ fields) := by
  cases value with
  | none => exact h
  | some a => exact .field (hv a) h

theorem optional_read {toJson : α → Json} {value : Option α} (h : Writes table fields) :
    Writes ((name, read? toJson value) :: table) (optionalField name toJson value ++ fields) :=
  .optional (fun a => .value (toJson a).readBack) h

/-- A field that is there only if its list is not empty. -/
theorem list {shapes : List Shape} {toJson : α → Json} {items : List α}
    (hitems : List.Forall₂ (fun shape a => shape.Fits (toJson a).readBack) shapes items)
    (h : Writes table fields) :
    Writes ((name, list? shapes) :: table) (listField name toJson items ++ fields) := by
  cases hitems with
  | nil => exact h
  | @cons shape a shapes items ha hrest =>
    refine .field ?_ h
    rw [readBack, readBackItems_eq_map, List.map_map]
    exact .list (List.forall₂_map_right_iff.mpr (.cons ha hrest))

theorem list_map {toShape : α → Shape} {toJson : α → Json} {items : List α}
    (hitem : ∀ a, (toShape a).Fits (toJson a).readBack) (h : Writes table fields) :
    Writes ((name, list? (items.map toShape)) :: table) (listField name toJson items ++ fields) :=
  .list (List.forall₂_map_left_iff.mpr (List.forall₂_same.mpr fun a _ => hitem a)) h

/-- The last field is like the others, with nothing after it. -/
theorem last (h : Writes table (fields ++ [])) : Writes table fields :=
  List.append_nil fields ▸ h

theorem map_name (h : Writes table fields) :
    fields.map (·.1) = (present table).map (·.1) := by
  have hnames : List.Forall₂ (· = ·) ((present table).map (·.1)) (fields.map (·.1)) :=
    List.forall₂_map_left_iff.mpr (List.forall₂_map_right_iff.mpr (h.imp fun _ _ he => he.1))
  exact (List.forall₂_eq_eq_eq ▸ hnames :).symm

theorem exists_of_mem {f : String × Json} (h : Writes table fields) (hf : f ∈ fields) :
    ∃ entry ∈ present table, entry.1 = f.1 ∧ entry.2.Fits f.2.readBack := by
  obtain ⟨i, hi, rfl⟩ := List.getElem_of_mem hf
  have hi' : i < (present table).length := List.Forall₂.length_eq h ▸ hi
  exact ⟨(present table)[i], List.getElem_mem hi', List.Forall₂.get h hi' hi⟩

/-- **What is written by a table is read as an object that fits it.** -/
theorem fits_readBack (hnodup : (table.map (·.1)).Nodup) (h : Writes table fields) :
    (Shape.object table).Fits (Json.obj fields).readBack := by
  have hpresent : ((present table).map (·.1)).Nodup :=
    hnodup.sublist (map_present_sublist table)
  have hread : (Fields.ofList (readBackFields fields)).Perm
      (fields.map fun f => (f.1, f.2.readBack)) := by
    rw [readBackFields_eq_map]
    refine Fields.perm_ofList ?_
    rw [List.map_map]
    exact h.map_name ▸ hpresent
  refine .object ?_ fun name shape v hshape hv => ?_
  · refine (hread.map _).trans ?_
    rw [List.map_map]
    exact .of_eq h.map_name
  · obtain ⟨f, hf, heq⟩ := List.mem_map.mp (hread.mem_iff.mp hv)
    obtain ⟨hname, rfl⟩ := Prod.mk.inj heq
    obtain ⟨entry, hentry, hsame, hfits⟩ := h.exists_of_mem hf
    have hone : entry = (name, shape) :=
      List.inj_on_of_nodup_map hpresent hentry hshape (hsame.trans hname)
    rwa [hone] at hfits

end Writes

/-- **A field is there exactly when its table says so.** -/
theorem Fits.isSome_get? {entry : Option Shape} (h : (Shape.object table).Fits v)
    (hnodup : (table.map (·.1)).Nodup) (hentry : (name, entry) ∈ table) :
    (v.get? name).isSome = entry.isSome := by
  cases h with
  | @object _ fields names _ =>
    have hpresent : name ∈ (present table).map (·.1) ↔ entry.isSome := by
      rw [List.mem_map, Option.isSome_iff_exists]
      constructor
      · rintro ⟨⟨_, shape⟩, hmem, rfl⟩
        have hsame := List.inj_on_of_nodup_map hnodup hentry (mem_present.mp hmem) rfl
        exact ⟨shape, (Prod.mk.inj hsame).2⟩
      · rintro ⟨shape, rfl⟩
        exact ⟨(name, shape), mem_present.mpr hentry, rfl⟩
    rw [Bool.eq_iff_iff, ← hpresent, ← names.mem_iff]
    exact Fields.isSome_get?_iff

end Shape

end Json

end Telemetry
