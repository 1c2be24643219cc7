/-!
# Structured values

Context data is a tree of JSON values. The fields of an object are kept in increasing order of their
keys, one field to a key; the operations on fields below keep it so. Whole numbers stay whole:
`1` and `1.0` are different values and are written differently.

## Main definitions

* `Json`, `Json.Number`: the values.
* `Fields`: the fields of an object, with `Fields.get?`, `Fields.set` and `Fields.extend`.
* `Json.Sorted`, `Fields.Sorted`: every object has its keys in strictly increasing order.
* `Json.at?`: the value at the end of a path of keys.
-/

namespace Telemetry

/-- A number: whole, or a double. -/
inductive Json.Number
  | int (n : Int)
  | float (x : Float)
  deriving DecidableEq

/-- A structured value. -/
inductive Json
  | null
  | bool (b : Bool)
  | num (n : Json.Number)
  | str (s : String)
  | arr (items : List Json)
  | obj (fields : List (String × Json))

/-- The fields of an object. -/
abbrev Fields := List (String × Json)

instance : Inhabited Json := ⟨.null⟩

namespace Fields

/-- The value under a key. -/
def get? (key : String) : Fields → Option Json
  | [] => none
  | (k, v) :: rest => if k = key then some v else get? key rest

/-- The fields with `value` under `key`, whatever was there before. -/
def set (key : String) (value : Json) : Fields → Fields
  | [] => [(key, value)]
  | (k, v) :: rest =>
    if k = key then (key, value) :: rest
    else if key < k then (key, value) :: (k, v) :: rest
    else (k, v) :: set key value rest

/-- The fields without `key`. -/
def erase (key : String) (fields : Fields) : Fields :=
  fields.filter (·.1 ≠ key)

/-- The fields with those of `other` set on top of them. -/
def extend (fields other : Fields) : Fields :=
  other.foldl (fun acc f => acc.set f.1 f.2) fields

/-- The fields of a list of pairs, of which a later one wins. -/
def ofList (pairs : List (String × Json)) : Fields :=
  extend [] pairs

end Fields

namespace Json

/-- The fields of an object. -/
def fields? : Json → Option Fields
  | .obj fields => some fields
  | _ => none

/-- The text of a string. -/
def str? : Json → Option String
  | .str s => some s
  | _ => none

/-- The items of an array. -/
def items? : Json → Option (List Json)
  | .arr items => some items
  | _ => none

/-- The value under a key of an object. -/
def get? (key : String) : Json → Option Json
  | .obj fields => Fields.get? key fields
  | _ => none

/-- The value at the end of a path of keys. -/
def at? : List String → Json → Option Json
  | [], v => some v
  | key :: path, v => (v.get? key).bind (at? path)

/-- Changes the value at the end of a path of keys; nothing happens if the path leads nowhere. -/
def modifyAt (f : Json → Json) : List String → Json → Json
  | [], v => f v
  | key :: path, .obj fields =>
    match Fields.get? key fields with
    | some v => .obj (Fields.set key (modifyAt f path v) fields)
    | none => .obj fields
  | _ :: _, v => v

mutual

/-- Every object in the value has its keys in strictly increasing order. -/
def Sorted : Json → Prop
  | .arr items => SortedItems items
  | .obj fields => (fields.map (·.1)).Pairwise (· < ·) ∧ SortedFields fields
  | _ => True

/-- Every value of a list is sorted. -/
def SortedItems : List Json → Prop
  | [] => True
  | v :: rest => v.Sorted ∧ SortedItems rest

/-- Every value under some key is sorted. -/
def SortedFields : List (String × Json) → Prop
  | [] => True
  | (_, v) :: rest => v.Sorted ∧ SortedFields rest

end

end Json

/-! ### Reading back what was set -/

namespace Fields

@[simp]
theorem get?_nil (key : String) : get? key [] = none := rfl

@[simp]
theorem get?_set_self (key : String) (value : Json) (fields : Fields) :
    (fields.set key value).get? key = some value := by
  induction fields with
  | nil => simp [set, get?]
  | cons f rest ih =>
    simp only [set]
    split
    · simp [get?]
    · split
      · simp [get?]
      · simp_all [get?]

theorem get?_set_of_ne {key other : String} (h : other ≠ key) (value : Json) (fields : Fields) :
    (fields.set key value).get? other = fields.get? other := by
  induction fields with
  | nil => simp [set, get?, h.symm]
  | cons f rest ih =>
    simp only [set]
    split
    · rename_i hk
      simp [get?, hk, h.symm]
    · split
      · simp [get?, h.symm]
      · simp [get?, ih]

end Fields

end Telemetry
