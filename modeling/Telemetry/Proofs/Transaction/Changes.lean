import Mathlib.Data.List.Infix
import Telemetry.Proofs.Agent.Turns

/-!
# What changes add up to

The details of a transaction are changed one after the other, and only what they add up to is
reported. A text that is set replaces the one before; links are collected; a label replaces the
label of its key; and objects that are set under one key of the context are merged, a later field
winning over an earlier one.

Two keys of labels are one if the backend cannot tell them apart: it cannot search by some
characters, and an underscore stands for each of them. Of a long text only the beginning is kept,
and a list or an object is kept as a text.

## Main definitions

* `TransactionChange.name?` and the like: what a change says about one part of the details.
* `Label.searchable`, `Label.Keeps`: which key a label has in the end, and what is kept of its value.
* `Fields.union`: objects merged in order.
* `Fields.Carries`: a context as it is reported, beside the changes.

## Main results

* `Details.last_afterAll`: the last change to some part counts.
* `Details.get?_context_afterAll`: objects are merged.
* `Details.carries_fullContext`: what the context reports.
-/

namespace Telemetry

/-! ### Labels as they are kept -/

namespace Label

/-- The character that stands in a key for another one. -/
def searchable : Char → Char
  | '.' | '*' | '"' => '_'
  | c => c

/-- What is kept of a value: the first 1024 characters of a text and of the text of a list or an
object, and everything else as it is. -/
inductive Keeps : Json → Json → Prop
  | null : Keeps .null .null
  | bool (b : Bool) : Keeps (.bool b) (.bool b)
  | num (n : Json.Number) : Keeps (.num n) (.num n)
  | str {s kept : String} (h : kept.toList = s.toList.take 1024) : Keeps (.str s) (.str kept)
  | arr {items : List Json} {kept : String}
      (h : kept.toList = (Json.arr items).compact.toList.take 1024) : Keeps (.arr items) (.str kept)
  | obj {fields : Fields} {kept : String}
      (h : kept.toList = (Json.obj fields).compact.toList.take 1024) :
      Keeps (.obj fields) (.str kept)

/-- Keys are kept character by character. -/
theorem key_eq_iff {k key : String} : Label.key k = key ↔ k.toList.map searchable = key.toList := by
  have hchar (c : Char) : (if c = '.' || c = '*' || c = '"' then '_' else c) = searchable c := by
    fun_cases searchable c with
    | case1 | case2 | case3 => rfl
    | case4 _ hdot hstar hquote =>
      rw [if_neg]
      simp only [Bool.or_eq_true, decide_eq_true_eq, not_or]
      exact ⟨⟨hdot, hstar⟩, hquote⟩
  rw [Label.key, funext hchar, ← String.toList_inj, String.toList_ofList]

/-- A value is kept as it is stored, and in no other way. -/
theorem keeps_iff {v kept : Json} : Keeps v kept ↔ kept = Label.value v := by
  have htext {s kept : String} : kept.toList = s.toList.take 1024 ↔ kept = Label.truncate s := by
    rw [← String.toList_inj, Label.truncate, String.toList_ofList, Label.sizeLimit]
  constructor
  · rintro (_ | _ | _ | h | h | h)
    case null | bool | num => rfl
    case str | arr | obj => exact congrArg Json.str (htext.mp h)
  · rintro rfl
    cases v with
    | null => exact .null
    | bool b => exact .bool b
    | num n => exact .num n
    | str s => exact .str (htext.mpr rfl)
    | arr items => exact .arr (htext.mpr rfl)
    | obj fields => exact .obj (htext.mpr rfl)

theorem rel_keeps_iff {value? kept? : Option Json} :
    Option.Rel Keeps value? kept? ↔ kept? = value?.map Label.value := by
  constructor
  · rintro (h | _)
    · exact congrArg some (keeps_iff.mp h)
    · rfl
  · rintro rfl
    cases value? with
    | none => exact .none
    | some v => exact .some (keeps_iff.mpr rfl)

end Label

/-! ### Changes, part by part -/

namespace TransactionChange

/-- The name that is set. -/
def name? : TransactionChange → Option String
  | .name text => some text
  | _ => none

/-- The result that is set. -/
def result? : TransactionChange → Option String
  | .result text => some text
  | _ => none

/-- The outcome that is set. -/
def outcome? : TransactionChange → Option Outcome
  | .outcome o => some o
  | _ => none

/-- The link that is added. -/
def link? : TransactionChange → Option Link
  | .link l => some l
  | _ => none

/-- The object that is set under a key of the context. -/
def object? (key : String) : TransactionChange → Option Fields
  | .context k data => if k = key then some data else none
  | _ => none

/-- The label that is set under a searchable key. -/
def label? (key : String) : TransactionChange → Option Json
  | .label k value => if k.toList.map Label.searchable = key.toList then some value else none
  | _ => none

/-- An object is set under some key. -/
def setsObject : TransactionChange → Bool
  | .context _ _ => true
  | _ => false

/-- Some label is set. -/
def setsLabel : TransactionChange → Bool
  | .label _ _ => true
  | _ => false

/-- The object that is set has one field to a key. -/
def IsProper : TransactionChange → Prop
  | .context _ data => (data.map (·.1)).Nodup
  | _ => True

end TransactionChange

/-! ### Objects -/

namespace Fields

variable {fields data : Fields} {objects : List Fields}

theorem set_ne_nil (key : String) (value : Json) (fields : Fields) : fields.set key value ≠ [] := by
  cases fields with
  | nil => simp [set]
  | cons f rest =>
    simp only [set]
    split
    · simp
    · split <;> simp

theorem get?_eq_none_of_not_mem {key : String} (h : key ∉ fields.map (·.1)) :
    fields.get? key = none := by
  induction fields with
  | nil => rfl
  | cons f rest ih =>
    obtain ⟨hf, hrest⟩ : key ≠ f.1 ∧ key ∉ rest.map (·.1) := by simpa using h
    rw [get?, if_neg (Ne.symm hf), ih hrest]

/-- A field that is set on top of others wins. -/
theorem get?_extend (hdata : (data.map (·.1)).Nodup) (fields : Fields) (key : String) :
    (fields.extend data).get? key = (data.get? key).or (fields.get? key) := by
  induction data generalizing fields with
  | nil => rfl
  | cons f rest ih =>
    obtain ⟨hf, hrest⟩ := List.nodup_cons.mp (List.map_cons ▸ hdata)
    have hstep : fields.extend (f :: rest) = (fields.set f.1 f.2).extend rest := rfl
    rw [hstep, ih hrest]
    by_cases hkey : f.1 = key
    · subst hkey
      rw [get?_eq_none_of_not_mem hf, get?_set_self]
      simp [get?]
    · rw [get?_set_of_ne (Ne.symm hkey)]
      simp [get?, hkey]

/-- Objects merged in order, each on top of those before. -/
def union : List Fields → Fields
  | [] => []
  | first :: rest => rest.foldl extend first

theorem union_concat (hne : objects ≠ []) (data : Fields) :
    union (objects ++ [data]) = (union objects).extend data := by
  cases objects with
  | nil => exact absurd rfl hne
  | cons first rest => simp [union]

/-- A field of merged objects is that of the last one that has it. -/
theorem get?_union (hobjects : ∀ data ∈ objects, (data.map (·.1)).Nodup) (key : String) :
    (union objects).get? key = objects.reverse.findSome? (·.get? key) := by
  induction objects using List.reverseRecOn with
  | nil => rfl
  | append_singleton objects data ih =>
    have hdata := hobjects data (by simp)
    have ih := ih fun data hdata => hobjects data (List.mem_append_left _ hdata)
    rw [List.reverse_append, List.reverse_singleton, List.singleton_append, List.findSome?_cons]
    cases objects with
    | nil => cases hget : data.get? key <;> simp [union, hget]
    | cons first rest =>
      rw [union_concat (List.cons_ne_nil _ _), get?_extend hdata, ih]
      cases data.get? key <;> rfl

end Fields

/-! ### Details -/

namespace Details

variable {d : Details} {changes : List TransactionChange} {c : TransactionChange}

/-- The details after some changes. -/
def afterAll (d : Details) (changes : List TransactionChange) : Details :=
  changes.foldl (fun d c => c.apply d) d

theorem afterAll_concat (d : Details) (changes : List TransactionChange) (c : TransactionChange) :
    d.afterAll (changes ++ [c]) = c.apply (d.afterAll changes) := by
  simp [afterAll]

/-- The last change to some part of the details counts. -/
theorem last_afterAll {α : Type} (part : Details → Option α) (set? : TransactionChange → Option α)
    (h : ∀ d c, part (c.apply d) = (set? c).or (part d)) (d : Details)
    (changes : List TransactionChange) :
    part (d.afterAll changes) = (changes.filterMap set?).getLast?.or (part d) := by
  induction changes using List.reverseRecOn with
  | nil => rfl
  | append_singleton changes c ih =>
    rw [afterAll_concat, h, ih, List.filterMap_append]
    cases hc : set? c <;> simp [hc]

theorem name_afterAll (d : Details) (changes : List TransactionChange) :
    (d.afterAll changes).name = (changes.filterMap (·.name?)).getLast?.getD d.name := by
  have hlast := last_afterAll (fun d => some d.name) (·.name?)
    (fun d c => by cases c <;> rfl) d changes
  cases hname : (changes.filterMap (·.name?)).getLast? <;> simpa [hname] using hlast

theorem result_afterAll (d : Details) (changes : List TransactionChange) :
    (d.afterAll changes).result = (changes.filterMap (·.result?)).getLast?.or d.result :=
  last_afterAll _ _ (fun d c => by cases c <;> rfl) d changes

theorem outcome_afterAll (d : Details) (changes : List TransactionChange) :
    (d.afterAll changes).outcome = (changes.filterMap (·.outcome?)).getLast?.or d.outcome :=
  last_afterAll _ _ (fun d c => by cases c <;> rfl) d changes

theorem links_afterAll (d : Details) (changes : List TransactionChange) :
    (d.afterAll changes).links = d.links ++ changes.filterMap (·.link?) := by
  induction changes using List.reverseRecOn with
  | nil => exact (List.append_nil _).symm
  | append_singleton changes c ih =>
    rw [afterAll_concat, List.filterMap_append, ← List.append_assoc, ← ih]
    cases c <;> simp [TransactionChange.apply, TransactionChange.link?]

theorem get?_labels_afterAll (d : Details) (changes : List TransactionChange) (key : String) :
    (d.afterAll changes).labels.get? key =
      ((changes.filterMap (·.label? key)).getLast?.map Label.value).or (d.labels.get? key) := by
  rw [← List.getLast?_map, List.map_filterMap]
  refine last_afterAll (fun d => d.labels.get? key) (fun c => (c.label? key).map Label.value)
    (fun d c => ?_) d changes
  cases c with
  | label k value =>
    by_cases hk : Label.key k = key
    · have hsame := Label.key_eq_iff.mp hk
      subst hk
      simp [TransactionChange.apply, TransactionChange.label?, Label.put, hsame]
    · have hother := mt Label.key_eq_iff.mpr hk
      simp [TransactionChange.apply, TransactionChange.label?, Label.put, hother,
        Fields.get?_set_of_ne (Ne.symm hk)]
  | name | result | outcome | context | link => rfl

theorem labels_afterAll_eq_nil_iff (hlabels : d.labels = []) :
    (d.afterAll changes).labels = [] ↔ changes.any (·.setsLabel) = false := by
  induction changes using List.reverseRecOn with
  | nil => simp [afterAll, hlabels]
  | append_singleton changes c ih =>
    rw [afterAll_concat]
    cases c with
    | label k value =>
      simp [TransactionChange.apply, TransactionChange.setsLabel, Label.put, Fields.set_ne_nil]
    | name | result | outcome | context | link =>
      simpa [TransactionChange.apply, TransactionChange.setsLabel] using ih

theorem merge_ne_nil (key : String) (data context : Fields) :
    ContextData.merge key data context ≠ [] := by
  unfold ContextData.merge
  split <;> exact Fields.set_ne_nil _ _ _

theorem context_afterAll_eq_nil_iff (hcontext : d.context = []) :
    (d.afterAll changes).context = [] ↔ changes.any (·.setsObject) = false := by
  induction changes using List.reverseRecOn with
  | nil => simp [afterAll, hcontext]
  | append_singleton changes c ih =>
    rw [afterAll_concat]
    cases c with
    | context key data =>
      simp [TransactionChange.apply, TransactionChange.setsObject, merge_ne_nil]
    | name | result | outcome | label | link =>
      simpa [TransactionChange.apply, TransactionChange.setsObject] using ih

theorem get?_merge_of_ne {key other : String} (h : other ≠ key) (data context : Fields) :
    (ContextData.merge key data context).get? other = context.get? other := by
  unfold ContextData.merge
  split <;> exact Fields.get?_set_of_ne h _ _

/-- **Objects are merged**, key by key. -/
theorem get?_context_afterAll (hcontext : d.context = []) (key : String) :
    (d.afterAll changes).context.get? key =
      match changes.filterMap (·.object? key) with
      | [] => none
      | first :: rest => some (.obj (Fields.union (first :: rest))) := by
  induction changes using List.reverseRecOn with
  | nil => simp [afterAll, hcontext]
  | append_singleton changes c ih =>
    rw [afterAll_concat, List.filterMap_append]
    cases c with
    | context k data =>
      by_cases hk : k = key
      · subst hk
        have hself : [TransactionChange.context k data].filterMap (·.object? k) = [data] := by
          simp [TransactionChange.object?]
        rw [hself]
        cases hobjects : changes.filterMap (·.object? k) with
        | nil =>
          rw [hobjects] at ih
          simp only [TransactionChange.apply, ContextData.merge, ih, Fields.get?_set_self]
          rfl
        | cons first rest =>
          rw [hobjects] at ih
          simp only [TransactionChange.apply, ContextData.merge, ih, Fields.get?_set_self]
          rw [← Fields.union_concat (List.cons_ne_nil _ _)]
          rfl
      · simp only [TransactionChange.apply, get?_merge_of_ne (Ne.symm hk), ih]
        simp [TransactionChange.object?, hk]
    | name | result | outcome | label | link =>
      simpa [TransactionChange.apply, TransactionChange.object?] using ih

end Details

/-! ### What is reported -/

/-- A context carries what changes add up to. -/
structure Fields.Carries (context : Fields) (changes : List TransactionChange) : Prop where
  /-- Labels, if there are any, take the place of what was set under `tags`. Of those with one
  searchable key the last one counts, as far as it is kept. -/
  tags : changes.any (·.setsLabel) = true →
    ∃ tags : Fields, context.get? "tags" = some (.obj tags) ∧
      ∀ key, Option.Rel Label.Keeps (changes.filterMap (·.label? key)).getLast? (tags.get? key)
  /-- Nothing is there under any other key where nothing was set, -/
  absent : ∀ key, (key = "tags" → changes.any (·.setsLabel) = false) →
    changes.filterMap (·.object? key) = [] → context.get? key = none
  /-- and the union of all objects where some were. A field is that of the last object that has
  it. -/
  merged : ∀ key, (key = "tags" → changes.any (·.setsLabel) = false) →
    changes.filterMap (·.object? key) ≠ [] →
      ∃ object : Fields, context.get? key = some (.obj object) ∧
        ∀ field, object.get? field =
          (changes.filterMap (·.object? key)).reverse.findSome? (·.get? field)

namespace Details

variable {d : Details} {changes : List TransactionChange}

/-- Beside the labels, the context is reported as it is. -/
theorem get?_fullContext {key : String} (h : key = "tags" → d.labels = []) :
    d.fullContext.get? key = d.context.get? key := by
  unfold fullContext ContextData.withTags
  split
  · rfl
  · rename_i hlabels
    refine Fields.get?_set_of_ne (fun hkey => hlabels ?_) _ _
    rw [h hkey]
    rfl

/-- **What the context reports** is what the changes add up to. -/
theorem carries_fullContext (hcontext : d.context = []) (hlabels : d.labels = [])
    (hproper : ∀ c ∈ changes, c.IsProper) :
    (d.afterAll changes).fullContext.Carries changes where
  tags := by
    intro hany
    have hsome : (d.afterAll changes).labels ≠ [] := fun hnil => by
      rw [(labels_afterAll_eq_nil_iff hlabels).mp hnil] at hany
      cases hany
    refine ⟨(d.afterAll changes).labels, ?_, fun key => ?_⟩
    · simp [fullContext, ContextData.withTags, hsome]
    · rw [Label.rel_keeps_iff, get?_labels_afterAll, hlabels, Fields.get?_nil, Option.or_none]
  absent := by
    intro key hkey hnone
    rw [get?_fullContext fun h => (labels_afterAll_eq_nil_iff hlabels).mpr (hkey h),
      get?_context_afterAll hcontext, hnone]
  merged := by
    intro key hkey hsome
    have hobjects : ∀ data ∈ changes.filterMap (·.object? key), (data.map (·.1)).Nodup := by
      intro data hdata
      obtain ⟨c, hc, hobject⟩ := List.mem_filterMap.mp hdata
      have hc := hproper c hc
      cases c with
      | context k data' =>
        simp only [TransactionChange.object?] at hobject
        split at hobject
        · obtain rfl := Option.some.inj hobject
          exact hc
        · cases hobject
      | name | result | outcome | label | link => cases hobject
    refine ⟨Fields.union (changes.filterMap (·.object? key)), ?_, Fields.get?_union hobjects⟩
    rw [get?_fullContext fun h => (labels_afterAll_eq_nil_iff hlabels).mpr (hkey h),
      get?_context_afterAll hcontext]
    split
    · exact absurd ‹_› hsome
    · rename_i heq
      rw [heq]

/-- The context is left out if nothing was set. -/
theorem report_fullContext_eq_none_iff (hcontext : d.context = []) (hlabels : d.labels = []) :
    ContextData.report (d.afterAll changes).fullContext = none ↔
      changes.any (·.setsObject) = false ∧ changes.any (·.setsLabel) = false := by
  rw [← context_afterAll_eq_nil_iff hcontext, ← labels_afterAll_eq_nil_iff hlabels]
  cases hlabels : (d.afterAll changes).labels with
  | nil => simp [ContextData.report, fullContext, ContextData.withTags, hlabels]
  | cons f rest =>
    simp [ContextData.report, fullContext, ContextData.withTags, hlabels, Fields.set_ne_nil]

end Details

end Telemetry
