import Telemetry.Json.Writer

/-!
# Context data

The free-form part of events is an object whose fields are objects in their turn: `request`, `db`,
`destination` and so on. Labels are a flat object of their own, which events carry as the field
`tags`.

A call to another service names its destination in `destination.service.resource`. Where nobody set
it, it follows from the kind of call: the database instance or the message queue if one is named,
after a slash, and else the kind alone.

## Main definitions

* `ContextData.merge`: fields added to the object under a key.
* `ContextData.destination?`, `ContextData.resourceFor`, `ContextData.fillResource`.
* `Label.key`, `Label.value`: labels as they are stored.
* `ContextData.withTags`, `ContextData.report`.
-/

namespace Telemetry

namespace Label

/-- So many characters of a text are kept. -/
def sizeLimit : Nat := 1024

/-- A key with the characters that the backend cannot search by replaced. -/
def key (s : String) : String :=
  String.ofList (s.toList.map fun c => if c = '.' || c = '*' || c = '"' then '_' else c)

/-- The first characters of a text. -/
def truncate (s : String) : String :=
  String.ofList (s.toList.take sizeLimit)

/-- A value as it is stored: texts are cut, and arrays and objects become texts. -/
def value : Json → Json
  | .str s => .str (truncate s)
  | .arr items => .str (truncate (Json.arr items).compact)
  | .obj fields => .str (truncate (Json.obj fields).compact)
  | v => v

/-- The labels with one more. -/
def put (k : String) (v : Json) (labels : Fields) : Fields :=
  labels.set (key k) (value v)

end Label

namespace ContextData

/-- The context with `data` added to the object under `key`. A value of another kind makes way. -/
def merge (key : String) (data : Fields) (context : Fields) : Fields :=
  match context.get? key with
  | some (.obj existing) => context.set key (.obj (Fields.extend existing data))
  | _ => context.set key (.obj data)

/-- The text at the end of a path of keys. -/
def text? (path : List String) (context : Fields) : Option String :=
  (Json.at? path (.obj context)).bind Json.str?

/-- The destination that the context names. -/
def destination? (context : Fields) : Option String :=
  text? ["destination", "service", "resource"] context

/-- The destination of a call of some kind. -/
def resourceFor (context : Fields) (kind : String) (subtype : Option String) : String :=
  match destination? context with
  | some resource => resource
  | none =>
    let kind := subtype.getD kind
    match text? ["db", "instance"] context with
    | some database => kind ++ "/" ++ database
    | none =>
      match text? ["message", "queue", "name"] context with
      | some queue => kind ++ "/" ++ queue
      | none => kind

/-- The object under a key; empty if there is none. -/
def objectAt (key : String) (fields : Fields) : Fields :=
  ((fields.get? key).bind Json.fields?).getD []

/-- The context of a call with its destination filled in. -/
def fillResource (context : Fields) (kind : String) (subtype : Option String) : Fields :=
  match destination? context with
  | some _ => context
  | none =>
    let destination := objectAt "destination" context
    let service := (objectAt "service" destination).set "resource"
      (.str (resourceFor context kind subtype))
    context.set "destination" (.obj (destination.set "service" (.obj service)))

/-- The context with the labels in it, if there are any. -/
def withTags (labels : Fields) (context : Fields) : Fields :=
  if labels.isEmpty then context else context.set "tags" (.obj labels)

/-- The context as a record carries it: not at all if it is empty. -/
def report (context : Fields) : Option Fields :=
  if context.isEmpty then none else some context

end ContextData

end Telemetry
