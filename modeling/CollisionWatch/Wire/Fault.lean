import CollisionWatch.Fault
import CollisionWatch.Json.Number
import CollisionWatch.Json.Record

/-!
# Faults in JSON

A fault is a variant named for its kind.  Its content is a record, a text, or nothing.
-/

namespace CollisionWatch.Wire

open Json

/-- The names of the fields of a missing motion. -/
def unresolvedFields : List String := ["timestamp", "target_frame", "source_frame"]

/-- A fault as a value. -/
def ofFault (f : Fault) : Value :=
  match f with
  | .unresolved time target source =>
    .ofMembers [(f.kind, .ofMembers [("timestamp", .ofDouble time),
      ("target_frame", .string target), ("source_frame", .string source)])]
  | .invalidConfiguration reason | .undelivered reason | .serialization reason | .io reason =>
    .ofMembers [(f.kind, .string reason)]
  | .poisonedStatus => .string f.kind

/-- The content of a missing motion. -/
def unresolved? (v : Value) : Option Fault := do
  let [some time, some target, some source] ← v.fields? unresolvedFields | none
  return .unresolved (← time.double?) (← target.text?) (← source.text?)

/-- The fault of a value. -/
def fault? (v : Value) : Option Fault := do
  match ← v.variant? with
  | ("TransformUnavailable", some content) => unresolved? content
  | ("ConfigurationInvalid", some content) => content.text?.map .invalidConfiguration
  | ("PublishFailure", some content) => content.text?.map .undelivered
  | ("Serialization", some content) => content.text?.map .serialization
  | ("Io", some content) => content.text?.map .io
  | ("StatusPoisoned", content) =>
    if Value.isNoContent content then some .poisonedStatus else none
  | _ => none

end CollisionWatch.Wire
