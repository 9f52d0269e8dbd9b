import Metasearch.Failure

/-!
# Outcomes

What happened to one source in one call: it delivered records, it answered without any, or it
failed.

## Main definitions

* `Status`, `Outcome`.
* `Outcome.ofCount`, `Outcome.failed`: the outcome of an answer and of a failure.
* `Outcome.errorLine?`, `errorLines?`: failures in words.
-/

namespace Metasearch

/-- How a source fared. -/
inductive Status where
  /-- It delivered records. -/
  | success (records : Nat)
  /-- It answered, and there was nothing in the answer. -/
  | empty
  /-- It failed. -/
  | error (kind : FailureKind) (cause : String)
deriving DecidableEq

/-- What happened to one source in one call. -/
structure Outcome where
  /-- The id of the source. -/
  source : String
  /-- How it fared. -/
  status : Status
  /-- The time it took, in milliseconds. -/
  elapsed : Nat
deriving DecidableEq

namespace Outcome

/-- The outcome of an answer with a number of records. -/
def ofCount (source : String) (records elapsed : Nat) : Outcome :=
  { source, status := if records = 0 then .empty else .success records, elapsed }

/-- The outcome of a failure. -/
def failed (source : String) (kind : FailureKind) (cause : String) (elapsed : Nat) : Outcome :=
  { source, status := .error kind cause, elapsed }

/-- The kind of the failure, if the source failed. -/
def failureKind? (o : Outcome) : Option FailureKind :=
  match o.status with
  | .error kind _ => some kind
  | _ => none

/-- Holds when the source failed. -/
def isError (o : Outcome) : Bool :=
  o.failureKind?.isSome

/-- The failure in words, if the source failed. -/
def errorLine? (o : Outcome) : Option String :=
  match o.status with
  | .error kind cause => some (o.source ++ ": " ++ kind.name ++ ": " ++ cause)
  | _ => none

/-- A status as the fields that it adds to its outcome. -/
def statusFields : Status → List (String × Data)
  | .success records => [("status", .text "success"), ("records", Data.ofNat records)]
  | .empty => [("status", .text "empty")]
  | .error kind cause =>
    [("status", .text "error"), ("kind", kind.encode), ("cause", .text cause)]

/-- An outcome as data: the fields of its status stand among its own. -/
def encode (o : Outcome) : Data :=
  .table (("source", .text o.source) :: statusFields o.status ++
    [("elapsed_ms", Data.ofNat o.elapsed)])

/-- The name of a status, or its place in the order of the names. -/
def statusName? : Data → Option String
  | .text s => some s
  | .int 0 => some "success"
  | .int 1 => some "empty"
  | .int 2 => some "error"
  | _ => none

/-- The status among the fields of an outcome other than its own. -/
def decodeStatus? (fields : List (String × Data)) : Option Status := do
  let tags := fields.filter fun f => f.1 == "status"
  let rest := Data.table (fields.filter fun f => f.1 != "status")
  match tags with
  | [(_, tag)] =>
    match ← statusName? tag with
    | "success" =>
      let f ← rest.fields? ["records"]
      return .success (← f.required? "records" Data.asNat?)
    | "empty" => return .empty
    | "error" =>
      let f ← rest.fields? ["kind", "cause"]
      return .error (← f.required? "kind" FailureKind.decode?) (← f.required? "cause" Data.asText?)
    | _ => none
  | _ => none

/-- The outcome that data denotes. Fields that belong to no status have to be readable all the
same. -/
def decode? : Data → Option Outcome
  | .table fields => do
    let own := ["source", "elapsed_ms"]
    let f ← (Data.table fields).fields? own
    let others := fields.filter fun e => !own.contains e.1
    if !Data.fieldsReadable others then none
    return {
      source := ← f.required? "source" Data.asText?
      status := ← decodeStatus? others
      elapsed := ← f.required? "elapsed_ms" Data.asNat? }
  | _ => none

end Outcome

/-- One line for each failure, or nothing when no source failed. -/
def errorLines? (outcomes : List Outcome) : Option (List String) :=
  match outcomes.filterMap Outcome.errorLine? with
  | [] => none
  | lines => some lines

end Metasearch
