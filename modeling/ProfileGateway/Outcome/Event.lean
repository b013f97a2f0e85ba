import ProfileGateway.Outcome.Failure
import ProfileGateway.Outcome.Status
import ProfileGateway.Uuid
/-!
# Log events

What the gateway logs, as causes; level, message and fields of each are given by functions. Events that belong to
a call carry its request id as a field. Events inside an operation are recorded under the operation's span.
-/
namespace ProfileGateway

inductive Level
  | error
  | warn
  | info
  | debug
deriving DecidableEq, Repr

def Level.name : Level → String
  | error => "ERROR"
  | warn => "WARN"
  | info => "INFO"
  | debug => "DEBUG"

/-- How urgent an operation is; each kind has its own timeout. -/
inductive OperationKind
  | command
  | query
  | default
deriving DecidableEq, Repr

namespace OperationKind

def name : OperationKind → String
  | command => "command"
  | query => "query"
  | default => "default"

def all : List OperationKind := [command, query, default]

def ofName? (s : String) : Option OperationKind := all.find? fun k => k.name = s

end OperationKind

/-- What is logged of one call, under its request id. -/
inductive CallEvent
  | profileUpdated (user : Uuid) (version : Int64)
  | deadlineExceeded (kind : OperationKind)
  | failed (status : Status)
  | remark (level : Level) (text : String)
deriving DecidableEq, Repr

namespace CallEvent

def level : CallEvent → Level
  | profileUpdated _ _ => .info
  | deadlineExceeded _ => .warn
  | failed _ => .debug
  | remark level _ => level

def message : CallEvent → String
  | profileUpdated user version =>
    "profile " ++ user.print ++ " updated to version " ++ Decimal.signedText version.toInt
  | deadlineExceeded kind => "deadline exceeded for " ++ kind.name ++ " call"
  | failed status => "call failed: " ++ status.render
  | remark _ text => text

end CallEvent

inductive Event
  /-- An identity header names no subject. -/
  | identityUnusable
  | writeRejected (detail : String)
  | collaboratorFailed (detail : String)
  /-- A secondary source knows nothing about a batch of ids. -/
  | noSecondaryData (source : String) (ids : Nat)
  | lookupFailed (source : String) (kind : FailureKind) (detail : String)
  | ofCall (requestId : String) (event : CallEvent)
deriving DecidableEq, Repr

/-- The value of a field of an event. -/
inductive FieldValue
  | text (s : String)
  | count (n : Nat)
deriving DecidableEq, Repr

namespace Event

def level : Event → Level
  | identityUnusable => .debug
  | writeRejected _ => .warn
  | collaboratorFailed _ => .error
  | noSecondaryData _ _ => .debug
  | lookupFailed _ _ _ => .error
  | ofCall _ e => e.level

def message : Event → String
  | identityUnusable => "identity header present but unusable"
  | writeRejected _ => "conditional write rejected"
  | collaboratorFailed _ => "collaborator failure"
  | noSecondaryData _ _ => "secondary source has no data for batch"
  | lookupFailed _ _ _ => "secondary lookup failed"
  | ofCall _ e => e.message

def fields : Event → List (String × FieldValue)
  | identityUnusable => []
  | writeRejected detail => [("detail", .text detail)]
  | collaboratorFailed detail => [("detail", .text detail)]
  | noSecondaryData source ids => [("source", .text source), ("ids", .count ids)]
  | lookupFailed source kind detail =>
    [("source", .text source), ("kind", .text kind.name), ("detail", .text detail)]
  | ofCall requestId _ => [("request_id", .text requestId)]

end Event

/-- The operation that events belong to. -/
structure Span where
  requestId : String
  operation : String
  kind : OperationKind
deriving DecidableEq, Repr

def Span.name : String := "rpc"

end ProfileGateway
