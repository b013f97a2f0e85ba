import ProfileGateway.Caller.Metadata
import ProfileGateway.Deadline.Timeout
/-!
# Call contexts

What is handed on with every call to a collaborator: the request id, the metadata and the deadline. Contexts are
derived, never changed. A deadline only moves to an earlier instant, and empty metadata neither attaches nor
erases anything.
-/
namespace ProfileGateway

structure Context where
  requestId : String
  metadata : Option Metadata
  deadline : Option Instant
deriving DecidableEq

namespace Context

/-- The context of a call that begins. -/
def root (requestId : String) : Context := ⟨requestId, none, none⟩

/-- The time left to the deadline at `now`. -/
def remaining (c : Context) (now : Instant) : Option Duration := c.deadline.map fun d => d.since now

def carrying (c : Context) (m : Metadata) : Context :=
  if m.isEmpty then c else { c with metadata := some m }

def endingBy (c : Context) (d : Instant) : Context :=
  { c with deadline := some (match c.deadline with
    | some existing => existing.earliest d
    | none => d) }

/-- A timeout from `now` on. Zero imposes nothing, nor does a timeout that ends beyond all instants. -/
def endingWithin (c : Context) (now : Instant) (timeout : Duration) : Context :=
  if timeout.isZero then c
  else
    match now.add? timeout with
    | some d => c.endingBy d
    | none => c

/-- An event of the call of this context. -/
def event (c : Context) (e : CallEvent) : Event := .ofCall c.requestId e

end Context

/-- The context of an operation of a kind under a policy. -/
def TimeoutPolicy.contextFor (p : TimeoutPolicy) (now : Instant) (parent : Context) (metadata : Metadata)
    (kind : OperationKind) : Context :=
  (parent.carrying metadata).endingWithin now (p.forKind kind)

/-- A call as it arrives: its context, which carries no metadata yet, and the metadata of its headers. -/
structure Arrival where
  context : Context
  metadata : Metadata
deriving DecidableEq

namespace Arrival

/-- The call that headers make; `fresh` is its request id if the client sent none. -/
def ofHeaders (h : Headers) (fresh : String) : Arrival :=
  ⟨.root (h.requestId?.getD fresh), .ofHeaders h⟩

def endingBy (c : Arrival) (d : Instant) : Arrival := { c with context := c.context.endingBy d }

end Arrival
end ProfileGateway
