import ProfileGateway.Caller.Claims
import ProfileGateway.Caller.Headers
import ProfileGateway.Caller.Secret
import ProfileGateway.Outcome.Event
/-!
# Request metadata

What the headers of a call resolve to: the caller, and the headers that make a write idempotent or conditional.
A token that names no subject does not fail the call; it is only marked, since an operation may find the user in
its request.
-/
namespace ProfileGateway

structure Metadata where
  idempotencyKey : Option String
  ifMatch : Option String
  ifNoneMatch : Option String
  callerId : Option String
  identityToken : Option (Secret String)
  /-- There is a token, and it names no subject. -/
  identityInvalid : Bool
deriving DecidableEq

namespace Metadata

def empty : Metadata := ⟨none, none, none, none, none, false⟩

def ofHeaders (h : Headers) : Metadata :=
  let token := h.getTrimmed? Headers.identityName
  let callerId := token.bind Claims.subjectOfToken?
  { idempotencyKey := h.getTrimmed? Headers.idempotencyKeyName
    ifMatch := h.getTrimmed? Headers.ifMatchName
    ifNoneMatch := h.getTrimmed? Headers.ifNoneMatchName
    callerId
    identityToken := token.map Secret.mk
    identityInvalid := token.isSome && callerId.isNone }

/-- What is logged when headers are resolved. -/
def eventsOf (h : Headers) : List Event :=
  if (ofHeaders h).identityInvalid then [.identityUnusable] else []

def isEmpty (m : Metadata) : Bool :=
  m.idempotencyKey.isNone && m.ifMatch.isNone && m.ifNoneMatch.isNone && m.callerId.isNone &&
    m.identityToken.isNone && !m.identityInvalid

/-- A field that may be absent, as descriptions show it. -/
def describeOption {α : Type} (render : α → String) : Option α → String
  | none => "None"
  | some a => "Some(" ++ render a ++ ")"

/-- The metadata for a human reader; the token does not show. -/
def describe (m : Metadata) : String :=
  "RequestMetadata \x7b idempotency_key: " ++ describeOption Text.quoted m.idempotencyKey ++
    ", if_match: " ++ describeOption Text.quoted m.ifMatch ++
    ", if_none_match: " ++ describeOption Text.quoted m.ifNoneMatch ++
    ", caller_id: " ++ describeOption Text.quoted m.callerId ++
    ", raw_identity_token: " ++ describeOption Secret.render m.identityToken ++
    ", identity_invalid: " ++ (if m.identityInvalid then "true" else "false") ++ " \x7d"

theorem isEmpty_iff {m : Metadata} : m.isEmpty = true ↔ m = empty := by
  cases m
  simp [isEmpty, empty, and_assoc]

end Metadata
end ProfileGateway
