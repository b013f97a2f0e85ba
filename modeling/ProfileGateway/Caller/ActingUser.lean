import ProfileGateway.Caller.Metadata
/-!
# The acting user

A user named in the request acts; otherwise the caller of the identity token. Whichever it is, it must be a
well-formed identifier: a malformed one in the request does not fall back to the caller.
-/
namespace ProfileGateway

/-- Reads the identifier of a field, blanks around it aside. -/
def Uuid.ofField (field raw : String) : Except Refusal Uuid :=
  match Uuid.parse? (Text.trim raw) with
  | some u => .ok u
  | none => .error (.notUuid field)

namespace ActingUser

/-- The user of the identity token. -/
def caller (metadata : Option Metadata) : Except Refusal Uuid :=
  match metadata with
  | none => .error .identityRequired
  | some m =>
    match m.callerId with
    | some id => Uuid.ofField "caller identity" id
    | none => .error (if m.identityInvalid then .identityUnusable else .identityRequired)

/-- The user on whose behalf a request acts. -/
def resolve (requested : Option String) (metadata : Option Metadata) : Except Refusal Uuid :=
  match requested with
  | some raw => if Text.blank raw then caller metadata else Uuid.ofField "user_id" raw
  | none => caller metadata

end ActingUser
end ProfileGateway
