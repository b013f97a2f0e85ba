import ProfileGateway.Text.Quoted
/-!
# Statuses

The failures that leave the gateway: a code of a small fixed set and a message. Refusals of an input are causes;
their wording is here as well.
-/
namespace ProfileGateway

inductive Code
  | invalidArgument
  | notFound
  | aborted
  | internal
  | unimplemented
  | deadlineExceeded
deriving DecidableEq, Repr

namespace Code

def name : Code → String
  | invalidArgument => "InvalidArgument"
  | notFound => "NotFound"
  | aborted => "Aborted"
  | internal => "Internal"
  | unimplemented => "Unimplemented"
  | deadlineExceeded => "DeadlineExceeded"

def all : List Code := [invalidArgument, notFound, aborted, internal, unimplemented, deadlineExceeded]

def ofName? (s : String) : Option Code := all.find? fun c => c.name = s

/-- The caller may try again: after reading the resource anew, or with more time. -/
def retryable : Code → Bool
  | aborted | deadlineExceeded => true
  | _ => false

/-- Codes are told apart by their names. -/
theorem ofName?_name (c : Code) : ofName? c.name = some c := by cases c <;> decide

end Code

structure Status where
  code : Code
  message : String
deriving DecidableEq, Repr

namespace Status

def render (s : Status) : String := s.code.name ++ ": " ++ s.message

def internalError : Status := ⟨.internal, "internal error"⟩

def versionConflict : Status := ⟨.aborted, "version conflict: re-read the resource and retry"⟩

def deadlineExceeded : Status := ⟨.deadlineExceeded, "deadline exceeded"⟩

def lookupFailed (source : String) : Status := ⟨.internal, source ++ " lookup failed"⟩

def deleteUnsupported : Status := ⟨.unimplemented, "delete_profile is not supported"⟩

end Status

/-- Why an input is refused before anyone is called. -/
inductive Refusal
  | identityRequired
  | identityUnusable
  | notUuid (field : String)
  | unknownMaskPath (path : String)
  | negativeVersion
  | malformedIfMatch (value : String)
  | unknownEngagementKind (kind : String)
  | tokenNotNumeric
  | tokenNotCanonical
  | tokenOutOfRange
  | tooManyIds (most : Nat)
deriving DecidableEq, Repr

namespace Refusal

def message : Refusal → String
  | identityRequired => "identity required"
  | identityUnusable => "identity required: supplied identity token is unusable"
  | notUuid field => field ++ " must be a valid UUID"
  | unknownMaskPath path => "unsupported update_mask path: " ++ path
  | negativeVersion => "expected_version must be >= 0"
  | malformedIfMatch value => "malformed If-Match: " ++ Text.quoted value
  | unknownEngagementKind kind => "unsupported engagement type: " ++ Text.quoted kind
  | tokenNotNumeric => "invalid page_token: expected a numeric offset"
  | tokenNotCanonical => "invalid page_token: not a canonical offset"
  | tokenOutOfRange => "invalid page_token: offset out of range"
  | tooManyIds most => "video_ids accepts at most " ++ most.repr ++ " distinct ids"

def status (r : Refusal) : Status := ⟨.invalidArgument, r.message⟩

end Refusal

section MapError

variable {ε ε' α : Type}

@[simp] theorem mapError_ok (f : ε → ε') (a : α) : (Except.ok a : Except ε α).mapError f = .ok a := rfl

@[simp] theorem mapError_error (f : ε → ε') (e : ε) : (Except.error e : Except ε α).mapError f = .error (f e) := rfl

end MapError
end ProfileGateway
