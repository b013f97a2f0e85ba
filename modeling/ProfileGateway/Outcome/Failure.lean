import ProfileGateway.Decimal.Numeral
/-!
# Failures of collaborators

A collaborator fails with a kind out of a closed set and a message for those who run it.
-/
namespace ProfileGateway

inductive FailureKind
  | notFound
  | versionConflict
  | unsupportedInput
  | internal
deriving DecidableEq, Repr

namespace FailureKind

def name : FailureKind → String
  | notFound => "not_found"
  | versionConflict => "version_conflict"
  | unsupportedInput => "unsupported_input"
  | internal => "internal"

/-- The kind that a collaborator's code stands for; a code that is not known is an internal failure. -/
def ofCode (code : String) : FailureKind :=
  if code = notFound.name then notFound
  else if code = versionConflict.name then versionConflict
  else if code = unsupportedInput.name then unsupportedInput
  else internal

theorem ofCode_name (k : FailureKind) : ofCode k.name = k := by cases k <;> decide

end FailureKind

structure Failure where
  kind : FailureKind
  message : String
deriving DecidableEq, Repr

namespace Failure

def ofCode (code message : String) : Failure := ⟨.ofCode code, message⟩

def notFound (message : String) : Failure := ⟨.notFound, message⟩

/-- A write expected one version and found another. -/
def versionConflict (expected stored : Int64) : Failure :=
  ⟨.versionConflict,
    "expected version " ++ Decimal.signedText expected.toInt ++ ", stored version " ++
      Decimal.signedText stored.toInt⟩

def render (f : Failure) : String := f.kind.name ++ ": " ++ f.message

end Failure
end ProfileGateway
