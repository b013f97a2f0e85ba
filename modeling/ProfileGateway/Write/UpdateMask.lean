import ProfileGateway.Outcome.Status
import ProfileGateway.Text.Blank
/-!
# Update masks

The fields that an update touches. A mask without paths touches all of them.
-/
namespace ProfileGateway

/-- The paths of a mask, each of them allowed and trimmed. -/
structure UpdateMask where
  paths : List String
deriving DecidableEq, Repr

namespace UpdateMask

/-- Blank paths are left out, and any other must be allowed. -/
def ofPaths (allowed : List String) : List String → Except Refusal UpdateMask
  | [] => .ok ⟨[]⟩
  | raw :: rest =>
    match Text.trimmed? raw with
    | none => ofPaths allowed rest
    | some path =>
      if path ∈ allowed then (ofPaths allowed rest).map fun m => ⟨path :: m.paths⟩
      else .error (.unknownMaskPath path)

def isEmpty (m : UpdateMask) : Bool := m.paths.isEmpty

/-- The mask touches a field. -/
def applies (m : UpdateMask) (field : String) : Bool := m.isEmpty || m.paths.contains field

/-- The value for a field that the mask touches. -/
def select {α : Type} (m : UpdateMask) (field : String) (value : Option α) : Option α :=
  if m.applies field then value else none

end UpdateMask
end ProfileGateway
