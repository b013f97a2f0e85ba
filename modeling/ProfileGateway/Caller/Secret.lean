/-!
# Secrets

A value that is shown as a fixed mark wherever text is made of it, and is had back only by asking for it.
-/
namespace ProfileGateway

structure Secret (α : Type) where
  expose : α
deriving DecidableEq

namespace Secret

/-- What stands for any secret in a text. -/
def redacted : String := "[REDACTED]"

def render {α : Type} (_ : Secret α) : String := redacted

instance {α : Type} : ToString (Secret α) := ⟨render⟩

@[simp] theorem render_eq {α : Type} (s : Secret α) : s.render = redacted := rfl

end Secret
end ProfileGateway
