/-!
# Letter case of ASCII letters

Names of headers and kinds of engagement are compared without regard to the case of ASCII letters; every
other character stands for itself.
-/
namespace ProfileGateway.Text

/-- The text with `A` to `Z` in lower case. -/
def lower (s : String) : String := String.ofList (s.toList.map Char.toLower)

end ProfileGateway.Text
