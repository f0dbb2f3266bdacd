/-!
# Secrets

A `Secret` holds a text that no description may show.
-/

set_option autoImplicit false

namespace RunHerald

/-- A text that is not shown. -/
structure Secret where
  expose : String
  deriving DecidableEq

/-- Every secret is described alike. -/
def Secret.text (_ : Secret) : String := "[REDACTED]"

instance : ToString Secret := ⟨Secret.text⟩

/-- The description of an optional secret says whether there is one. -/
def Secret.describe? : Option Secret → String
  | none => "None"
  | some s => "Some(" ++ s.text ++ ")"

end RunHerald
