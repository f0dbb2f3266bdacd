import RunHerald.Text.Composed
import RunHerald.Url.Domain.Label
import RunHerald.Url.Domain.Mapping

/-!
# Domains

A domain is a row of labels with dots between. `Domain.labels?` reads them from a text: every
character is replaced by what it stands for, the text is composed and then cut at its dots.
`Domain.spelled?` gives the domain in ASCII, as a request names it.
-/

set_option autoImplicit false

namespace RunHerald.Domain

/-- The labels of a domain; `none` if the text is no domain. -/
def labels? (cs : List Char) : Option (List Label) := do
  let meanings ← cs.mapM meaning?
  let name := composed meanings.flatten
  if name.any isForbidden then none
  let labels ← (name.splitOn '.').mapM Label.read?
  if labels.any Label.hasRightToLeft && !labels.all Label.isOneWay then none
  return labels

/-- A domain as it is spelled in ASCII. -/
def spelled? (cs : List Char) : Option (List Char) :=
  (labels? cs).map fun labels => ['.'].intercalate (labels.map Label.spelled)

end RunHerald.Domain
