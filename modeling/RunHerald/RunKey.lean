/-!
# Run keys

A run is named by a namespace and a name inside it. The text form `namespace/name` is cut at its
first slash; both parts have a small alphabet without a slash, so the cut never moves.

* `RunKey.make` checks the two parts, `RunKey.parse` reads the text form, `RunKey.text` writes it.
* `KeyFault` names each way in which a key can be refused, and `KeyFault.message` words it.
* `RunKey.le` orders keys by namespace and then by name, in code point order.
-/

set_option autoImplicit false

namespace RunHerald

/-- The stable identity of a run: its namespace and its name there. A value of this type need not
satisfy the naming rules, since records written by others are taken as they are. -/
structure RunKey where
  ns : String
  name : String
  deriving DecidableEq, Repr, Inhabited

/-- Why a namespace, a name or a key text is refused. -/
inductive KeyFault where
  | noSeparator (text : String)
  | emptyNamespace
  | longNamespace (ns : String)
  | namespaceAlphabet (ns : String)
  | namespaceHyphen (ns : String)
  | emptyName
  | longName (name : String)
  | nameAlphabet (name : String)
  deriving DecidableEq, Repr

/-- A namespace has at most this many bytes. -/
def maxNamespaceLength : Nat := 63

/-- A name has at most this many bytes. -/
def maxNameLength : Nat := 253

/-- The wording of a refusal. -/
def KeyFault.message : KeyFault → String
  | .noSeparator text => s!"run key '{text}' must have the form namespace/name"
  | .emptyNamespace => "namespace cannot be empty"
  | .longNamespace ns =>
    s!"namespace '{ns}' is too long (maximum {maxNamespaceLength} characters)"
  | .namespaceAlphabet ns =>
    s!"namespace '{ns}' contains invalid characters (only lowercase letters, digits, and hyphens allowed)"
  | .namespaceHyphen ns => s!"namespace '{ns}' cannot start or end with a hyphen"
  | .emptyName => "run name cannot be empty"
  | .longName name => s!"run name '{name}' is too long (maximum {maxNameLength} characters)"
  | .nameAlphabet name =>
    s!"run name '{name}' contains invalid characters (only lowercase letters, digits, hyphens, and dots allowed)"

/-- The characters of a namespace: lower-case letters, digits and the hyphen. -/
def isNamespaceChar (c : Char) : Bool := c.isLower || c.isDigit || c == '-'

/-- The characters of a name: those of a namespace and the dot. -/
def isNameChar (c : Char) : Bool := isNamespaceChar c || c == '.'

namespace RunKey

/-- The checks on a namespace; the length is judged before the alphabet. -/
def checkNamespace (ns : String) : Except KeyFault Unit :=
  if ns.toList = [] then .error .emptyNamespace
  else if maxNamespaceLength < ns.utf8ByteSize then .error (.longNamespace ns)
  else if ns.toList.all isNamespaceChar = false then .error (.namespaceAlphabet ns)
  else if ns.toList.head? = some '-' ∨ ns.toList.getLast? = some '-' then
    .error (.namespaceHyphen ns)
  else .ok ()

/-- The checks on a name; the length is judged before the alphabet. -/
def checkName (name : String) : Except KeyFault Unit :=
  if name.toList = [] then .error .emptyName
  else if maxNameLength < name.utf8ByteSize then .error (.longName name)
  else if name.toList.all isNameChar = false then .error (.nameAlphabet name)
  else .ok ()

/-- The key of a namespace and a name, if both pass their checks; the namespace is judged first. -/
def make (ns name : String) : Except KeyFault RunKey := do
  checkNamespace ns
  checkName name
  return ⟨ns, name⟩

/-- The text form of a key. -/
def text (k : RunKey) : String := k.ns ++ "/" ++ k.name

instance : ToString RunKey := ⟨text⟩

/-- The parts of a text before and after its first slash. -/
def cutAtSlash : List Char → Option (List Char × List Char)
  | [] => none
  | c :: rest => if c = '/' then some ([], rest) else (cutAtSlash rest).map fun p => (c :: p.1, p.2)

/-- Reads the text form of a key. -/
def parse (s : String) : Except KeyFault RunKey :=
  match cutAtSlash s.toList with
  | none => .error (.noSeparator s)
  | some (ns, name) => make (String.ofList ns) (String.ofList name)

/-- Keys are ordered by namespace, and within a namespace by name. -/
def le (a b : RunKey) : Bool := decide (a.ns < b.ns) || (a.ns == b.ns && decide (a.name ≤ b.name))

end RunKey

end RunHerald
