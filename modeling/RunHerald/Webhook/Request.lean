import RunHerald.Secret
import RunHerald.Text.Base64
import RunHerald.Text.Utf8
import RunHerald.Url.Basic

/-!
# Requests

A `Request` is what a receiver gets. A user and password in the address of a receiver are no part of
the address of the request: they are an authorization (`Request.basic`). A token is another one
(`Request.bearer`).

Not every request can be made. Its head holds no controls, and its address must not be too long and
must name its host without certain characters (`Url.isRequestable`).
-/

set_option autoImplicit false

namespace RunHerald

/-- A request. -/
structure Request where
  method : String
  url : Url
  authorization : List String
  idempotencyKey : String
  contentType : String
  body : String
  deriving DecidableEq

/-- Why a request cannot be made: a text that cannot stand in its head, or its address. -/
inductive RequestFault where
  | head
  | address (url : Url)
  deriving DecidableEq

/-- The wording of a fault. -/
def RequestFault.text : RequestFault → String
  | .head => "builder error"
  | .address url => "builder error for url (" ++ url.text ++ ")"

namespace Url

/-- The user and password of an address without their escapes. A user whose name is not UTF-8 is
none, and so is a password that is not; and there is no user without a name or a password. -/
def credentials? (u : Url) : Option (String × Option String) := do
  let user ← u.user
  let name ← decodeExact? (Host.percentDecode user.name.toList)
  let password := user.password.bind fun p => decodeExact? (Host.percentDecode p.toList)
  if name = "" ∧ password = none then none else some (name, password)

/-- The address that a request is made to: without a user whose name and password are sent apart. -/
def requested (u : Url) : Url := if u.credentials?.isSome then { u with user := none } else u

/-- The greatest number of bytes of an address to which a request can be made. -/
def maxRequested : Nat := 65534

/-- Whether a request can be made to an address. -/
def isRequestable (u : Url) : Bool :=
  u.text.utf8ByteSize ≤ maxRequested
    && u.host.all fun h => h.text.toList.all fun c => c ∉ ['"', '\u0060', '\x7b', '\x7d']

end Url

namespace Request

/-- The authorization by a user and a password. -/
def basic (credentials : String × Option String) : String :=
  let bytes := utf8Bytes (credentials.1 ++ ":" ++ credentials.2.getD "")
  "Basic " ++ String.ofList (Base64.encode bytes)

/-- The authorization by a token. -/
def bearer (token : Secret) : String := "Bearer " ++ token.expose

end Request

end RunHerald
