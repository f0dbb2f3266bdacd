import RunHerald.Dictionary
import RunHerald.Json.Token

/-!
# Drafts: JSON text read as far as it goes

A draft is the tree of a text in which nothing is lost: members keep their order and repetitions,
and a container that does not end well holds what came before its fault. Whoever decodes a draft
walks it in the order of the text, so the first problem in the text is the one reported, whether it
is a fault of the text or a value of the wrong type.

* `Draft.ofText` reads a text.
* `Draft.toJson?` is the value of a draft without faults: members sorted, the last of equal keys
  counting, and containers nested at most `maxDepth` deep.
* `Draft.skip` only looks for faults and has no limit on depth.
-/

set_option autoImplicit false

namespace RunHerald

/-- How a container ends: closed, or with a fault, before or after a comma. -/
inductive ContainerEnd where
  | closed
  | cut (afterComma : Bool) (fault : Break)
  deriving DecidableEq, Repr

/-- Checks the end of a container whose elements have been read. -/
def ContainerEnd.check : ContainerEnd → Except TextFault Unit
  | .closed => .ok ()
  | .cut _ fault => .error fault.wanted

/-- Checks the end of a container whose elements have been passed over. -/
def ContainerEnd.skip : ContainerEnd → Except TextFault Unit
  | .closed => .ok ()
  | .cut _ fault => .error fault.skipped

/-- The tree of a text. A number or text without a value stands for a whole token of that form. -/
inductive Draft where
  | null
  | bool (b : Bool)
  | num (n : Option JsonNumber)
  | str (s : Option String)
  | arr (items : List Draft) (ending : ContainerEnd)
  | obj (members : List (Option String × Draft)) (ending : ContainerEnd)
  | broken (word : Bool) (fault : Break)
  deriving Repr

/-- A text's tree, and whether anything follows it. -/
structure Draft.Reading where
  draft : Draft
  trailing : Bool

namespace Draft

instance : Inhabited Draft := ⟨.null⟩

/-- An open container: what it holds so far, the latest first, and the key of the member that is
being read. -/
inductive Frame where
  | items (done : List Draft)
  | members (done : List (Option String × Draft)) (key : Option String)

/-- What may come next. -/
inductive Stage where
  | value
  | firstItem
  | afterValue
  | firstKey
  | nextKey
  | colon

/-- Puts a draft into the containers around it, none of which is closed. -/
def wrap (d : Draft) : List Frame → Draft
  | [] => d
  | .items done :: outer => wrap (.arr (d :: done).reverse (.cut false (.same .malformed))) outer
  | .members done key :: outer =>
    wrap (.obj ((key, d) :: done).reverse (.cut false (.same .malformed))) outer

/-- The innermost container, with the given ending, in the containers around it. -/
def leave (ending : ContainerEnd) : List Frame → Draft
  | [] => .broken false (.same .malformed)
  | .items done :: outer => wrap (.arr done.reverse ending) outer
  | .members done _ :: outer => wrap (.obj done.reverse ending) outer

/-- Adds a finished value to the innermost container. -/
def settle (d : Draft) : List Frame → List Frame
  | [] => []
  | .items done :: outer => .items (d :: done) :: outer
  | .members done key :: outer => .members ((key, d) :: done) key :: outer

/-- The value that a single token is. -/
def ofToken? : Token → Option Draft
  | .null => some .null
  | .bool b => some (.bool b)
  | .num n => some (.num n)
  | .str s => some (.str s)
  | .broken word fault => some (.broken word fault)
  | _ => none

/-- The ending at a token where a key should be. Only a quotation mark can begin a key. -/
def misplaced (afterComma : Bool) : Token → ContainerEnd
  | .broken false fault => .cut afterComma fault
  | _ => .cut afterComma (.same .malformed)

/-- Reads tokens into the containers that are open. -/
def build : Stage → List Frame → List Token → Reading
  | .value, stack, [] => ⟨wrap (.broken false (.same .truncated)) stack, false⟩
  | .firstItem, stack, [] => ⟨wrap (.broken false (.same .truncated)) stack, false⟩
  | .afterValue, stack, [] => ⟨leave (.cut false (.same .truncated)) stack, false⟩
  | .firstKey, stack, [] => ⟨leave (.cut false (.same .truncated)) stack, false⟩
  | .nextKey, stack, [] => ⟨leave (.cut true (.same .truncated)) stack, false⟩
  | .colon, stack, [] => ⟨wrap (.broken false (.same .truncated)) stack, false⟩
  | .value, stack, t :: ts =>
    match t with
    | .openBracket => build .firstItem (.items [] :: stack) ts
    | .openBrace => build .firstKey (.members [] none :: stack) ts
    | t =>
      match ofToken? t, stack with
      | none, stack => ⟨wrap (.broken false (.same .malformed)) stack, false⟩
      | some d, [] => ⟨d, !ts.isEmpty⟩
      | some d, stack => build .afterValue (settle d stack) ts
  | .firstItem, stack, t :: ts =>
    match t with
    | .closeBracket =>
      match stack with
      | _ :: [] => ⟨.arr [] .closed, !ts.isEmpty⟩
      | _ :: outer => build .afterValue (settle (.arr [] .closed) outer) ts
      | [] => ⟨.broken false (.same .malformed), true⟩
    | .openBracket => build .firstItem (.items [] :: stack) ts
    | .openBrace => build .firstKey (.members [] none :: stack) ts
    | t =>
      match ofToken? t with
      | none => ⟨wrap (.broken false (.same .malformed)) stack, false⟩
      | some d => build .afterValue (settle d stack) ts
  | .afterValue, stack, t :: ts =>
    match t, stack with
    | .comma, .items done :: outer => build .value (.items done :: outer) ts
    | .comma, .members done key :: outer => build .nextKey (.members done key :: outer) ts
    | .closeBracket, .items done :: outer =>
      match outer with
      | [] => ⟨.arr done.reverse .closed, !ts.isEmpty⟩
      | outer => build .afterValue (settle (.arr done.reverse .closed) outer) ts
    | .closeBrace, .members done _ :: outer =>
      match outer with
      | [] => ⟨.obj done.reverse .closed, !ts.isEmpty⟩
      | outer => build .afterValue (settle (.obj done.reverse .closed) outer) ts
    | _, stack => ⟨leave (.cut false (.same .malformed)) stack, false⟩
  | .firstKey, stack, t :: ts =>
    match t, stack with
    | .closeBrace, _ :: [] => ⟨.obj [] .closed, !ts.isEmpty⟩
    | .closeBrace, _ :: outer => build .afterValue (settle (.obj [] .closed) outer) ts
    | .str s, .members done _ :: outer => build .colon (.members done s :: outer) ts
    | t, stack => ⟨leave (misplaced false t) stack, false⟩
  | .nextKey, stack, t :: ts =>
    match t, stack with
    | .str s, .members done _ :: outer => build .colon (.members done s :: outer) ts
    | t, stack => ⟨leave (misplaced true t) stack, false⟩
  | .colon, stack, t :: ts =>
    match t with
    | .colon => build .value stack ts
    | _ => ⟨wrap (.broken false (.same .malformed)) stack, false⟩

/-- Reads a text. -/
def ofText (s : String) : Reading := build .value [] (Token.lex s.toList)

/-- Containers may be nested this deep, less one, where their values are wanted. -/
def maxDepth : Nat := 128

/-- The number of containers that may still be opened inside one more, if one may be. -/
def descend (room : Nat) : Except TextFault Nat :=
  if room ≤ 1 then .error .malformed else .ok (room - 1)

mutual

/-- The value of a draft, or the first fault in it. `room` says how deep containers may nest. -/
def toJson (room : Nat) : Draft → Except TextFault Json
  | .null => .ok .null
  | .bool b => .ok (.bool b)
  | .num (some n) => .ok (.num n)
  | .num none => .error .malformed
  | .str (some s) => .ok (.str s)
  | .str none => .error .malformed
  | .arr items ending => do
    let room ← descend room
    let items ← toItems room items
    ContainerEnd.check ending
    return .arr items
  | .obj members ending => do
    let room ← descend room
    let members ← toMembers room members
    ContainerEnd.check ending
    return .obj (Dictionary.ofList members).entries
  | .broken _ fault => .error fault.wanted

/-- The values of the elements of an array. -/
def toItems (room : Nat) : List Draft → Except TextFault (List Json)
  | [] => .ok []
  | d :: ds => do
    let v ← toJson room d
    let vs ← toItems room ds
    return v :: vs

/-- The members of an object, in the order of the text. -/
def toMembers (room : Nat) : List (Option String × Draft) → Except TextFault (List (String × Json))
  | [] => .ok []
  | (none, _) :: _ => .error .malformed
  | (some k, d) :: ds => do
    let v ← toJson room d
    let vs ← toMembers room ds
    return (k, v) :: vs
end

mutual

/-- Passes over a draft whose value is not wanted. -/
def skip : Draft → Except TextFault Unit
  | .arr items ending => do
    skipItems items
    ContainerEnd.skip ending
  | .obj members ending => do
    skipMembers members
    ContainerEnd.skip ending
  | .broken _ fault => .error fault.skipped
  | _ => .ok ()

/-- Passes over the elements of an array. -/
def skipItems : List Draft → Except TextFault Unit
  | [] => .ok ()
  | d :: ds => do
    skip d
    skipItems ds

/-- Passes over the members of an object. -/
def skipMembers : List (Option String × Draft) → Except TextFault Unit
  | [] => .ok ()
  | (_, d) :: ds => do
    skip d
    skipMembers ds
end

end Draft

/-- The value that a text is. -/
def Json.ofText (s : String) : Except TextFault Json := do
  let reading := Draft.ofText s
  let v ← reading.draft.toJson Draft.maxDepth
  if reading.trailing then throw .malformed
  return v

end RunHerald
