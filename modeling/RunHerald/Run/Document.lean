import RunHerald.Json.Draft
import RunHerald.Run.Codec

/-!
# Run records from text

`Run.ofDocument` decodes a text straight into a record, in the order of the text: the first problem
wins, be it a fault of the text or a value of the wrong type. A repeated field of a record is an
error here, while repeated annotations and repeated unknown fields are not.

Unknown fields are passed over without a look at their values, except in the metadata, where the
fields of the key are picked out after everything has been read.
-/

set_option autoImplicit false

namespace RunHerald

/-- Why a text is no record. -/
inductive DocumentError where
  | text (fault : TextFault)
  | data (error : DecodeError)
  deriving DecidableEq, Repr

namespace Document

/-- The result of decoding a part of a text. -/
abbrev Decoded (α : Type) := Except DocumentError α

/-- A step that can only meet a fault of the text. -/
def faulty {α : Type} : Except TextFault α → Decoded α
  | .ok a => .ok a
  | .error f => .error (.text f)

/-- Refuses a part of the wrong type, unless it is not even a whole value. -/
def refuse {α : Type} (expected : String) : Draft → Decoded α
  | .null => .error (.data (.invalidType .null expected))
  | .bool b => .error (.data (.invalidType (.bool b) expected))
  | .num (some n) => .error (.data (.invalidType (.num n) expected))
  | .str (some s) => .error (.data (.invalidType (.str s) expected))
  | .arr .. => .error (.data (.invalidType .sequence expected))
  | .obj .. => .error (.data (.invalidType .map expected))
  | .num none => .error (.text .malformed)
  | .str none => .error (.text .malformed)
  | .broken _ fault => .error (.text fault.wanted)

/-- A text. -/
def asText : Draft → Decoded String
  | .str (some s) => .ok s
  | d => refuse "a string" d

/-- The texts in a list. -/
def texts : List Draft → Decoded (List String)
  | [] => .ok []
  | d :: ds => do
    let s ← asText d
    let rest ← texts ds
    return s :: rest

/-- The texts under names, in the order of the text. -/
def namedTexts : List (Option String × Draft) → Decoded (List (String × String))
  | [] => .ok []
  | (none, _) :: _ => .error (.text .malformed)
  | (some k, d) :: rest => do
    let s ← asText d
    let more ← namedTexts rest
    return (k, s) :: more

/-- Annotations. -/
def annotations : Draft → Decoded (Dictionary String)
  | .obj members ending => do
    let pairs ← namedTexts members
    faulty (ContainerEnd.check ending)
    return Dictionary.ofList pairs
  | d => refuse "a map" d

/-- Finalizers. -/
def finalizers : Draft → Decoded TextSet
  | .arr items ending => do
    let tokens ← texts items
    faulty (ContainerEnd.check ending)
    return TextSet.ofList tokens
  | d => refuse "a sequence" d

/-- A point in time, or null for none. -/
def time : Draft → Decoded (Option Timestamp)
  | .null => .ok none
  | .str (some s) =>
    match Timestamp.parse s with
    | .ok t => .ok (some t)
    | .error fault => .error (.data (.timestamp fault))
  | d => refuse timestampShape d

/-- Raw results, or null for none. -/
def results (room : Nat) : Draft → Decoded (Option Json)
  | .null => .ok none
  | d => (faulty (d.toJson room)).map some

/-- The end of an object whose one member has been read. -/
def closeSingle (more : List (Option String × Draft)) : ContainerEnd → Decoded Unit
  | .closed => if more.isEmpty then .ok () else .error (.text .malformed)
  | .cut afterComma fault =>
    .error (.text (if more.isEmpty && !afterComma then fault.wanted else .malformed))

/-- A state. Text that could begin neither of its forms is malformed. -/
def completion : Draft → Decoded Completion
  | .str (some s) => .ok (.ofWord s)
  | .obj [] (.cut _ fault) => .error (.text fault.wanted)
  | .obj ((some s, d) :: more) ending => do
    match d with
    | .null => pure ()
    | d => refuse "unit" d
    closeSingle more ending
    return .ofWord s
  | .broken false fault => .error (.text fault.wanted)
  | _ => .error (.text .malformed)

/-- Refuses a field that has been read before. -/
def once {α : Type} (name : String) : Option α → Decoded Unit
  | none => .ok ()
  | some _ => .error (.data (.duplicateField name))

/-- The item of an array that stands for a record; none if the array ends properly before it. -/
def slot (items : List Draft) (ending : ContainerEnd) (i : Nat) : Decoded (Option Draft) :=
  match items[i]? with
  | some d => .ok (some d)
  | none => do
    faulty (ContainerEnd.check ending)
    return none

/-- The end of an array that stands for a record of `n` fields. -/
def closeItems (items : List Draft) (ending : ContainerEnd) (n : Nat) : Decoded Unit :=
  if n < items.length then .error (.text .malformed) else faulty (ContainerEnd.check ending)

/-- The fields of a status that have been read. -/
structure StatusFields where
  completion : Option Completion
  results : Option (Option Json)

/-- Reads the members of a status. -/
def statusMembers (room : Nat) (acc : StatusFields) :
    List (Option String × Draft) → Decoded StatusFields
  | [] => .ok acc
  | (none, _) :: _ => .error (.text .malformed)
  | (some k, d) :: rest => do
    if k = "completion" then
      once k acc.completion
      let c ← completion d
      statusMembers room { acc with completion := some c } rest
    else if k = "results" then
      once k acc.results
      let r ← results room d
      statusMembers room { acc with results := some r } rest
    else
      faulty d.skip
      statusMembers room acc rest

/-- A status. -/
def status (room : Nat) : Draft → Decoded Status
  | .obj members ending => do
    let room ← faulty (Draft.descend room)
    let fields ← statusMembers room ⟨none, none⟩ members
    faulty (ContainerEnd.check ending)
    return ⟨fields.completion.getD .pending, fields.results.join⟩
  | .arr items ending => do
    let room ← faulty (Draft.descend room)
    let c ← match ← slot items ending 0 with
      | some d => completion d
      | none => pure .pending
    let r ← match ← slot items ending 1 with
      | some d => results room d
      | none => pure none
    closeItems items ending 2
    return ⟨c, r⟩
  | d => refuse "struct RunStatus" d

/-- The fields of the metadata that have been read, and the values of the other members. -/
structure MetadataFields where
  annotations : Option (Dictionary String)
  finalizers : Option TextSet
  time : Option (Option Timestamp)
  others : List (String × Json)

/-- Reads the members of the metadata. -/
def metadataMembers (room : Nat) (acc : MetadataFields) :
    List (Option String × Draft) → Decoded MetadataFields
  | [] => .ok acc
  | (none, _) :: _ => .error (.text .malformed)
  | (some k, d) :: rest => do
    if k = "annotations" then
      once k acc.annotations
      let a ← annotations d
      metadataMembers room { acc with annotations := some a } rest
    else if k = "finalizers" then
      once k acc.finalizers
      let f ← finalizers d
      metadataMembers room { acc with finalizers := some f } rest
    else if k = "deletionRequestedAt" then
      once k acc.time
      let t ← time d
      metadataMembers room { acc with time := some t } rest
    else
      let v ← faulty (d.toJson room)
      metadataMembers room { acc with others := acc.others ++ [(k, v)] } rest

/-- The parts of a key that have been picked out. -/
structure KeyFields where
  ns : Option String
  name : Option String

/-- A part of the key. -/
def keyPart : Json → Decoded String
  | .str s => .ok s
  | v => .error (.data (.invalidType v.kind "a string"))

/-- Picks the parts of the key out of the other members. -/
def keyFields (acc : KeyFields) : List (String × Json) → Decoded KeyFields
  | [] => .ok acc
  | (k, v) :: rest => do
    if k = "namespace" then
      once k acc.ns
      let s ← keyPart v
      keyFields { acc with ns := some s } rest
    else if k = "name" then
      once k acc.name
      let s ← keyPart v
      keyFields { acc with name := some s } rest
    else keyFields acc rest

/-- A field that must be there. -/
def need {α : Type} (name : String) : Option α → Decoded α
  | some a => .ok a
  | none => .error (.data (.missingField name))

/-- The metadata. -/
def metadata (room : Nat) : Draft → Decoded Metadata
  | .obj members ending => do
    let room ← faulty (Draft.descend room)
    let fields ← metadataMembers room ⟨none, none, none, []⟩ members
    faulty (ContainerEnd.check ending)
    let parts ← keyFields ⟨none, none⟩ fields.others
    let ns ← need "namespace" parts.ns
    let name ← need "name" parts.name
    return ⟨⟨ns, name⟩, fields.annotations.getD ∅, fields.finalizers.getD ∅, fields.time.join⟩
  | d => refuse "struct RunMetadata" d

/-- The parts of a record that have been read. -/
structure RunFields where
  metadata : Option Metadata
  status : Option Status

/-- Reads the members of a record. -/
def runMembers (room : Nat) (acc : RunFields) :
    List (Option String × Draft) → Decoded RunFields
  | [] => .ok acc
  | (none, _) :: _ => .error (.text .malformed)
  | (some k, d) :: rest => do
    if k = "metadata" then
      once k acc.metadata
      let m ← metadata room d
      runMembers room { acc with metadata := some m } rest
    else if k = "status" then
      once k acc.status
      let s ← status room d
      runMembers room { acc with status := some s } rest
    else
      faulty d.skip
      runMembers room acc rest

/-- A record. -/
def run (room : Nat) : Draft → Decoded Run
  | .obj members ending => do
    let room ← faulty (Draft.descend room)
    let fields ← runMembers room ⟨none, none⟩ members
    faulty (ContainerEnd.check ending)
    let m ← need "metadata" fields.metadata
    return Run.ofParts m (fields.status.getD default)
  | .arr items ending => do
    let room ← faulty (Draft.descend room)
    let m ← match ← slot items ending 0 with
      | some d => metadata room d
      | none => throw (.data (.invalidLength 0 (Run.shape ++ " with 2 elements")))
    let s ← match ← slot items ending 1 with
      | some d => status room d
      | none => pure default
    closeItems items ending 2
    return Run.ofParts m s
  | d => refuse Run.shape d

end Document

/-- Decodes a text into a record. -/
def Run.ofDocument (s : String) : Except DocumentError Run := do
  let reading := Draft.ofText s
  let r ← Document.run Draft.maxDepth reading.draft
  if reading.trailing then throw (.text .malformed)
  return r

end RunHerald
