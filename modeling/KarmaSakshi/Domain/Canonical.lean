import KarmaSakshi.Domain.Values
import KarmaSakshi.Library.Json
import Mathlib

/-!
Canonical serialization: `_to_plain` and `canonical_json_bytes`.

A value is first made plain: models become their JSON dump, every sequence a list,
every mapping a dictionary whose keys are strings.  The plain value is written with
sorted keys, no blanks and ASCII only.
-/

namespace KarmaSakshi.Domain

open Json (Text Document CodeUnit)

set_option autoImplicit false

/-- A key of a mapping: a string, or anything else Python can hash. -/
inductive PyKey (Other : Type) : Type where
  | text (value : Text)
  | other (key : Other)
  deriving DecidableEq

/-- The values `_to_plain` tells apart.  A model stands for its
`model_dump(mode="json")`; `sequence` is a list, a tuple or any other sequence; a
mapping lists its items in their order. -/
inductive PyValue (Other : Type) : Type where
  | none
  | bool (value : Bool)
  | int (value : Int)
  | text (value : Text)
  | sequence (items : List (PyValue Other))
  | mapping (items : List (PyKey Other × PyValue Other))
  | model (dump : PyValue Other)
  | float
  | unsupported (typeName : String)

variable {Other : Type} (str : Other → Text)

/-- `str(key)`. -/
def PyKey.printed : PyKey Other → Text
  | text value => value
  | other key => str key

/-- `dict[key] = value`: a key that is there keeps its place. -/
def dictPut (dict : List (Text × Document Text)) (key : Text) (value : Document Text) :
    List (Text × Document Text) :=
  if key ∈ dict.map Prod.fst then
    dict.map (fun entry => if entry.1 = key then (key, value) else entry)
  else dict ++ [(key, value)]

/-- The dictionary of a comprehension: of several items with one key, the last one
gives the value. -/
def dictOf (items : List (Text × Document Text)) : List (Text × Document Text) :=
  items.foldl (fun dict item => dictPut dict item.1 item.2) []

def canonicalizationError (message : String) : PyError :=
  ⟨.other "CanonicalizationError", message⟩

namespace PyValue

mutual

/-- `_to_plain`. -/
def toPlain : PyValue Other → Except PyError (Document Text)
  | none => .ok .null
  | bool value => .ok (.bool value)
  | int value => .ok (.int value)
  | text value => .ok (.text value)
  | sequence items => do
      let plain ← itemsToPlain items
      .ok (.array plain)
  | mapping items => do
      let plain ← membersToPlain items
      .ok (.object (dictOf plain))
  | model dump => toPlain dump
  | float => .error (canonicalizationError
      "floats are not permitted in canonicalized payloads; use ints (minor units) or strings for exact decimal representation")
  | unsupported typeName => .error (canonicalizationError
      ("cannot canonicalize value of type " ++ pyRepr typeName))

def itemsToPlain : List (PyValue Other) → Except PyError (List (Document Text))
  | [] => .ok []
  | item :: rest => do
      let first ← toPlain item
      let others ← itemsToPlain rest
      .ok (first :: others)

def membersToPlain :
    List (PyKey Other × PyValue Other) → Except PyError (List (Text × Document Text))
  | [] => .ok []
  | (key, value) :: rest => do
      let first ← toPlain value
      let others ← membersToPlain rest
      .ok ((key.printed str, first) :: others)

end

end PyValue

/-- The members in the order of their keys. -/
def byKey (first second : Text × Document Text) : Prop := first.1 ≤ second.1

instance : DecidableRel byKey := fun _ _ => inferInstanceAs (Decidable (_ ≤ _))

mutual

/-- `sort_keys=True`, at every level. -/
def sortKeys : Document Text → Document Text
  | .null => .null
  | .bool value => .bool value
  | .int value => .int value
  | .text value => .text value
  | .array items => .array (sortItems items)
  | .object members => .object ((sortMembers members).insertionSort byKey)

def sortItems : List (Document Text) → List (Document Text)
  | [] => []
  | item :: rest => sortKeys item :: sortItems rest

def sortMembers : List (Text × Document Text) → List (Text × Document Text)
  | [] => []
  | (key, value) :: rest => (key, sortKeys value) :: sortMembers rest

end

/-- What `json.dumps` writes: the sorted tree, its strings as UTF-16 units. -/
def written (plain : Document Text) : Document (List CodeUnit) := (sortKeys plain).mapText Json.units

def dumps (plain : Document Text) : List Char := (written plain).print

def canonicalJsonBytes (value : PyValue Other) : Except PyError ByteArray := do
  let plain ← value.toPlain str
  .ok (String.ofList (dumps plain)).toUTF8

end KarmaSakshi.Domain
