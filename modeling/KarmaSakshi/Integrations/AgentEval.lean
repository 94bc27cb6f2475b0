import KarmaSakshi.Domain.Identifiers
import KarmaSakshi.Domain.Manifest
import KarmaSakshi.Library.JsonText
import KarmaSakshi.Library.Lines

/-!
Regression fixtures and the file that remembers them.

The serializer of the fixture model writes the compact JSON text that escapes no character
above the ASCII ones.  How it writes a moment, and how the model reads a text back, is left to
the library that does it.
-/

namespace KarmaSakshi.Integrations

open KarmaSakshi.Domain KarmaSakshi.Library

set_option autoImplicit false

/-- A dictionary in the order of its insertions. -/
structure Mapping (Value : Type) where
  entries : List (String × Value)
  distinct : (entries.map Prod.fst).Nodup
  deriving DecidableEq

/-- A value of `observed_outcome`. -/
inductive OutcomeValue : Type where
  | text (value : String)
  | bool (value : Bool)
  | none
  deriving DecidableEq

structure RegressionFixture (Moment : Type) where
  schemaVersion : String
  exportedAt : Moment
  effectType : String
  adapterId : String
  adapterVersion : String
  normalizedInputs : Mapping ParameterValue
  expectedEffect : Mapping (Option String)
  observedOutcome : Mapping OutcomeValue
  failureCategory : String
  invariant : Option String
  reproductionMetadata : Mapping String
  deriving DecidableEq

/-- What the model library does: how it writes a moment and how it validates a text. -/
structure FixtureJson (Moment : Type) where
  writeMoment : Moment → String
  validateJson : List Char → Except PyError (RegressionFixture Moment)

def parameterDocument : ParameterValue → Json.Document String
  | .text value => .text value
  | .int value => .int value
  | .bool value => .bool value
  | .none => .null

def optionDocument : Option String → Json.Document String
  | some value => .text value
  | none => .null

def outcomeDocument : OutcomeValue → Json.Document String
  | .text value => .text value
  | .bool value => .bool value
  | .none => .null

def Mapping.document {Value : Type} (mapping : Mapping Value)
    (write : Value → Json.Document String) : Json.Document String :=
  .object (mapping.entries.map (fun entry => (entry.1, write entry.2)))

namespace RegressionFixture

variable {Moment : Type} (fixture : RegressionFixture Moment) (json : FixtureJson Moment)

def document : Json.Document String :=
  .object [("schema_version", .text fixture.schemaVersion),
    ("exported_at", .text (json.writeMoment fixture.exportedAt)),
    ("effect_type", .text fixture.effectType),
    ("adapter_id", .text fixture.adapterId),
    ("adapter_version", .text fixture.adapterVersion),
    ("normalized_inputs", fixture.normalizedInputs.document parameterDocument),
    ("expected_effect", fixture.expectedEffect.document optionDocument),
    ("observed_outcome", fixture.observedOutcome.document outcomeDocument),
    ("failure_category", .text fixture.failureCategory),
    ("invariant", optionDocument fixture.invariant),
    ("reproduction_metadata", fixture.reproductionMetadata.document .text)]

def modelDumpJson : List Char := (fixture.document json).write

end RegressionFixture

namespace FailureMemoryStore

variable {Moment : Type} (json : FixtureJson Moment) (path : String)

/-- The text of the file, once it exists. -/
abbrev MemoryFile := Option (List Char)

def record (file : MemoryFile) (fixture : RegressionFixture Moment) : MemoryFile :=
  some (file.getD [] ++ (fixture.modelDumpJson json ++ ['\n']))

def recordAll : MemoryFile → List (RegressionFixture Moment) → MemoryFile :=
  List.foldl (record json)

/-- The loop over the lines: blank ones are passed over, and the first that is no fixture
ends it. -/
def readLines : Nat → List (List Char) → Except PyError (List (RegressionFixture Moment))
  | _, [] => .ok []
  | lineno, line :: rest =>
      let stripped := Lines.strip isWhitespace line
      if stripped = [] then readLines (lineno + 1) rest
      else match json.validateJson stripped with
        | .error error =>
            if error.kind = .validationError then
              .error ⟨.other "FailureMemoryCorruptedError", path ++ ":" ++ toString lineno ++
                ": not a valid RegressionFixture: " ++ error.message⟩
            else .error error
        | .ok fixture => do
            let fixtures ← readLines (lineno + 1) rest
            return fixture :: fixtures

def allFixtures (file : MemoryFile) : Except PyError (List (RegressionFixture Moment)) :=
  match file with
  | none => .ok []
  | some text => readLines json path 1 (Lines.splitLines (Lines.universalNewlines text))

end FailureMemoryStore

/-! ### The strings of a fixture -/

def parameterTexts : ParameterValue → List String
  | .text value => [value]
  | _ => []

def outcomeTexts : OutcomeValue → List String
  | .text value => [value]
  | _ => []

/-- The keys of a mapping and the strings in its values. -/
def Mapping.texts {Value : Type} (mapping : Mapping Value) (inside : Value → List String) :
    List String :=
  mapping.entries.flatMap (fun entry => entry.1 :: inside entry.2)

namespace RegressionFixture

variable {Moment : Type} (fixture : RegressionFixture Moment) (json : FixtureJson Moment)

def texts : List String :=
  [fixture.schemaVersion, fixture.effectType, fixture.adapterId, fixture.adapterVersion] ++
    fixture.normalizedInputs.texts parameterTexts ++
    fixture.expectedEffect.texts Option.toList ++
    fixture.observedOutcome.texts outcomeTexts ++ [fixture.failureCategory] ++
    fixture.invariant.toList ++ fixture.reproductionMetadata.texts (fun value => [value])

end RegressionFixture

theorem mapping_texts {Value : Type} (mapping : Mapping Value)
    {write : Value → Json.Document String} {inside : Value → List String}
    (same : ∀ value, (write value).texts = inside value) :
    (mapping.document write).texts = mapping.texts inside := by
  obtain ⟨entries, distinct⟩ := mapping
  have members : ∀ entries : List (String × Value),
      Json.Document.textsOfMembers (entries.map (fun entry => (entry.1, write entry.2))) =
        entries.flatMap (fun entry => entry.1 :: inside entry.2) := by
    intro entries
    induction entries with
    | nil => rfl
    | cons entry rest collected =>
        rw [List.map_cons, Json.Document.textsOfMembers, collected, same, List.flatMap_cons,
          List.cons_append]
  exact members entries

theorem parameter_texts (value : ParameterValue) :
    (parameterDocument value).texts = parameterTexts value := by
  cases value <;> rfl

theorem option_texts (value : Option String) :
    (optionDocument value).texts = value.toList := by
  cases value <;> rfl

theorem outcome_texts (value : OutcomeValue) :
    (outcomeDocument value).texts = outcomeTexts value := by
  cases value <;> rfl

end KarmaSakshi.Integrations
