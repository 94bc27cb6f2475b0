import KarmaSakshi.Integrations.AgentEval

/-!
When the failure memory reads back what was recorded.

A fixture is written on one line, but its strings may hold characters at which the reader
breaks lines: the next-line control and the two separators of Unicode, which the JSON text
does not escape.
-/

namespace KarmaSakshi.Integrations

open KarmaSakshi.Domain KarmaSakshi.Library

set_option autoImplicit false

/-- The characters that the writer leaves in a line and the reader breaks it at. -/
def lineSeparators : List Char := ['\u0085', '\u2028', '\u2029']

theorem break_is_separator {character : Char} (least : 32 ≤ character.toNat) :
    Lines.isBreak character = true ↔ character ∈ lineSeparators := by
  have codes : ∀ other : Char, character = other ↔ character.toNat = other.toNat :=
    fun other => Char.toNat_inj.symm
  simp only [Lines.isBreak, lineSeparators, List.mem_cons, List.not_mem_nil, or_false, codes,
    Bool.or_eq_true, Bool.and_eq_true, decide_eq_true_eq, beq_iff_eq]
  have next : '\u0085'.toNat = 0x85 := by decide
  have line : '\u2028'.toNat = 0x2028 := by decide
  have paragraph : '\u2029'.toNat = 0x2029 := by decide
  rw [next, line, paragraph]
  omega

theorem separator_is_high {character : Char} (separator : character ∈ lineSeparators) :
    127 ≤ character.toNat := by
  simp only [lineSeparators, List.mem_cons, List.not_mem_nil, or_false] at separator
  rcases separator with rfl | rfl | rfl <;> decide

/-- What the model library promises: moments are written in ASCII. -/
def WritesAscii {Moment : Type} (json : FixtureJson Moment) : Prop :=
  ∀ moment, ∀ character ∈ (json.writeMoment moment).toList, character.toNat < 127

/-- What the model library promises about a fixture: its text is read back, and no part of the
text that stops before its end is a fixture. -/
structure ReadsBack {Moment : Type} (json : FixtureJson Moment)
    (fixture : RegressionFixture Moment) : Prop where
  whole : json.validateJson (fixture.modelDumpJson json) = .ok fixture
  partly : ∀ first rest, first ≠ [] → rest ≠ [] → first ++ rest = fixture.modelDumpJson json →
    ∃ message, json.validateJson first = .error ⟨.validationError, message⟩

namespace RegressionFixture

variable {Moment : Type} {fixture : RegressionFixture Moment} {json : FixtureJson Moment}

/-- No string of the fixture holds a separator. -/
def SeparatorFree (fixture : RegressionFixture Moment) : Prop :=
  ∀ text ∈ fixture.texts, ∀ character ∈ text.toList, character ∉ lineSeparators

/-- The strings of the written value are the fixture's own, the field names and the moment. -/
theorem document_texts (text : String) :
    text ∈ (fixture.document json).texts ↔
      text ∈ fixture.texts ∨ text = json.writeMoment fixture.exportedAt ∨
        text ∈ ["schema_version", "exported_at", "effect_type", "adapter_id", "adapter_version",
          "normalized_inputs", "expected_effect", "observed_outcome", "failure_category",
          "invariant", "reproduction_metadata"] := by
  simp only [document, Json.Document.texts, Json.Document.textsOfMembers,
    mapping_texts _ parameter_texts, mapping_texts _ option_texts, mapping_texts _ outcome_texts,
    mapping_texts _ (fun _ => rfl : ∀ value, (Json.Document.text value).texts = [value]),
    option_texts, texts, List.mem_cons, List.mem_append, List.not_mem_nil, or_false]
  -- Both sides name the same strings, in another order.
  constructor
  · intro listed
    apply Classical.byContradiction
    intro missing
    simp only [not_or] at missing
    simp only [missing, or_self] at listed
  · intro listed
    apply Classical.byContradiction
    intro missing
    simp only [not_or] at missing
    simp only [missing, or_self] at listed

theorem field_name_is_ascii : ∀ name ∈ ["schema_version", "exported_at", "effect_type",
    "adapter_id", "adapter_version", "normalized_inputs", "expected_effect", "observed_outcome",
    "failure_category", "invariant", "reproduction_metadata"],
    ∀ character ∈ name.toList, character.toNat < 127 := by
  simp

theorem dump_shows : Json.Shows (fixture.modelDumpJson json) (fixture.document json).texts :=
  Json.Document.write_shows _

theorem dump_least {character : Char} (member : character ∈ fixture.modelDumpJson json) :
    32 ≤ character.toNat := by
  cases dump_shows.only character member with
  | inl printable => exact printable.1
  | inr shown => exact shown.1

/-- A fixture is written on one line just if no string of it holds a separator. -/
theorem unbroken_iff (ascii : WritesAscii json) :
    Lines.Unbroken (fixture.modelDumpJson json) ↔ fixture.SeparatorFree := by
  constructor
  · intro unbroken text listed character inside separator
    have high := separator_is_high separator
    have written : character ∈ fixture.modelDumpJson json :=
      dump_shows.every text ((document_texts text).mpr (.inl listed)) character inside high
    have breaks := (break_is_separator (dump_least written)).mpr separator
    rw [unbroken character written] at breaks
    cases breaks
  · intro free character written
    apply Bool.eq_false_iff.mpr
    intro breaks
    have separator := (break_is_separator (dump_least written)).mp breaks
    have high := separator_is_high separator
    cases dump_shows.only character written with
    | inl printable => exact absurd printable.2 (by omega)
    | inr shown =>
        obtain ⟨_, text, listed, inside⟩ := shown
        rcases (document_texts text).mp listed with own | moment | name
        · exact free text own character inside separator
        · rw [moment] at inside
          exact absurd (ascii _ character inside) (by omega)
        · exact absurd (field_name_is_ascii text name character inside) (by omega)

/-- The text of a fixture is one object. -/
theorem dump_closed : ∃ body, fixture.modelDumpJson json = '\x7b' :: (body ++ ['\x7d']) := by
  have closes : ∀ members : List (String × Json.Document String),
      ∃ body, Json.Document.writeMembers members = body ++ ['\x7d'] := by
    intro members
    induction members with
    | nil => exact ⟨[], rfl⟩
    | cons member rest closed =>
        obtain ⟨body, ends⟩ := closed
        exact ⟨',' :: (Json.writeText member.1 ++ ':' :: (member.2.write ++ body)), by
          rw [Json.Document.writeMembers, ends]; simp⟩
  have object : ∀ (key : String) value members, ∃ body,
      (Json.Document.object ((key, value) :: members)).write = '\x7b' :: (body ++ ['\x7d']) := by
    intro key value members
    obtain ⟨body, ends⟩ := closes members
    refine ⟨Json.writeText key ++ ':' :: (value.write ++ body), ?_⟩
    rw [Json.Document.write, ends]
    simp
  exact object _ _ _

end RegressionFixture

namespace FailureMemoryStore

variable {Moment : Type} {json : FixtureJson Moment} {path : String}

/-- The lines that the fixtures are recorded in. -/
def recorded (json : FixtureJson Moment) (fixtures : List (RegressionFixture Moment)) :
    List Char :=
  fixtures.flatMap (fun fixture => fixture.modelDumpJson json ++ ['\n'])

theorem record_all_text (fixtures : List (RegressionFixture Moment)) (text : List Char) :
    recordAll json (some text) fixtures = some (text ++ recorded json fixtures) := by
  induction fixtures generalizing text with
  | nil => simp [recordAll, recorded]
  | cons fixture rest appended =>
      have later : recordAll json (some text) (fixture :: rest) =
          recordAll json (some (text ++ (fixture.modelDumpJson json ++ ['\n']))) rest := rfl
      rw [later, appended]
      simp [recorded]

/-- The file after some fixtures were recorded into none. -/
theorem record_all_new (fixture : RegressionFixture Moment)
    (rest : List (RegressionFixture Moment)) :
    recordAll json none (fixture :: rest) = some (recorded json (fixture :: rest)) := by
  have first : recordAll json none (fixture :: rest) =
      recordAll json (some ([] ++ (fixture.modelDumpJson json ++ ['\n']))) rest := rfl
  rw [first, record_all_text]
  simp [recorded]

theorem recorded_plain (fixtures : List (RegressionFixture Moment)) :
    '\r' ∉ recorded json fixtures := by
  intro member
  obtain ⟨fixture, _, inside⟩ := List.mem_flatMap.mp member
  cases List.mem_append.mp inside with
  | inl written => exact absurd (RegressionFixture.dump_least written) (by decide)
  | inr ends => exact absurd (List.mem_singleton.mp ends) (by decide)

/-- What a reader makes of the lines of some fixtures. -/
theorem read_recorded_iff (fixtures : List (RegressionFixture Moment)) (lineno : Nat)
    (documented : ∀ fixture ∈ fixtures, ReadsBack json fixture) :
    readLines json path lineno (Lines.splitLines (recorded json fixtures)) = .ok fixtures ↔
      ∀ fixture ∈ fixtures, Lines.Unbroken (fixture.modelDumpJson json) := by
  induction fixtures generalizing lineno with
  | nil => simp [recorded, Lines.splitLines, readLines]
  | cons fixture rest read =>
      have promised := documented fixture List.mem_cons_self
      obtain ⟨body, object⟩ := @RegressionFixture.dump_closed _ fixture json
      have opens : isWhitespace '\x7b' = false := by decide
      have closes : isWhitespace '\x7d' = false := by decide
      have next := read (lineno + 1)
        (fun other member => documented other (List.mem_cons_of_mem _ member))
      have text : recorded json (fixture :: rest) =
          fixture.modelDumpJson json ++ '\n' :: recorded json rest := by
        simp [recorded]
      rw [List.forall_mem_cons, text]
      cases Lines.first_break (fixture.modelDumpJson json) with
      | inl unbroken =>
          have stripped : Lines.strip isWhitespace (fixture.modelDumpJson json) =
              fixture.modelDumpJson json := by
            rw [object]
            exact Lines.strip_closed opens closes
          have nonempty : fixture.modelDumpJson json ≠ [] := by
            rw [object]
            simp
          rw [Lines.split_line _ unbroken (by decide) (by decide), readLines]
          simp only [stripped, nonempty, if_false, promised.whole, unbroken, true_and]
          rw [← next]
          cases readLines json path (lineno + 1) (Lines.splitLines (recorded json rest)) with
          | error error => simp [bind, Except.bind]
          | ok fixtures => simp [bind, Except.bind, pure, Except.pure]
      | inr broken =>
          obtain ⟨line, character, left, split, unbroken, breaks⟩ := broken
          have member : character ∈ fixture.modelDumpJson json := by
            rw [split]
            simp
          have notReturn : character ≠ '\r' := by
            intro same
            exact absurd (RegressionFixture.dump_least (same ▸ member)) (by decide)
          have opened : ∃ others, line = '\x7b' :: others := by
            cases line with
            | nil =>
                rw [object] at split
                injection split with same
                rw [← same] at breaks
                exact absurd breaks (by decide)
            | cons first others =>
                rw [object] at split
                injection split with same
                exact ⟨others, by rw [same]⟩
          obtain ⟨others, rfl⟩ := opened
          obtain ⟨dropped, nonempty, prefixed⟩ := @Lines.strip_opened isWhitespace _ others opens
          have partlyText : Lines.strip isWhitespace ('\x7b' :: others) ++
              (dropped ++ character :: left) = fixture.modelDumpJson json := by
            rw [← List.append_assoc, prefixed, split]
          obtain ⟨message, refused⟩ := promised.partly _ _ nonempty (by simp) partlyText
          have lines : fixture.modelDumpJson json ++ '\n' :: recorded json rest =
              ('\x7b' :: others) ++ character :: (left ++ '\n' :: recorded json rest) := by
            rw [split]
            simp
          rw [lines, Lines.split_line _ unbroken breaks notReturn, readLines]
          simp only [nonempty, if_false, refused, if_true]
          constructor
          · intro impossible
            cases impossible
          · intro all
            rw [all.1 character member] at breaks
            cases breaks

theorem all_fixtures_iff (ascii : WritesAscii json) (fixtures : List (RegressionFixture Moment))
    (documented : ∀ fixture ∈ fixtures, ReadsBack json fixture) :
    allFixtures json path (recordAll json none fixtures) = .ok fixtures ↔
      ∀ fixture ∈ fixtures, fixture.SeparatorFree := by
  have lines := @read_recorded_iff _ json path fixtures 1 documented
  have free : (∀ fixture ∈ fixtures, Lines.Unbroken (fixture.modelDumpJson json)) ↔
      ∀ fixture ∈ fixtures, fixture.SeparatorFree := by
    constructor
    · intro unbroken fixture member
      exact (RegressionFixture.unbroken_iff ascii).mp (unbroken fixture member)
    · intro all fixture member
      exact (RegressionFixture.unbroken_iff ascii).mpr (all fixture member)
  cases fixtures with
  | nil => simp [recordAll, allFixtures]
  | cons fixture rest =>
      rw [record_all_new, allFixtures, Lines.newlines_plain (recorded_plain _), lines, free]

end FailureMemoryStore

end KarmaSakshi.Integrations

namespace KarmaSakshi.Guarantees

open KarmaSakshi.Domain KarmaSakshi.Integrations

/-- The failure memory returns the recorded fixtures in order, whoever opens the file, just if
no string of any of them holds the next-line control or a line or paragraph separator. -/
theorem failure_memory_round_trips_iff {Moment : Type} (json : FixtureJson Moment) (path : String)
    (fixtures : List (RegressionFixture Moment)) (ascii : WritesAscii json)
    (documented : ∀ fixture ∈ fixtures, ReadsBack json fixture) :
    FailureMemoryStore.allFixtures json path (FailureMemoryStore.recordAll json none fixtures) =
      .ok fixtures ↔ ∀ fixture ∈ fixtures, fixture.SeparatorFree :=
  FailureMemoryStore.all_fixtures_iff ascii fixtures documented

/-! ### A failed transfer, and its detail on two lines -/

namespace Failed

/-- A transfer of New Year whose outcome has this detail. -/
def transfer (detail : String) : RegressionFixture Unit where
  schemaVersion := "1.0"
  exportedAt := ()
  effectType := "payment.transfer"
  adapterId := "payment.simulator"
  adapterVersion := "1.0.0"
  normalizedInputs := ⟨[("amount_minor_units", .int 900)], by simp⟩
  expectedEffect := ⟨[("target_resource", some "payment:beneficiary/landlord")], by simp⟩
  observedOutcome := ⟨[("commit_success", .bool false), ("detail", .text detail)], by simp⟩
  failureCategory := "commit_failed"
  invariant := none
  reproductionMetadata := ⟨[("idempotency_key", "rent-1")], by simp⟩

/-- A library that knows no fixture. -/
def newYear : FixtureJson Unit where
  writeMoment _ := "2026-01-01T00:00:00Z"
  validateJson _ := .error ⟨.validationError, "Invalid JSON"⟩

/-- The library on the text of one fixture. -/
def json (fixture : RegressionFixture Unit) : FixtureJson Unit :=
  { newYear with
    validateJson := fun text =>
      if text = fixture.modelDumpJson newYear then .ok fixture else newYear.validateJson text }

theorem json_writes_ascii (fixture : RegressionFixture Unit) : WritesAscii (json fixture) := by
  have letters : ∀ character ∈ "2026-01-01T00:00:00Z".toList, character.toNat < 127 := by simp
  intro moment
  exact letters

theorem json_reads_back (fixture : RegressionFixture Unit) : ReadsBack (json fixture) fixture where
  whole := if_pos rfl
  partly first rest _ left split := by
    have shorter : first ≠ fixture.modelDumpJson newYear := by
      intro same
      have lengths := congrArg List.length split
      rw [List.length_append, same] at lengths
      have more := List.length_pos_of_ne_nil left
      have again : (fixture.modelDumpJson (json fixture)).length =
        (fixture.modelDumpJson newYear).length := rfl
      omega
    exact ⟨"Invalid JSON", if_neg shorter⟩

theorem detail_listed (detail : String) : detail ∈ (transfer detail).texts := by
  simp [transfer, RegressionFixture.texts, Mapping.texts, outcomeTexts]

end Failed

/-- A detail with other characters than ASCII ones is read back. -/
theorem zurich_is_read_back :
    FailureMemoryStore.allFixtures (Failed.json (Failed.transfer "Zürich refused")) "memory.jsonl"
      (FailureMemoryStore.recordAll (Failed.json (Failed.transfer "Zürich refused")) none
        [Failed.transfer "Zürich refused"]) = .ok [Failed.transfer "Zürich refused"] := by
  apply (failure_memory_round_trips_iff _ _ _ (Failed.json_writes_ascii _) _).mpr
  · intro fixture member
    rw [List.mem_singleton.mp member]
    simp [RegressionFixture.SeparatorFree, RegressionFixture.texts, Failed.transfer, Mapping.texts,
      parameterTexts, outcomeTexts, lineSeparators]
  · intro fixture member
    rw [List.mem_singleton.mp member]
    exact Failed.json_reads_back _

/-- A detail with a line separator is not, although its text is. -/
theorem separated_detail_is_not_read_back :
    ReadsBack (Failed.json (Failed.transfer "refused\u2028twice"))
      (Failed.transfer "refused\u2028twice") ∧
    FailureMemoryStore.allFixtures (Failed.json (Failed.transfer "refused\u2028twice"))
      "memory.jsonl" (FailureMemoryStore.recordAll
        (Failed.json (Failed.transfer "refused\u2028twice")) none
        [Failed.transfer "refused\u2028twice"]) ≠ .ok [Failed.transfer "refused\u2028twice"] := by
  have promised := Failed.json_reads_back (Failed.transfer "refused\u2028twice")
  refine ⟨promised, ?_⟩
  intro returned
  have free := (FailureMemoryStore.all_fixtures_iff (Failed.json_writes_ascii _) _ (by
    intro fixture member
    rw [List.mem_singleton.mp member]
    exact promised)).mp returned _ (List.mem_singleton_self _)
  exact free _ (Failed.detail_listed _) '\u2028' (by decide) (by decide)

end KarmaSakshi.Guarantees
