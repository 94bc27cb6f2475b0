import KarmaSakshi.Domain.CanonicalForm
import KarmaSakshi.Domain.EnvelopeAttenuation
import KarmaSakshi.Domain.ManifestDraft

/-!
Policy payloads: the plain values a policy is written as, and their typed readers.

Every reader raises `ValueError` on a missing key and on a value of another type.  What the
writers of this development produce is read back as it was, and the hash of a payload
determines its texts.
-/

namespace KarmaSakshi.Domain

open Json (Document)

set_option autoImplicit false

abbrev PayloadValue := Document String

abbrev Payload := Dict PayloadValue

def valueError {Value : Type} (message : String) : Except PyError Value :=
  .error ⟨.other "ValueError", message⟩

/-! ### Python's view of a value -/

/-- `type(value).__name__`. -/
def payloadTypeName : PayloadValue → String
  | .null => "NoneType"
  | .bool _ => "bool"
  | .int _ => "int"
  | .text _ => "str"
  | .array _ => "list"
  | .object _ => "dict"

mutual

/-- `repr(value)`. -/
def payloadRepr : PayloadValue → String
  | .null => "None"
  | .bool value => if value then "True" else "False"
  | .int value => toString value
  | .text value => pyRepr value
  | .array items => "[" ++ commaSeparated (itemsRepr items) ++ "]"
  | .object members => "\x7b" ++ commaSeparated (membersRepr members) ++ "\x7d"

def itemsRepr : List PayloadValue → List String
  | [] => []
  | item :: rest => payloadRepr item :: itemsRepr rest

def membersRepr : List (String × PayloadValue) → List String
  | [] => []
  | (key, value) :: rest => (pyRepr key ++ ": " ++ payloadRepr value) :: membersRepr rest

end

/-- `isinstance(value, int)`, with the integer: a `bool` is one too. -/
def payloadInt : PayloadValue → Option Int
  | .int value => some value
  | .bool value => some (if value then 1 else 0)
  | _ => none

def payloadText : PayloadValue → Option String
  | .text value => some value
  | _ => none

/-- Three ascending amounts or scores; their order is checked where they are used. -/
structure Thresholds where
  low : Int
  mid : Int
  high : Int
  deriving DecidableEq

/-- `repr` of the tuple. -/
def Thresholds.text (thresholds : Thresholds) : String :=
  "(" ++ commaSeparated [toString thresholds.low, toString thresholds.mid,
    toString thresholds.high] ++ ")"

/-! ### Readers -/

/-- Whose payload it is, and whether its messages end with the type that was found. -/
structure Reading where
  subject : String
  namesType : Bool

namespace Payload

section Readers

variable (reading : Reading) (payload : Payload) (key : String)

def requireKey : Except PyError PayloadValue :=
  match payload.get key with
  | some value => .ok value
  | none => valueError (reading.subject ++ " payload is missing required key " ++ pyRepr key)

def misread {Value : Type} (expectation : String) : Except PyError Value :=
  valueError (reading.subject ++ " payload key " ++ pyRepr key ++ " " ++ expectation)

/-- A misreading that may name the type of what was found. -/
def mistyped {Value : Type} (expectation : String) (found : PayloadValue) : Except PyError Value :=
  misread reading key (expectation ++
    (if reading.namesType then ", got " ++ payloadTypeName found else ""))

def asStr : Except PyError String := do
  let value ← requireKey reading payload key
  match value with
  | .text text => .ok text
  | found => mistyped reading key "must be a string" found

def asInt : Except PyError Int := do
  let value ← requireKey reading payload key
  match value with
  | .int number => .ok number
  | found => mistyped reading key "must be an int" found

def asBool : Except PyError Bool := do
  let value ← requireKey reading payload key
  match value with
  | .bool flag => .ok flag
  | _ => misread reading key "must be a bool"

def asTupleStr : Except PyError (List String) := do
  let value ← requireKey reading payload key
  match value with
  | .array items =>
      match items.mapM payloadText with
      | some texts => .ok texts
      | none => misread reading key "must be a list of strings"
  | _ => misread reading key "must be a list of strings"

/-- Three integers out of a list. -/
def threeInts : PayloadValue → Option Thresholds
  | .array [first, second, third] => do
      let low ← payloadInt first
      let mid ← payloadInt second
      let high ← payloadInt third
      pure ⟨low, mid, high⟩
  | _ => none

def asInt3 : Except PyError Thresholds := do
  let value ← requireKey reading payload key
  match threeInts value with
  | some thresholds => .ok thresholds
  | none => misread reading key "must be a 3-element list of ints"

/-- The members of an object, each value by a reader of its own. -/
def readMembers {Value : Type} (read : PayloadValue → Except PyError Value) :
    List (String × PayloadValue) → Except PyError (List (String × Value))
  | [] => .ok []
  | (name, value) :: rest => do
      let first ← read value
      let others ← readMembers read rest
      .ok ((name, first) :: others)

def pointsMember : PayloadValue → Except PyError Int
  | .int number => .ok number
  | _ => misread reading key "must map str -> int"

def asDictStrInt : Except PyError (Dict Int) := do
  let value ← requireKey reading payload key
  match value with
  | .object members => do
      let items ← readMembers (pointsMember reading key) members
      .ok (Dict.ofItems items)
  | found => mistyped reading key "must be an object" found

def amountMember (found : PayloadValue) : Except PyError Thresholds :=
  match threeInts found with
  | some thresholds => .ok thresholds
  | none => misread reading key "is malformed"

def asAmountThresholds : Except PyError (Dict Thresholds) := do
  let value ← requireKey reading payload key
  match value with
  | .object members => do
      let items ← readMembers (amountMember reading key) members
      .ok (Dict.ofItems items)
  | _ => misread reading key "must be an object"

/-- A list of two strings. -/
def stringPair : PayloadValue → Option (String × String)
  | .array [.text first, .text second] => some (first, second)
  | _ => none

def readPairs : List PayloadValue → Except PyError (List (String × String))
  | [] => .ok []
  | entry :: rest =>
      match stringPair entry with
      | none => misread reading key ("entries must each be a 2-element list of strings, got " ++
          payloadRepr entry)
      | some pair => do
          let others ← readPairs rest
          .ok (pair :: others)

def asRolePairs : Except PyError (List (String × String)) := do
  let value ← requireKey reading payload key
  match value with
  | .array entries => readPairs reading key entries
  | _ => misread reading key "must be a list"

end Readers

end Payload

/-! ### Writers -/

def textsPayload (texts : List String) : PayloadValue := .array (texts.map .text)

def Thresholds.payload (thresholds : Thresholds) : PayloadValue :=
  .array [.int thresholds.low, .int thresholds.mid, .int thresholds.high]

def dictPayload {Value : Type} (write : Value → PayloadValue) (dict : Dict Value) : PayloadValue :=
  .object (dict.entries.map (fun entry => (entry.1, write entry.2)))

def pairPayload (pair : String × String) : PayloadValue := .array [.text pair.1, .text pair.2]

/-! ### Dictionaries by their entries -/

namespace Dict

variable {Value : Type} {left right : Dict Value}

/-- A dictionary is its entries, in whatever order they are read. -/
theorem of_entries (members : ∀ entry, entry ∈ left.entries ↔ entry ∈ right.entries) :
    left = right := by
  have distinct : left.entries.Nodup := List.Nodup.of_map _ (left.ordered.imp ne_of_lt)
  have otherDistinct : right.entries.Nodup := List.Nodup.of_map _ (right.ordered.imp ne_of_lt)
  have permuted := (List.perm_ext_iff_of_nodup distinct otherDistinct).mpr members
  have listed : left.entries = right.entries :=
    permuted.eq_of_pairwise (fun _ _ _ _ less greater => absurd greater (lt_asymm less))
      (List.pairwise_map.mp left.ordered) (List.pairwise_map.mp right.ordered)
  cases left
  cases right
  cases listed
  rfl

theorem of_get (same : ∀ key, left.get key = right.get key) : left = right := by
  apply of_entries
  intro entry
  rw [← get_some_iff, ← get_some_iff, same]

/-- Items put one after the other, each under a key of its own. -/
theorem get_of_items {items : List (String × Value)} (distinct : (items.map Prod.fst).Nodup)
    (dict : Dict Value) (key : String) :
    (items.foldl (fun dict item => dict.put item.1 item.2) dict).get key =
      (items.lookup key).or (dict.get key) := by
  induction items generalizing dict with
  | nil => rfl
  | cons item rest ih =>
      obtain ⟨fresh, restDistinct⟩ := List.nodup_cons.mp distinct
      rw [List.foldl_cons, ih restDistinct, get_put, List.lookup]
      by_cases same : key = item.1
      · have absent : rest.lookup key = none := by
          rw [List.lookup_eq_none_iff]
          intro other member
          have differs : key ≠ other.1 := fun equal =>
            fresh (same ▸ equal ▸ List.mem_map_of_mem member)
          simpa using differs
        rw [same] at absent ⊢
        simp [absent]
      · rw [if_neg same, beq_eq_false_iff_ne.mpr same]

theorem get_of_item {items : List (String × Value)} {key : String} {value : Value}
    (distinct : (items.map Prod.fst).Nodup) (member : (key, value) ∈ items) :
    (ofItems items).get key = some value := by
  rw [ofItems, get_of_items distinct, get_empty, Option.or_none, List.lookup_eq_some_iff]
  obtain ⟨front, back, split⟩ := List.append_of_mem member
  refine ⟨front, back, split, ?_⟩
  intro entry before
  rw [split, List.map_append, List.nodup_append] at distinct
  have differs := distinct.2.2 entry.1 (List.mem_map_of_mem before) key List.mem_cons_self
  simpa using differs.symm

theorem of_items_entries (dict : Dict Value) : ofItems dict.entries = dict := by
  apply of_get
  intro key
  rw [ofItems, get_of_items (dict.ordered.imp ne_of_lt), get_empty, Option.or_none]
  rfl

end Dict

/-! ### Reading back -/

namespace Payload

section ReadingBack

variable {reading : Reading} {payload : Payload} {key : String}

theorem required {value : PayloadValue} (held : payload.get key = some value) :
    requireKey reading payload key = .ok value := by
  rw [requireKey, held]

theorem reads_str {text : String} (held : payload.get key = some (.text text)) :
    asStr reading payload key = .ok text := by
  rw [asStr, requireKey, held]
  rfl

theorem reads_int {number : Int} (held : payload.get key = some (.int number)) :
    asInt reading payload key = .ok number := by
  rw [asInt, requireKey, held]
  rfl

theorem reads_bool {flag : Bool} (held : payload.get key = some (.bool flag)) :
    asBool reading payload key = .ok flag := by
  rw [asBool, requireKey, held]
  rfl

theorem texts_read_back (texts : List String) :
    (texts.map (Document.text : String → PayloadValue)).mapM payloadText = some texts := by
  induction texts with
  | nil => rfl
  | cons text rest ih =>
      rw [List.map_cons, List.mapM_cons, ih]
      rfl

theorem reads_texts {texts : List String} (held : payload.get key = some (textsPayload texts)) :
    asTupleStr reading payload key = .ok texts := by
  rw [asTupleStr, required held]
  simp only [textsPayload, bind, Except.bind, texts_read_back]

theorem reads_thresholds {thresholds : Thresholds}
    (held : payload.get key = some thresholds.payload) :
    asInt3 reading payload key = .ok thresholds := by
  rw [asInt3, requireKey, held]
  rfl

theorem reads_members {Value : Type} {read : PayloadValue → Except PyError Value}
    {write : Value → PayloadValue} (back : ∀ value, read (write value) = .ok value)
    (entries : List (String × Value)) :
    readMembers read (entries.map (fun entry => (entry.1, write entry.2))) = .ok entries := by
  induction entries with
  | nil => rfl
  | cons entry rest ih =>
      rw [List.map_cons, readMembers, back, ih]
      rfl

theorem reads_dict {dict : Dict Int} (held : payload.get key = some (dictPayload .int dict)) :
    asDictStrInt reading payload key = .ok dict := by
  have members : readMembers (pointsMember reading key)
      (dict.entries.map (fun entry => (entry.1, Document.int entry.2))) = .ok dict.entries := by
    apply reads_members
    exact fun _ => rfl
  exact except_bind_of_ok (required held)
    (except_bind_of_ok members (congrArg Except.ok dict.of_items_entries))

theorem reads_amounts {dict : Dict Thresholds}
    (held : payload.get key = some (dictPayload Thresholds.payload dict)) :
    asAmountThresholds reading payload key = .ok dict := by
  have members : readMembers (amountMember reading key)
      (dict.entries.map (fun entry => (entry.1, entry.2.payload))) = .ok dict.entries := by
    apply reads_members
    exact fun _ => rfl
  exact except_bind_of_ok (required held)
    (except_bind_of_ok members (congrArg Except.ok dict.of_items_entries))

theorem pairs_read_back (pairs : List (String × String)) :
    readPairs reading key (pairs.map pairPayload) = .ok pairs := by
  induction pairs with
  | nil => rfl
  | cons pair rest ih => exact except_bind_of_ok ih rfl

theorem reads_pairs {pairs : List (String × String)}
    (held : payload.get key = some (.array (pairs.map pairPayload))) :
    asRolePairs reading payload key = .ok pairs :=
  except_bind_of_ok (required held) (pairs_read_back pairs)

end ReadingBack

/-! ### Hashes -/

section Hashes

variable (sha256 : ByteArray → String) (payload : Payload)

/-- What `_to_plain` makes of a payload, which is plain already. -/
def plain : Document Json.Text := (Document.object payload.entries).mapText Json.ofString

def canonicalHash : String := sha256 (String.ofList (dumps payload.plain)).toUTF8

variable {sha256 payload} {other : Payload} {key text otherText : String}

theorem mem_map_text {members : List (String × PayloadValue)} {value : PayloadValue}
    (member : (key, value) ∈ members) :
    (Json.ofString key, value.mapText Json.ofString) ∈
      Document.mapMembers Json.ofString members := by
  induction members with
  | nil => cases member
  | cons first rest ih =>
      obtain ⟨name, found⟩ := first
      rw [Document.mapMembers]
      rcases List.mem_cons.mp member with same | inside
      · obtain ⟨rfl, rfl⟩ := Prod.mk.inj same
        exact List.mem_cons_self
      · exact List.mem_cons_of_mem _ (ih inside)

theorem of_mem_map_text {members : List (String × PayloadValue)} {name : Json.Text}
    {tree : Document Json.Text} (member : (name, tree) ∈ Document.mapMembers Json.ofString members) :
    ∃ key value, (key, value) ∈ members ∧ Json.ofString key = name ∧
      value.mapText Json.ofString = tree := by
  induction members with
  | nil => cases member
  | cons first rest ih =>
      obtain ⟨key, value⟩ := first
      rw [Document.mapMembers] at member
      rcases List.mem_cons.mp member with same | inside
      · obtain ⟨rfl, rfl⟩ := Prod.mk.inj same
        exact ⟨key, value, List.mem_cons_self, rfl, rfl⟩
      · obtain ⟨other, found, listed, names, values⟩ := ih inside
        exact ⟨other, found, List.mem_cons_of_mem _ listed, names, values⟩

/-- A text survives in the written form of its payload. -/
theorem written_text {value : PayloadValue} (same : written (value.mapText Json.ofString) =
    written ((Document.text text : PayloadValue).mapText Json.ofString)) : value = .text text := by
  cases value with
  | text found =>
      have units : Json.units (Json.ofString found) = Json.units (Json.ofString text) :=
        Document.text.inj same
      rw [Json.units_of_string_injective units]
  | null => cases same
  | bool flag => cases same
  | int number => cases same
  | array items => cases same
  | object members => cases same

/-- Payloads of one hash hold the same texts. -/
theorem hash_shows_text (injective : Function.Injective sha256)
    (same : canonicalHash sha256 payload = canonicalHash sha256 other)
    (held : payload.get key = some (.text text)) : other.get key = some (.text text) := by
  have texts : dumps payload.plain = dumps other.plain :=
    String.ofList_injective (String.toByteArray_inj.mp (injective same))
  have trees : written payload.plain = written other.plain := Document.print_injective texts
  obtain ⟨listed, isWritten, members⟩ :=
    written_object (Document.mapMembers Json.ofString payload.entries)
  obtain ⟨otherListed, otherWritten, otherMembers⟩ :=
    written_object (Document.mapMembers Json.ofString other.entries)
  have lists : listed = otherListed :=
    Document.object.inj (isWritten.symm.trans (trees.trans otherWritten))
  have shown := (members _ _).mpr ⟨_, _, mem_map_text (Dict.get_some_iff.mp held), rfl, rfl⟩
  rw [lists, otherMembers] at shown
  obtain ⟨name, tree, inside, names, values⟩ := shown
  obtain ⟨found, value, entry, rfl, rfl⟩ := of_mem_map_text inside
  obtain rfl := Json.units_of_string_injective names
  rw [written_text values] at entry
  exact Dict.get_some_iff.mpr entry

end Hashes

end Payload

end KarmaSakshi.Domain
