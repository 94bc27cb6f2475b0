import KarmaSakshi.Domain.Substitution
import KarmaSakshi.Guarantees.Canonical
import KarmaSakshi.Guarantees.EnvelopeAttenuation

/-!
Substitution against the fitness rules of the envelope.

What substitution returns always fits.  Of parameters that fit already it makes the same
ones again, except that an exact constraint emits its sealed value: a choice that Python
holds equal to it, such as `True` for `1`, comes out with another encoding.
-/

namespace KarmaSakshi.Guarantees

open Json (ofString)
open KarmaSakshi.Domain

set_option autoImplicit false

/-! ### The parameter rules -/

/-- The rules of `assert_manifest_fits_envelope` about the parameters. -/
structure FitsParameters (parameters : Dict ParameterValue) (envelope : DecisionEnvelope) :
    Prop where
  known : envelope.forbidUnknownParameters = true →
    parameters.keys ⊆ envelope.parameterConstraints.keys
  present : envelope.requireAllConstrainedParameters = true →
    envelope.parameterConstraints.keys ⊆ parameters.keys
  accepted : ∀ entry ∈ envelope.parameterConstraints.entries,
    ∀ value ∈ parameters.get entry.1, entry.2.accepts value = .ok ()

/-- They are the two checks of the source that read the parameters. -/
theorem fits_parameters_iff {manifest : EffectManifest} {envelope : DecisionEnvelope} :
    FitsParameters manifest.parameters envelope ↔
      fitsParameterKeys manifest envelope = .ok () ∧
        envelope.parameterConstraints.entries.forM (fitsConstraint manifest.parameters) = .ok () := by
  rw [fits_keys_iff, for_all_ok]
  simp only [fits_constraint_iff]
  constructor
  · intro fits
    exact ⟨⟨fits.known, fits.present⟩, fits.accepted⟩
  · intro checks
    exact ⟨checks.1.1, checks.1.2, checks.2⟩

/-! ### The encoding of parameters -/

def parameterJson : ParameterValue → PyValue Empty
  | .text value => textValue value
  | .int value => .int value
  | .bool value => .bool value
  | .none => .none

def parametersJson (parameters : Dict ParameterValue) : PyValue Empty :=
  .mapping (parameters.entries.map
    (fun entry => (.text (ofString entry.1), parameterJson entry.2)))

/-- The canonical bytes of a parameter dictionary. -/
def encodeParameters (parameters : Dict ParameterValue) : Except PyError ByteArray :=
  canonicalJsonBytes stringKeysOnly (parametersJson parameters)

/-- The strings and the keys of parameter dictionaries. -/
def stringTexts : Set Json.Text := Set.range ofString

def stringKeys : Set (PyKey Empty) := Set.range (fun key => .text (ofString key))

theorem string_texts_apart : Set.InjOn Json.units stringTexts := by
  rintro _ ⟨text, rfl⟩ _ ⟨other, rfl⟩ same
  rw [Json.units_of_string_injective same]

theorem string_keys_apart :
    Set.InjOn (fun key => Json.units (key.printed stringKeysOnly)) stringKeys := by
  rintro _ ⟨key, rfl⟩ _ ⟨other, rfl⟩ same
  have texts : key = other := Json.units_of_string_injective same
  rw [texts]

theorem string_key_injective :
    Function.Injective (fun key => (PyKey.text (ofString key) : PyKey Empty)) := by
  intro key other same
  exact Json.units_of_string_injective (congrArg Json.units (PyKey.text.inj same))

theorem parameter_drawn (value : ParameterValue) :
    DrawnFrom stringTexts stringKeys (parameterJson value) := by
  cases value with
  | text value => exact .text ⟨value, rfl⟩
  | int value => exact .int value
  | bool value => exact .bool value
  | none => exact .none

theorem parameters_drawn (parameters : Dict ParameterValue) :
    DrawnFrom stringTexts stringKeys (parametersJson parameters) := by
  refine .mapping ?_ ?_ ?_
  · have distinct : parameters.keys.Nodup := parameters.ordered.imp ne_of_lt
    have mapped := distinct.map string_key_injective
    rw [Dict.keys, List.map_map] at mapped
    rw [List.map_map]
    exact mapped
  · intro item member
    obtain ⟨entry, _, rfl⟩ := List.mem_map.mp member
    exact ⟨entry.1, rfl⟩
  · intro item member
    obtain ⟨entry, _, rfl⟩ := List.mem_map.mp member
    exact parameter_drawn entry.2

theorem members_encode (entries : List (String × ParameterValue)) : ∃ plain,
    PyValue.membersToPlain stringKeysOnly (entries.map
      (fun entry => (.text (ofString entry.1), parameterJson entry.2))) = .ok plain := by
  induction entries with
  | nil => exact ⟨[], rfl⟩
  | cons entry rest ih =>
      obtain ⟨others, converted⟩ := ih
      obtain ⟨first, plain⟩ : ∃ first,
          (parameterJson entry.2).toPlain stringKeysOnly = .ok first := by
        cases entry.2 <;> exact ⟨_, rfl⟩
      exact ⟨_, except_bind_of_ok plain (except_bind_of_ok converted rfl)⟩

theorem parameters_encode (parameters : Dict ParameterValue) :
    ∃ bytes, encodeParameters parameters = .ok bytes := by
  obtain ⟨plain, converted⟩ := members_encode parameters.entries
  have whole : (parametersJson parameters).toPlain stringKeysOnly =
      .ok (.object (dictOf plain)) := except_bind_of_ok converted rfl
  exact ⟨_, except_bind_of_ok whole rfl⟩

theorem same_text {left right : Json.Text}
    (same : SameValue (.text left : PyValue Empty) (.text right)) : left = right := by
  cases same
  rfl

theorem same_value_same_parameter {value other : ParameterValue}
    (same : SameValue (parameterJson value) (parameterJson other)) : value = other := by
  cases value with
  | text left =>
      cases other with
      | text right =>
          have texts := Json.units_of_string_injective (congrArg Json.units (same_text same))
          rw [texts]
      | int right => cases same
      | bool right => cases same
      | none => cases same
  | int left =>
      cases other with
      | int right =>
          cases same
          rfl
      | text right => cases same
      | bool right => cases same
      | none => cases same
  | bool left =>
      cases other with
      | bool right =>
          cases same
          rfl
      | text right => cases same
      | int right => cases same
      | none => cases same
  | none =>
      cases other with
      | none => rfl
      | text right => cases same
      | int right => cases same
      | bool right => cases same

/-! ### Dictionaries told apart by their bytes -/

section Apart

variable {left right : Dict ParameterValue}

theorem members_within (keys : ∀ key, key ∈ left.keys → key ∈ right.keys)
    (values : ∀ key value other, (key, value) ∈ left.entries → (key, other) ∈ right.entries →
      value = other) {entry : String × ParameterValue} (member : entry ∈ left.entries) :
    entry ∈ right.entries := by
  obtain ⟨other, there, key⟩ :=
    List.mem_map.mp (keys entry.1 (List.mem_map_of_mem member))
  have same : entry.2 = other.2 := values entry.1 entry.2 other.2 member (key ▸ there)
  have equal : entry = other := Prod.ext key.symm same
  rwa [equal]

/-- A dictionary is its entries, in whatever order they are read. -/
theorem dict_of_entries (members : ∀ entry, entry ∈ left.entries ↔ entry ∈ right.entries) :
    left = right := by
  have distinct : left.entries.Nodup := List.Nodup.of_map _ (left.ordered.imp ne_of_lt)
  have otherDistinct : right.entries.Nodup := List.Nodup.of_map _ (right.ordered.imp ne_of_lt)
  have permuted := (List.perm_ext_iff_of_nodup distinct otherDistinct).mpr members
  have listed : left.entries = right.entries :=
    permuted.eq_of_pairwise (fun _ _ _ _ less greater => absurd greater (lt_asymm less))
      (List.pairwise_map.mp left.ordered) (List.pairwise_map.mp right.ordered)
  cases left
  cases right
  cases listed
  rfl

theorem dict_of_keys (keys : ∀ key, key ∈ left.keys ↔ key ∈ right.keys)
    (values : ∀ key value other, (key, value) ∈ left.entries → (key, other) ∈ right.entries →
      value = other) : left = right := by
  apply dict_of_entries
  intro entry
  constructor
  · exact members_within (fun key => (keys key).mp) values
  · apply members_within (fun key => (keys key).mpr)
    intro key value other here there
    exact (values key other value there here).symm

theorem key_listed {parameters : Dict ParameterValue} {key : String} :
    (PyKey.text (ofString key) : PyKey Empty) ∈ (parameters.entries.map
      (fun entry => (PyKey.text (ofString entry.1), parameterJson entry.2))).map Prod.fst ↔
      key ∈ parameters.keys := by
  rw [List.map_map]
  constructor
  · intro listed
    obtain ⟨entry, member, same⟩ := List.mem_map.mp listed
    rw [← string_key_injective same]
    exact List.mem_map_of_mem member
  · intro inside
    obtain ⟨entry, member, same⟩ := List.mem_map.mp inside
    rw [← same]
    exact List.mem_map.mpr ⟨entry, member, rfl⟩

theorem same_parameters (same : SameValue (parametersJson left) (parametersJson right)) :
    left = right := by
  cases same with
  | mapping keys values =>
      apply dict_of_keys
      · intro key
        rw [← key_listed, ← key_listed]
        exact keys _
      · intro key value other here there
        exact same_value_same_parameter
          (values _ _ _ (List.mem_map_of_mem here) (List.mem_map_of_mem there))

/-- Equal bytes are equal dictionaries, values and value types included. -/
theorem encoded_alike_iff : encodeParameters left = encodeParameters right ↔ left = right := by
  constructor
  · intro alike
    obtain ⟨bytes, encoded⟩ := parameters_encode left
    obtain ⟨tree, writes, writesToo⟩ := same_bytes_same_tree encoded (alike ▸ encoded)
    exact same_parameters (same_tree_same_value string_texts_apart string_keys_apart
      (parameters_drawn left) (parameters_drawn right) writes writesToo)
  · intro same
    rw [same]

end Apart

/-! ### Soundness and completeness -/

section Rules

variable {envelope : DecisionEnvelope} {choices parameters result : Dict ParameterValue}

/-- Choices for constrained parameters only are run through the loop. -/
theorem known_choices_loop (known : choices.keys ⊆ envelope.parameterConstraints.keys) :
    substituteParameters envelope choices =
      substituteEntries choices envelope.parameterConstraints.entries .empty :=
  if_neg (not_not.mpr (no_excess.mpr known))

/-- What substitution returns satisfies every parameter rule, whatever the flags say. -/
theorem substituted_fits (returned : substituteParameters envelope choices = .ok result) :
    FitsParameters result envelope := by
  by_cases known : choices.keys ⊆ envelope.parameterConstraints.keys
  · rw [known_choices_loop known] at returned
    obtain ⟨emitted, untouched⟩ :=
      substituted_entries envelope.parameterConstraints.ordered returned
    refine ⟨fun _ key held => ?_, fun _ key constrained => ?_, fun entry member value held => ?_⟩
    · by_contra outside
      have absent := untouched key outside
      obtain ⟨value, there⟩ := Dict.mem_keys_iff.mp held
      rw [there] at absent
      cases absent
    · obtain ⟨entry, member, rfl⟩ := List.mem_map.mp constrained
      obtain ⟨value, _, held⟩ := emitted entry member
      exact Dict.mem_keys_iff.mpr ⟨value, held⟩
    · obtain ⟨chosen, emits, there⟩ := emitted entry member
      have same : chosen = value := Option.some.inj (there.symm.trans held)
      exact same ▸ substituted_accepted emits
  · rw [substituteParameters, if_pos (fun nothing => known (no_excess.mp nothing))] at returned
    cases returned

/-- Every constrained parameter of a fitting dictionary is emitted. -/
theorem fitting_emits (strict : envelope.requireAllConstrainedParameters = true)
    (fits : FitsParameters parameters envelope) {entry : String × ParameterConstraint}
    (member : entry ∈ envelope.parameterConstraints.entries) :
    ∃ chosen, parameters.get entry.1 = some chosen ∧
      substituteParameter parameters entry = .ok (match entry.2 with
        | .exact exactValue => exactValue
        | _ => chosen) := by
  obtain ⟨chosen, held⟩ := Dict.mem_keys_iff.mp (fits.present strict (List.mem_map_of_mem member))
  exact ⟨chosen, held, acceptable_is_substituted held (fits.accepted entry member chosen held)⟩

theorem fitting_substitutes (forbids : envelope.forbidUnknownParameters = true)
    (strict : envelope.requireAllConstrainedParameters = true)
    (fits : FitsParameters parameters envelope) :
    ∃ result, substituteParameters envelope parameters = .ok result := by
  rw [known_choices_loop (fits.known forbids)]
  apply substitution_returns
  intro entry member
  obtain ⟨chosen, _, emits⟩ := fitting_emits strict fits member
  exact ⟨_, emits⟩

/-- Under both strict flags, a fitting dictionary comes out unchanged exactly when it holds
the exact values themselves. -/
theorem unchanged_iff (strict : envelope.requireAllConstrainedParameters = true)
    (forbids : envelope.forbidUnknownParameters = true)
    (fits : FitsParameters parameters envelope)
    (returned : substituteParameters envelope parameters = .ok result) :
    result = parameters ↔ ∀ key exactValue,
      envelope.parameterConstraints.get key = some (.exact exactValue) →
        parameters.get key = some exactValue := by
  have resultFits := substituted_fits returned
  rw [known_choices_loop (fits.known forbids)] at returned
  obtain ⟨emitted, untouched⟩ := substituted_entries envelope.parameterConstraints.ordered returned
  constructor
  · intro same key exactValue constrained
    have member := Dict.get_some_iff.mp constrained
    obtain ⟨value, emits, held⟩ := emitted (key, .exact exactValue) member
    obtain ⟨chosen, _, substituted⟩ := fitting_emits strict fits member
    have exactly : exactValue = value := Except.ok.inj (substituted.symm.trans emits)
    rw [← same, held, exactly]
  · intro exactly
    apply dict_of_keys
    · intro key
      exact ⟨fun inside => fits.present strict (resultFits.known forbids inside),
        fun inside => resultFits.present strict (fits.known forbids inside)⟩
    · intro key value other here there
      obtain ⟨constraint, constrained⟩ := Dict.mem_keys_iff.mp (fits.known forbids
        (List.mem_map_of_mem there))
      have member := Dict.get_some_iff.mp constrained
      obtain ⟨emittedValue, emits, held⟩ := emitted (key, constraint) member
      obtain ⟨chosen, chooses, substituted⟩ := fitting_emits strict fits member
      have fromResult := Dict.get_some_iff.mpr here
      have fromParameters := Dict.get_some_iff.mpr there
      have emittedSame : emittedValue = value := Option.some.inj (held.symm.trans fromResult)
      have chosenSame : chosen = other := Option.some.inj (chooses.symm.trans fromParameters)
      have passed := Except.ok.inj (emits.symm.trans substituted)
      rw [← emittedSame, passed, ← chosenSame]
      cases constraint with
      | exact exactValue =>
          have own := exactly key exactValue constrained
          exact Option.some.inj (own.symm.trans chooses)
      | enum allowed nonempty => rfl
      | integerRange low high bounded => rfl
      | monetaryRange currency low high bounded => rfl

end Rules

/-- What substitution returns satisfies the parameter rules.  Of a dictionary that satisfies
them under both strict flags it makes one with the same canonical bytes exactly when every
exact constraint is met by its own value, not by one that is only equal to it. -/
theorem substitution_sound_and_complete_iff (envelope : DecisionEnvelope) :
    (∀ choices result, substituteParameters envelope choices = .ok result →
      FitsParameters result envelope) ∧
    ∀ parameters, envelope.forbidUnknownParameters = true →
      envelope.requireAllConstrainedParameters = true → FitsParameters parameters envelope →
      ((∃ result, substituteParameters envelope parameters = .ok result ∧
          encodeParameters result = encodeParameters parameters) ↔
        ∀ key exactValue, envelope.parameterConstraints.get key = some (.exact exactValue) →
          parameters.get key = some exactValue) := by
  refine ⟨fun choices result => substituted_fits, fun parameters forbids strict fits => ?_⟩
  obtain ⟨result, returned⟩ := fitting_substitutes forbids strict fits
  rw [← unchanged_iff strict forbids fits returned]
  constructor
  · rintro ⟨other, alsoReturned, alike⟩
    have same : result = other := Except.ok.inj (returned.symm.trans alsoReturned)
    rw [same]
    exact encoded_alike_iff.mp alike
  · intro unchanged
    exact ⟨result, returned, encoded_alike_iff.mpr unchanged⟩

namespace Memo

def written : Dict ParameterValue := ⟨[("memo", .text "rent")], rent_alone⟩

/-- One copy, where Python takes `True` for `1`. -/
def oneCopy : Dict ParameterConstraint :=
  ⟨[("copies", .exact (.int 1))], List.pairwise_singleton _ _⟩

def copiesTrue : Dict ParameterValue := ⟨[("copies", .bool true)], List.pairwise_singleton _ _⟩

theorem written_fits : FitsParameters written (envelope fixedMemo) where
  known _ := List.Subset.refl _
  present _ := List.Subset.refl _
  accepted entry member value held := by
    rw [List.mem_singleton.mp member] at held ⊢
    rw [← Option.some.inj held]
    rfl

theorem copies_true_fits : FitsParameters copiesTrue (envelope oneCopy) where
  known _ := List.Subset.refl _
  present _ := List.Subset.refl _
  accepted entry member value held := by
    rw [List.mem_singleton.mp member] at held ⊢
    rw [← Option.some.inj held]
    rfl

end Memo

/-- A memo that is what the envelope fixes comes back with the same bytes. -/
theorem fixed_memo_comes_back :
    ∃ result, substituteParameters (Memo.envelope Memo.fixedMemo) Memo.written = .ok result ∧
      encodeParameters result = encodeParameters Memo.written := by
  apply ((substitution_sound_and_complete_iff (Memo.envelope Memo.fixedMemo)).2 Memo.written
    rfl rfl Memo.written_fits).mpr
  intro key exactValue constrained
  obtain ⟨rfl, rfl⟩ : key = "memo" ∧ exactValue = .text "rent" := by
    have member := List.mem_singleton.mp (Dict.get_some_iff.mp constrained)
    exact ⟨congrArg Prod.fst member,
      ParameterConstraint.exact.inj (congrArg Prod.snd member)⟩
  rfl

/-- `True` fits the exact constraint `1` and comes back as `1`, with other bytes. -/
theorem true_comes_back_as_one :
    (Memo.envelope Memo.oneCopy).forbidUnknownParameters = true ∧
      (Memo.envelope Memo.oneCopy).requireAllConstrainedParameters = true ∧
      FitsParameters Memo.copiesTrue (Memo.envelope Memo.oneCopy) ∧
      ∃ result, substituteParameters (Memo.envelope Memo.oneCopy) Memo.copiesTrue = .ok result ∧
        result.get "copies" = some (.int 1) ∧
        encodeParameters result ≠ encodeParameters Memo.copiesTrue := by
  refine ⟨rfl, rfl, Memo.copies_true_fits,
    ⟨[("copies", .int 1)], List.pairwise_singleton _ _⟩, ?_, rfl, ?_⟩
  · rw [known_choices_loop (Memo.copies_true_fits.known rfl)]
    rfl
  · intro alike
    have same := congrArg Dict.entries (encoded_alike_iff.mp alike)
    cases same

end KarmaSakshi.Guarantees
