import KarmaSakshi.Domain.Identifiers

/-!
The identifier and currency grammars against their validators.

The finishing anchor of both patterns also holds before a line feed that ends the text, so
each validator accepts its grammar and every text of the grammar with one line feed more.
-/

namespace KarmaSakshi.Guarantees

open KarmaSakshi.Domain

set_option autoImplicit false

/-- A validator that accepts a text exactly when it is in the grammar, and then no white
space is in it. -/
def ExactOn (accepted : Prop) (grammar : List Char → Prop) (text : String) : Prop :=
  (accepted ↔ grammar text.toList) ∧
    (accepted → ∀ character ∈ text.toList, isWhitespace character = false)

/-- A grammar of visible characters, accepted with an optional line feed after it, is met
except on the texts that use that option. -/
theorem exact_on_iff {accepted : Prop} {grammar : List Char → Prop} {text : String}
    (accepts : accepted ↔ grammar text.toList ∨ EndsInLineFeed grammar text)
    (visible : ∀ characters, grammar characters →
      ∀ character ∈ characters, isIdCharacter character = true) :
    ExactOn accepted grammar text ↔ ¬ EndsInLineFeed grammar text := by
  constructor
  · intro exactly trailing
    have inside : grammar text.toList := exactly.1.mp (accepts.mpr (.inr trailing))
    obtain ⟨body, split, _⟩ := trailing
    exact visible_text_has_no_line_feed (visible _ inside) split
  · intro clean
    have same : accepted ↔ grammar text.toList := by
      rw [accepts]
      simp [clean]
    constructor
    · exact same
    · intro taken character present
      exact id_character_is_visible (visible _ (same.mp taken) character present)

/-- The identifier validator is exact on a text, under whatever field name it is called, and
the currency validator as well, unless the text is one of the grammar with one line feed
after it. -/
theorem grammars_exact_iff (fieldName text : String) :
    (ExactOn (validateId text fieldName = .ok text) IsIdentifier text ↔
      ¬ EndsInLineFeed IsIdentifier text) ∧
    (ExactOn (validateCurrency text = .ok text) IsCurrency text ↔
      ¬ EndsInLineFeed IsCurrency text) := by
  constructor
  · apply exact_on_iff validate_id_accepts
    intro characters identifier
    exact identifier.characters
  · apply exact_on_iff validate_currency_accepts
    intro characters currency
    exact currency.characters

/-- `agent-1` and `USD`, each with a line feed after it, are accepted and outside the
grammar. -/
theorem line_feed_is_accepted :
    validatePrincipalId "agent-1\n" = .ok "agent-1\n" ∧
    ¬ ExactOn (validatePrincipalId "agent-1\n" = .ok "agent-1\n") IsIdentifier "agent-1\n" ∧
    validateCurrency "USD\n" = .ok "USD\n" ∧
    ¬ ExactOn (validateCurrency "USD\n" = .ok "USD\n") IsCurrency "USD\n" := by
  have identifier : validatePrincipalId "agent-1\n" = .ok "agent-1\n" := by decide
  have currency : validateCurrency "USD\n" = .ok "USD\n" := by decide
  have lineFeed : isWhitespace '\n' = true := by decide
  refine ⟨identifier, ?_, currency, ?_⟩
  · intro exactly
    have visible := exactly.2 identifier '\n' (by decide)
    exact absurd (lineFeed.symm.trans visible) (by decide)
  · intro exactly
    have visible := exactly.2 currency '\n' (by decide)
    exact absurd (lineFeed.symm.trans visible) (by decide)

end KarmaSakshi.Guarantees
