import KarmaSakshi.Domain.Values
import KarmaSakshi.Library.Pattern

/-!
The identifier and currency validators of the shared value objects, over the patterns they
are compiled from.
-/

namespace KarmaSakshi.Domain

open KarmaSakshi.Library

set_option autoImplicit false

def isAsciiUpper (character : Char) : Bool := 'A' ≤ character && character ≤ 'Z'

def isAsciiAlphanumeric (character : Char) : Bool :=
  isAsciiUpper character || ('a' ≤ character && character ≤ 'z') ||
    ('0' ≤ character && character ≤ '9')

/-- The class `[A-Za-z0-9._:-]`. -/
def isIdCharacter (character : Char) : Bool :=
  isAsciiAlphanumeric character || character == '.' || character == '_' || character == ':' ||
    character == '-'

def currencyRe : Pattern :=
  .next .start (.next (.times isAsciiUpper 3 3) .finish)

def idRe : Pattern :=
  .next .start (.next (.one isAsciiAlphanumeric) (.next (.times isIdCharacter 0 127) .finish))

def validateId (value fieldName : String) : Except PyError String :=
  if value = "" ∨ idRe.matchesText value = false then
    .error ⟨.validationError, fieldName ++
      " must be 1-128 chars, start alphanumeric, and contain only [A-Za-z0-9._:-]"⟩
  else .ok value

def validatePrincipalId (value : String) : Except PyError String :=
  validateId value "principal_id"

def validateAdapterId (value : String) : Except PyError String :=
  validateId value "adapter_id"

def validateCurrency (value : String) : Except PyError String :=
  if currencyRe.matchesText value = false then
    .error ⟨.validationError, "currency must be a 3-letter uppercase ISO 4217 code"⟩
  else .ok value

/-- What `str.isspace` counts as white space. -/
def isWhitespace (character : Char) : Bool :=
  let code := character.toNat
  (9 ≤ code && code ≤ 13) || (28 ≤ code && code ≤ 32) || code == 0x85 || code == 0xA0 ||
    code == 0x1680 || (0x2000 ≤ code && code ≤ 0x200A) || code == 0x2028 || code == 0x2029 ||
    code == 0x202F || code == 0x205F || code == 0x3000

/-- 1 to 128 characters, the first alphanumeric. -/
def IsIdentifier (characters : List Char) : Prop :=
  ∃ first rest, characters = first :: rest ∧ isAsciiAlphanumeric first = true ∧
    rest.length ≤ 127 ∧ ∀ character ∈ rest, isIdCharacter character = true

/-- Three upper-case letters. -/
def IsCurrency (characters : List Char) : Prop :=
  characters.length = 3 ∧ ∀ character ∈ characters, isAsciiUpper character = true

/-- A text of the grammar and one line feed after it. -/
def EndsInLineFeed (grammar : List Char → Prop) (text : String) : Prop :=
  ∃ body, text.toList = body ++ ['\n'] ∧ grammar body

theorem alphanumeric_is_id {character : Char} (letter : isAsciiAlphanumeric character = true) :
    isIdCharacter character = true := by
  simp [isIdCharacter, letter]

theorem upper_is_id {character : Char} (upper : isAsciiUpper character = true) :
    isIdCharacter character = true := by
  simp [isIdCharacter, isAsciiAlphanumeric, upper]

theorem id_character_codes {character : Char} (allowed : isIdCharacter character = true) :
    33 ≤ character.toNat ∧ character.toNat ≤ 126 := by
  simp only [isIdCharacter, isAsciiAlphanumeric, isAsciiUpper, Bool.or_eq_true, Bool.and_eq_true,
    decide_eq_true_eq, beq_iff_eq, Char.le_def, UInt32.le_iff_toNat_le] at allowed
  simp only [Char.toNat]
  rcases allowed with ((((((upper | lower) | digit) | dot) | underscore) | colon) | hyphen)
  · exact ⟨le_trans (by decide) upper.1, le_trans upper.2 (by decide)⟩
  · exact ⟨le_trans (by decide) lower.1, le_trans lower.2 (by decide)⟩
  · exact ⟨le_trans (by decide) digit.1, le_trans digit.2 (by decide)⟩
  · subst dot
    decide
  · subst underscore
    decide
  · subst colon
    decide
  · subst hyphen
    decide

theorem id_character_is_visible {character : Char} (allowed : isIdCharacter character = true) :
    isWhitespace character = false := by
  have codes := id_character_codes allowed
  simp only [isWhitespace, Bool.or_eq_false_iff, Bool.and_eq_false_iff, decide_eq_false_iff_not,
    beq_eq_false_iff_ne]
  omega

theorem IsIdentifier.characters {characters : List Char} (identifier : IsIdentifier characters) :
    ∀ character ∈ characters, isIdCharacter character = true := by
  obtain ⟨first, rest, split, letter, _, others⟩ := identifier
  intro character present
  rw [split, List.mem_cons] at present
  cases present with
  | inl here => exact here ▸ alphanumeric_is_id letter
  | inr later => exact others character later

theorem IsCurrency.characters {characters : List Char} (currency : IsCurrency characters) :
    ∀ character ∈ characters, isIdCharacter character = true :=
  fun character present => upper_is_id (currency.2 character present)

/-- A text whose characters are all visible does not end in a line feed. -/
theorem visible_text_has_no_line_feed {body characters : List Char}
    (visible : ∀ character ∈ characters, isIdCharacter character = true) :
    characters ≠ body ++ ['\n'] := by
  intro split
  have allowed : isIdCharacter '\n' = true := visible '\n' (by simp [split])
  exact absurd allowed (by decide)

theorem currency_matches {text : String} :
    currencyRe.matchesText text = true ↔
      IsCurrency text.toList ∨ EndsInLineFeed IsCurrency text := by
  simp only [Pattern.matches_text, currencyRe, Pattern.mem_next, Pattern.mem_start,
    Pattern.mem_finish, Pattern.mem_times]
  constructor
  · intro found
    obtain ⟨_, _, ⟨_, rfl⟩, middle, ⟨read, left, split, enough, bounded, upper, rfl⟩, last, _⟩ :=
      found
    rw [Pattern.after_read split] at last
    have three : IsCurrency read := ⟨by omega, upper⟩
    cases last with
    | inl nothing =>
        have whole : text.toList = read := by simpa [Spot.ofText, nothing] using split
        exact .inl (whole ▸ three)
    | inr newline => exact .inr ⟨read, by simpa [newline, Spot.ofText] using split, three⟩
  · intro accepted
    cases accepted with
    | inl currency =>
        exact ⟨_, _, ⟨rfl, rfl⟩, _, ⟨text.toList, [], by simp [Spot.ofText], currency.1.ge,
          currency.1.le, currency.2, rfl⟩, .inl (by simp [Spot.after, Spot.ofText]), rfl⟩
    | inr trailing =>
        obtain ⟨body, split, currency⟩ := trailing
        exact ⟨_, _, ⟨rfl, rfl⟩, _, ⟨body, ['\n'], by simp [Spot.ofText, split], currency.1.ge,
          currency.1.le, currency.2, rfl⟩, .inr (by simp [Spot.after, Spot.ofText, split]), rfl⟩

theorem identifier_matches {text : String} {body left : List Char}
    (split : text.toList = body ++ left) (identifier : IsIdentifier body)
    (last : left = [] ∨ left = ['\n']) : idRe.matchesText text = true := by
  obtain ⟨head, rest, rfl, letter, bounded, allowed⟩ := identifier
  simp only [Pattern.matches_text, idRe, Pattern.one, Pattern.mem_next, Pattern.mem_start,
    Pattern.mem_finish, Pattern.mem_times]
  exact ⟨_, _, ⟨rfl, rfl⟩, _, ⟨[head], rest ++ left, by simp [Spot.ofText, split], le_refl _,
      le_refl _, by simpa using letter, rfl⟩, _, ⟨rest, left, by simp [Spot.after, Spot.ofText,
        split], Nat.zero_le _, bounded, allowed, rfl⟩,
    by simpa [Spot.after, Spot.ofText, split] using last, rfl⟩

theorem id_matches {text : String} :
    idRe.matchesText text = true ↔
      IsIdentifier text.toList ∨ EndsInLineFeed IsIdentifier text := by
  constructor
  · intro found
    simp only [Pattern.matches_text, idRe, Pattern.one, Pattern.mem_next, Pattern.mem_start,
      Pattern.mem_finish, Pattern.mem_times] at found
    obtain ⟨_, _, ⟨_, rfl⟩, second, ⟨first, others, split, oneOrMore, oneOrLess, letter, rfl⟩,
      third, ⟨rest, left, splitRest, _, bounded, allowed, rfl⟩, last, _⟩ := found
    rw [Pattern.after_read split] at splitRest
    rw [Pattern.after_read (by rw [Pattern.after_read split, splitRest])] at last
    have single : first.length = 1 := by omega
    obtain ⟨head, rfl⟩ := List.length_eq_one_iff.mp single
    have whole : text.toList = head :: rest ++ left := by
      simpa [Spot.ofText, splitRest] using split
    have identifier : IsIdentifier (head :: rest) :=
      ⟨head, rest, rfl, letter head List.mem_cons_self, bounded, allowed⟩
    cases last with
    | inl nothing =>
        rw [nothing, List.append_nil] at whole
        exact .inl (whole ▸ identifier)
    | inr newline => exact .inr ⟨head :: rest, by rw [whole, newline], identifier⟩
  · intro accepted
    cases accepted with
    | inl identifier => exact identifier_matches (by simp) identifier (.inl rfl)
    | inr trailing =>
        obtain ⟨body, split, identifier⟩ := trailing
        exact identifier_matches split identifier (.inr rfl)

theorem validate_id_accepts {text fieldName : String} :
    validateId text fieldName = .ok text ↔
      IsIdentifier text.toList ∨ EndsInLineFeed IsIdentifier text := by
  have nonempty : text = "" → idRe.matchesText text = false := by
    intro empty
    subst empty
    decide
  unfold validateId
  rw [← id_matches]
  split_ifs with refused
  · cases refused with
    | inl empty => simp [nonempty empty]
    | inr unmatched => simp [unmatched]
  · simp only [not_or, Bool.not_eq_false] at refused
    simp [refused.2]

theorem validate_currency_accepts {text : String} :
    validateCurrency text = .ok text ↔
      IsCurrency text.toList ∨ EndsInLineFeed IsCurrency text := by
  unfold validateCurrency
  rw [← currency_matches]
  split_ifs with refused <;> simpa using refused

end KarmaSakshi.Domain
