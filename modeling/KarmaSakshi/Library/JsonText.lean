import KarmaSakshi.Library.Json

/-!
JSON values in the compact text that keeps every character it can.

Only the quote, the backslash and the control characters below the space are escaped; any
other character of a string is written as it is.
-/

namespace Json

set_option autoImplicit false

/-- The short escapes, and the hexadecimal one for the other control characters. -/
def escapeChar (character : Char) : List Char :=
  if character = '"' then ['\\', '"']
  else if character = '\\' then ['\\', '\\']
  else if character = '\x08' then ['\\', 'b']
  else if character = '\t' then ['\\', 't']
  else if character = '\n' then ['\\', 'n']
  else if character = '\x0c' then ['\\', 'f']
  else if character = '\r' then ['\\', 'r']
  else if character.toNat < 32 then
    ['\\', 'u', '0', '0', hexDigit (character.toNat / 16), hexDigit (character.toNat % 16)]
  else [character]

def writeText (text : String) : List Char := '"' :: (text.toList.flatMap escapeChar ++ ['"'])

namespace Document

mutual

def write : Document String → List Char
  | null => ['n', 'u', 'l', 'l']
  | bool true => ['t', 'r', 'u', 'e']
  | bool false => ['f', 'a', 'l', 's', 'e']
  | int value => decimal value
  | text value => writeText value
  | array [] => ['[', ']']
  | array (first :: rest) => '[' :: (write first ++ writeItems rest)
  | object [] => ['{', '}']
  | object ((key, value) :: rest) =>
      '{' :: (writeText key ++ ':' :: (write value ++ writeMembers rest))

/-- The items after the first, up to the closing bracket. -/
def writeItems : List (Document String) → List Char
  | [] => [']']
  | item :: rest => ',' :: (write item ++ writeItems rest)

def writeMembers : List (String × Document String) → List Char
  | [] => ['}']
  | (key, value) :: rest => ',' :: (writeText key ++ ':' :: (write value ++ writeMembers rest))

end

mutual

/-- The strings in a value, keys included. -/
def texts : Document String → List String
  | null => []
  | bool _ => []
  | int _ => []
  | text value => [value]
  | array items => textsOfItems items
  | object members => textsOfMembers members

def textsOfItems : List (Document String) → List String
  | [] => []
  | item :: rest => texts item ++ textsOfItems rest

def textsOfMembers : List (String × Document String) → List String
  | [] => []
  | (key, value) :: rest => key :: (texts value ++ textsOfMembers rest)

end

end Document

/-! ### The characters of the text -/

/-- A character that the text can have outside its strings. -/
def Printable (character : Char) : Prop := 32 ≤ character.toNat ∧ character.toNat < 127

instance (character : Char) : Decidable (Printable character) :=
  inferInstanceAs (Decidable (_ ∧ _))

/-- The text writes no control character, of the others outside the printable ones only those
of its strings, and these all. -/
structure Shows (written : List Char) (texts : List String) : Prop where
  only : ∀ character ∈ written, Printable character ∨
    (32 ≤ character.toNat ∧ ∃ text ∈ texts, character ∈ text.toList)
  every : ∀ text ∈ texts, ∀ character ∈ text.toList, 127 ≤ character.toNat → character ∈ written

theorem Shows.append {first second : List Char} {texts others : List String}
    (shows_first : Shows first texts) (shows_second : Shows second others) :
    Shows (first ++ second) (texts ++ others) where
  only character member := by
    cases List.mem_append.mp member with
    | inl here =>
        apply (shows_first.only character here).imp id
        intro shown
        obtain ⟨least, text, listed, inside⟩ := shown
        exact ⟨least, text, List.mem_append_left _ listed, inside⟩
    | inr here =>
        apply (shows_second.only character here).imp id
        intro shown
        obtain ⟨least, text, listed, inside⟩ := shown
        exact ⟨least, text, List.mem_append_right _ listed, inside⟩
  every text listed character inside high := by
    cases List.mem_append.mp listed with
    | inl here => exact List.mem_append_left _ (shows_first.every text here character inside high)
    | inr here => exact List.mem_append_right _ (shows_second.every text here character inside high)

theorem shows_plain {written : List Char}
    (plain : written.all (fun character => Printable character) = true) : Shows written [] where
  only character member := .inl (of_decide_eq_true (List.all_eq_true.mp plain character member))
  every text listed := by cases listed

theorem Shows.cons {first : Char} {written : List Char} {texts : List String}
    (printable : Printable first) (shows_rest : Shows written texts) :
    Shows (first :: written) texts := by
  have alone : Shows [first] [] := by
    apply shows_plain
    simp [printable]
  exact alone.append shows_rest

theorem hex_digit_printable : ∀ digit < 16, Printable (hexDigit digit) := by decide

theorem escape_char_only {character written : Char} (member : written ∈ escapeChar character) :
    Printable written ∨ (32 ≤ written.toNat ∧ written = character) := by
  unfold escapeChar at member
  split_ifs at member with quote backslash bell tab feed page enter control
  all_goals simp only [List.mem_cons, List.not_mem_nil, or_false] at member
  · exact .inl (by rcases member with rfl | rfl <;> decide)
  · exact .inl (by rcases member with rfl | rfl <;> decide)
  · exact .inl (by rcases member with rfl | rfl <;> decide)
  · exact .inl (by rcases member with rfl | rfl <;> decide)
  · exact .inl (by rcases member with rfl | rfl <;> decide)
  · exact .inl (by rcases member with rfl | rfl <;> decide)
  · exact .inl (by rcases member with rfl | rfl <;> decide)
  · apply Or.inl
    rcases member with rfl | rfl | rfl | rfl | rfl | rfl
    · decide
    · decide
    · decide
    · decide
    · exact hex_digit_printable (character.toNat / 16) (by omega)
    · exact hex_digit_printable (character.toNat % 16) (by omega)
  · exact .inr ⟨member ▸ Nat.le_of_not_lt control, member⟩

/-- A character above the ASCII ones is written as it is. -/
theorem escape_char_high {character : Char} (high : 127 ≤ character.toNat) :
    escapeChar character = [character] := by
  have differs : ∀ other : Char, other.toNat < 127 → character ≠ other := by
    intro other low same
    rw [same] at high
    omega
  unfold escapeChar
  rw [if_neg (differs _ (by decide)), if_neg (differs _ (by decide)),
    if_neg (differs _ (by decide)), if_neg (differs _ (by decide)), if_neg (differs _ (by decide)),
    if_neg (differs _ (by decide)), if_neg (differs _ (by decide)), if_neg (by omega)]

theorem shows_text (text : String) : Shows (writeText text) [text] where
  only character member := by
    simp only [writeText, List.mem_cons, List.mem_append, List.mem_flatMap, List.not_mem_nil,
      or_false] at member
    rcases member with rfl | (inside | rfl)
    · exact .inl (by decide)
    · obtain ⟨source, listed, written⟩ := inside
      apply (escape_char_only written).imp id
      intro shown
      exact ⟨shown.1, text, List.mem_singleton_self text, shown.2 ▸ listed⟩
    · exact .inl (by decide)
  every other listed character inside high := by
    rw [List.mem_singleton.mp listed] at inside
    apply List.mem_cons_of_mem
    apply List.mem_append_left
    apply List.mem_flatMap.mpr
    exact ⟨character, inside, by rw [escape_char_high high]; exact List.mem_singleton_self _⟩

theorem decimal_printable (value : Int) : ∀ digit ∈ decimal value, Printable digit := by
  have digits : ∀ magnitude, ∀ digit ∈ Nat.toDigits 10 magnitude, Printable digit := by
    intro magnitude digit member
    have isDigit := digits_of_nat magnitude digit member
    simp only [Char.isDigit, Bool.and_eq_true, decide_eq_true_eq, ge_iff_le,
      UInt32.le_iff_toNat_le] at isDigit
    exact ⟨Nat.le_trans (by decide) isDigit.1, Nat.lt_of_le_of_lt isDigit.2 (by decide)⟩
  cases value with
  | ofNat magnitude => exact digits magnitude
  | negSucc predecessor =>
      intro digit member
      cases List.mem_cons.mp member with
      | inl sign => exact sign ▸ by decide
      | inr later => exact digits _ digit later

namespace Document

mutual

theorem write_shows (tree : Document String) : Shows tree.write tree.texts := by
  cases tree with
  | null => exact shows_plain (by decide)
  | bool value => cases value <;> exact shows_plain (by decide)
  | int value =>
      apply shows_plain
      apply List.all_eq_true.mpr
      intro digit member
      exact decide_eq_true (decimal_printable value digit member)
  | text value => exact shows_text value
  | array items =>
      cases items with
      | nil => exact shows_plain (by decide)
      | cons first rest =>
          exact ((write_shows first).append (items_show rest)).cons (by decide)
  | object members =>
      cases members with
      | nil => exact shows_plain (by decide)
      | cons first rest =>
          obtain ⟨key, value⟩ := first
          have body : Shows (writeText key ++ ':' :: (value.write ++ writeMembers rest))
              ([key] ++ (value.texts ++ textsOfMembers rest)) :=
            (shows_text key).append
              (((write_shows value).append (members_show rest)).cons (by decide))
          exact body.cons (by decide)

theorem items_show (items : List (Document String)) :
    Shows (writeItems items) (textsOfItems items) := by
  cases items with
  | nil => exact shows_plain (by decide)
  | cons item rest => exact ((write_shows item).append (items_show rest)).cons (by decide)

theorem members_show (members : List (String × Document String)) :
    Shows (writeMembers members) (textsOfMembers members) := by
  cases members with
  | nil => exact shows_plain (by decide)
  | cons first rest =>
      obtain ⟨key, value⟩ := first
      have body : Shows (writeText key ++ ':' :: (value.write ++ writeMembers rest))
          ([key] ++ (value.texts ++ textsOfMembers rest)) :=
        (shows_text key).append
          (((write_shows value).append (members_show rest)).cons (by decide))
      exact body.cons (by decide)

end

end Document

end Json
