import Mathlib.Data.List.Basic

/-!
JSON values and the compact ASCII text they are written in.

Strings are written by their UTF-16 code units, each printable ASCII character as
itself and every other unit escaped; objects list their members in the order given.
The text determines the value, as far as its strings are told by their units.
-/

namespace Json

set_option autoImplicit false

/-! ### Strings -/

abbrev CodePoint := Fin 0x110000

abbrev CodeUnit := Fin 0x10000

/-- A string is any sequence of code points, surrogates included. -/
abbrev Text := List CodePoint

/-- One unit, or a surrogate pair for a character beyond the first plane. -/
def unitsOf (point : CodePoint) : List CodeUnit :=
  if basic : point.val < 0x10000 then [⟨point.val, basic⟩]
  else
    let rest := point.val - 0x10000
    [⟨0xD800 + rest / 0x400, by omega⟩, ⟨0xDC00 + rest % 0x400, by omega⟩]

def units (text : Text) : List CodeUnit := text.flatMap unitsOf

def hexDigit (digit : Nat) : Char :=
  if digit < 10 then Char.ofNat (48 + digit) else Char.ofNat (87 + digit)

def hexEscape (unit : CodeUnit) : List Char :=
  ['\\', 'u', hexDigit (unit.val / 0x1000), hexDigit (unit.val / 0x100 % 16),
    hexDigit (unit.val / 16 % 16), hexDigit (unit.val % 16)]

/-- The letter of a short escape. -/
def shortEscape (unit : CodeUnit) : Option Char :=
  if unit.val = 0x22 then some '"'
  else if unit.val = 0x5C then some '\\'
  else if unit.val = 0x0A then some 'n'
  else if unit.val = 0x0D then some 'r'
  else if unit.val = 0x09 then some 't'
  else if unit.val = 0x0C then some 'f'
  else if unit.val = 0x08 then some 'b'
  else none

def escape (unit : CodeUnit) : List Char :=
  match shortEscape unit with
  | some letter => ['\\', letter]
  | none => if 0x20 ≤ unit.val ∧ unit.val ≤ 0x7E then [Char.ofNat unit.val] else hexEscape unit

def quoted (units : List CodeUnit) : List Char := '"' :: (units.flatMap escape ++ ['"'])

/-! ### Values -/

inductive Document (String : Type) : Type where
  | null
  | bool (value : Bool)
  | int (value : Int)
  | text (value : String)
  | array (items : List (Document String))
  | object (members : List (String × Document String))

/-- Decimal digits, with a sign before a negative number. -/
def decimal (value : Int) : List Char :=
  match value with
  | .ofNat magnitude => Nat.toDigits 10 magnitude
  | .negSucc predecessor => '-' :: Nat.toDigits 10 (predecessor + 1)

namespace Document

mutual

/-- The same value with every string rewritten. -/
def mapText {String Other : Type} (rewrite : String → Other) : Document String → Document Other
  | null => null
  | bool value => bool value
  | int value => int value
  | text value => text (rewrite value)
  | array items => array (mapItems rewrite items)
  | object members => object (mapMembers rewrite members)

def mapItems {String Other : Type} (rewrite : String → Other) :
    List (Document String) → List (Document Other)
  | [] => []
  | item :: rest => mapText rewrite item :: mapItems rewrite rest

def mapMembers {String Other : Type} (rewrite : String → Other) :
    List (String × Document String) → List (Other × Document Other)
  | [] => []
  | (key, value) :: rest => (rewrite key, mapText rewrite value) :: mapMembers rewrite rest

end

mutual

def print : Document (List CodeUnit) → List Char
  | null => ['n', 'u', 'l', 'l']
  | bool true => ['t', 'r', 'u', 'e']
  | bool false => ['f', 'a', 'l', 's', 'e']
  | int value => decimal value
  | text value => quoted value
  | array [] => ['[', ']']
  | array (first :: rest) => '[' :: (print first ++ printItems rest)
  | object [] => ['{', '}']
  | object ((key, value) :: rest) => '{' :: (quoted key ++ ':' :: (print value ++ printMembers rest))

/-- The items after the first, up to the closing bracket. -/
def printItems : List (Document (List CodeUnit)) → List Char
  | [] => [']']
  | item :: rest => ',' :: (print item ++ printItems rest)

def printMembers : List (List CodeUnit × Document (List CodeUnit)) → List Char
  | [] => ['}']
  | (key, value) :: rest => ',' :: (quoted key ++ ':' :: (print value ++ printMembers rest))

end

end Document

example : Document.print (.array [.int (-5), .text [0x41, 0x22, 0x1F600 % 0x10000], .object []]) =
    "[-5,\"A\\\"\\uf600\",\x7b\x7d]".toList := by decide

/-! ### Strings of characters -/

/-- A code point that stands for a character: no surrogate. -/
def Scalar (point : CodePoint) : Prop := point.val < 0xD800 ∨ 0xE000 ≤ point.val

/-- The code point of a character. -/
def ofChar (char : Char) : CodePoint := Fin.ofNat 0x110000 char.toNat

/-- The code points of a string of characters. -/
def ofString (text : String) : Text := text.toList.map ofChar

/-- The units of a character tell it apart from every other. -/
theorem units_of_unique {point other : CodePoint} {rest left : List CodeUnit}
    (scalar : Scalar point) (otherScalar : Scalar other)
    (same : unitsOf point ++ rest = unitsOf other ++ left) : point = other ∧ rest = left := by
  unfold Scalar at scalar otherScalar
  unfold unitsOf at same
  by_cases basic : point.val < 0x10000
  · by_cases otherBasic : other.val < 0x10000
    · rw [dif_pos basic, dif_pos otherBasic] at same
      obtain ⟨heads, tails⟩ := List.cons.inj same
      exact ⟨Fin.ext (Fin.mk.inj heads), tails⟩
    · rw [dif_pos basic, dif_neg otherBasic] at same
      have heads := Fin.mk.inj (List.cons.inj same).1
      have bound := other.isLt
      omega
  · by_cases otherBasic : other.val < 0x10000
    · rw [dif_neg basic, dif_pos otherBasic] at same
      have heads := Fin.mk.inj (List.cons.inj same).1
      have bound := point.isLt
      omega
    · rw [dif_neg basic, dif_neg otherBasic] at same
      obtain ⟨heads, tails⟩ := List.cons.inj same
      obtain ⟨seconds, ends⟩ := List.cons.inj tails
      have high := Fin.mk.inj heads
      have low := Fin.mk.inj seconds
      exact ⟨Fin.ext (by omega), ends⟩

theorem units_unique {text other : Text} (scalars : ∀ point ∈ text, Scalar point)
    (otherScalars : ∀ point ∈ other, Scalar point) (same : units text = units other) :
    text = other := by
  have opens : ∀ point : CodePoint, unitsOf point ≠ [] := by
    intro point
    unfold unitsOf
    split_ifs <;> exact List.cons_ne_nil _ _
  induction text generalizing other with
  | nil =>
      cases other with
      | nil => rfl
      | cons point others =>
          exact absurd (List.append_eq_nil_iff.mp same.symm).1 (opens point)
  | cons point points ih =>
      cases other with
      | nil => exact absurd (List.append_eq_nil_iff.mp same).1 (opens point)
      | cons another others =>
          obtain ⟨rfl, rest⟩ := units_of_unique (scalars point List.mem_cons_self)
            (otherScalars another List.mem_cons_self) same
          rw [ih (fun point member => scalars point (List.mem_cons_of_mem _ member))
            (fun point member => otherScalars point (List.mem_cons_of_mem _ member)) rest]

theorem char_is_scalar (char : Char) : Scalar (ofChar char) ∧
    (ofChar char).val = char.toNat := by
  have valid : char.toNat < 0xD800 ∨ 0xDFFF < char.toNat ∧ char.toNat < 0x110000 := char.valid
  have kept : (ofChar char).val = char.toNat :=
    Nat.mod_eq_of_lt (by omega)
  refine ⟨?_, kept⟩
  unfold Scalar
  omega

theorem units_of_string_injective : Function.Injective (fun text => units (ofString text)) := by
  intro text other same
  have scalars : ∀ text : String, ∀ point ∈ ofString text, Scalar point := by
    intro text point member
    obtain ⟨char, _, rfl⟩ := List.mem_map.mp member
    exact (char_is_scalar char).1
  have points := units_unique (scalars text) (scalars other) same
  have chars : Function.Injective ofChar := by
    intro char another sameChar
    have values := congrArg Fin.val sameChar
    rw [(char_is_scalar char).2, (char_is_scalar another).2] at values
    exact Char.toNat_inj.mp values
  exact String.toList_injective (List.map_injective_iff.mpr chars points)

/-! ### Strings are read back -/

def hexValue (digit : Char) : Nat :=
  if digit.toNat < 58 then digit.toNat - 48 else digit.toNat - 87

/-- The unit behind a short escape. -/
def shortUnit (letter : Char) : CodeUnit :=
  if letter = '"' then 0x22
  else if letter = '\\' then 0x5C
  else if letter = 'n' then 0x0A
  else if letter = 'r' then 0x0D
  else if letter = 't' then 0x09
  else if letter = 'f' then 0x0C
  else 0x08

/-- The first unit of a text of escaped units, and what follows it. -/
def unescape : List Char → Option (CodeUnit × List Char)
  | '\\' :: 'u' :: first :: second :: third :: fourth :: rest =>
      some (Fin.ofNat _ (hexValue first * 0x1000 + hexValue second * 0x100 + hexValue third * 16 +
        hexValue fourth), rest)
  | '\\' :: letter :: rest => some (shortUnit letter, rest)
  | plain :: rest => some (Fin.ofNat _ plain.toNat, rest)
  | [] => none

theorem hex_digit_value : ∀ digit < 16, hexValue (hexDigit digit) = digit := by decide

theorem printable_char : ∀ code < 0x7F, (Char.ofNat code).toNat = code := by decide

theorem unescape_plain {plain : Char} {rest : List Char} (unescaped : plain ≠ '\\') :
    unescape (plain :: rest) = some (Fin.ofNat _ plain.toNat, rest) := by
  unfold unescape
  split
  · next same => exact absurd (List.cons.inj same).1 unescaped
  · next same => exact absurd (List.cons.inj same).1 unescaped
  · next same =>
      obtain ⟨rfl, rfl⟩ := List.cons.inj same
      rfl
  · next same => cases same

theorem unescape_short {letter : Char} {rest : List Char} (short : letter ≠ 'u') :
    unescape ('\\' :: letter :: rest) = some (shortUnit letter, rest) := by
  unfold unescape
  split
  · next same => exact absurd (List.cons.inj (List.cons.inj same).2).1 short
  · next same =>
      obtain ⟨rfl, rfl⟩ := List.cons.inj (List.cons.inj same).2
      rfl
  · next other same =>
      obtain ⟨rfl, rfl⟩ := List.cons.inj same
      exact (other letter rest rfl rfl).elim
  · next same => cases same

theorem short_escape_letter {unit : CodeUnit} {letter : Char}
    (short : shortEscape unit = some letter) : letter ≠ 'u' ∧ shortUnit letter = unit := by
  unfold shortEscape at short
  split_ifs at short with quote backslash newline carriage tab feed back
  all_goals
    obtain rfl := Option.some.inj short
    refine ⟨by decide, Fin.ext ?_⟩
  · exact quote.symm
  · exact backslash.symm
  · exact newline.symm
  · exact carriage.symm
  · exact tab.symm
  · exact feed.symm
  · exact back.symm

/-- What a unit is escaped to is read back as that unit, whatever follows. -/
theorem unescape_escape (unit : CodeUnit) (rest : List Char) :
    unescape (escape unit ++ rest) = some (unit, rest) := by
  unfold escape
  cases short : shortEscape unit with
  | some letter =>
      obtain ⟨notHex, same⟩ := short_escape_letter short
      show unescape ('\\' :: letter :: rest) = _
      rw [unescape_short notHex, same]
  | none =>
      by_cases printable : 0x20 ≤ unit.val ∧ unit.val ≤ 0x7E
      · have code := printable_char unit.val (by omega)
        have unescaped : Char.ofNat unit.val ≠ '\\' := by
          intro same
          rw [same] at code
          have backslash : unit.val = 0x5C := code.symm
          unfold shortEscape at short
          rw [backslash] at short
          simp at short
        simp only [if_pos printable]
        show unescape (Char.ofNat unit.val :: rest) = _
        rw [unescape_plain unescaped, code]
        simp
      · simp only [if_neg printable]
        have bound := unit.isLt
        show some (Fin.ofNat _ _, rest) = some (unit, rest)
        rw [hex_digit_value _ (by omega), hex_digit_value _ (by omega),
          hex_digit_value _ (by omega), hex_digit_value _ (by omega)]
        have rebuilt : unit.val / 0x1000 * 0x1000 + unit.val / 0x100 % 16 * 0x100 +
            unit.val / 16 % 16 * 16 + unit.val % 16 = unit.val := by omega
        rw [rebuilt]
        simp

theorem escape_unique {unit other : CodeUnit} {rest left : List Char}
    (same : escape unit ++ rest = escape other ++ left) : unit = other ∧ rest = left := by
  have read := congrArg unescape same
  rw [unescape_escape, unescape_escape] at read
  exact Prod.mk.inj (Option.some.inj read)

/-- No unit is escaped to a text that begins with a quote. -/
theorem escape_opens (unit : CodeUnit) :
    ∃ first rest, escape unit = first :: rest ∧ first ≠ '"' := by
  unfold escape
  cases short : shortEscape unit with
  | some letter => exact ⟨_, _, rfl, by decide⟩
  | none =>
      by_cases printable : 0x20 ≤ unit.val ∧ unit.val ≤ 0x7E
      · refine ⟨Char.ofNat unit.val, [], by simp [printable], ?_⟩
        intro same
        have code := printable_char unit.val (by omega)
        rw [same] at code
        have quote : unit.val = 0x22 := code.symm
        unfold shortEscape at short
        rw [if_pos quote] at short
        cases short
      · refine ⟨'\\', (hexEscape unit).tail, ?_, by decide⟩
        simp only [if_neg printable]
        rfl

theorem quoted_unique {text other : List CodeUnit} {rest left : List Char}
    (same : quoted text ++ rest = quoted other ++ left) : text = other ∧ rest = left := by
  have bodies : text.flatMap escape ++ '"' :: rest = other.flatMap escape ++ '"' :: left := by
    simpa [quoted] using same
  clear same
  induction text generalizing other with
  | nil =>
      cases other with
      | nil => exact ⟨rfl, (List.cons.inj bodies).2⟩
      | cons unit others =>
          obtain ⟨first, tail, opens, differs⟩ := escape_opens unit
          rw [List.flatMap_cons, opens] at bodies
          exact absurd (List.cons.inj bodies).1.symm differs
  | cons unit units ih =>
      cases other with
      | nil =>
          obtain ⟨first, tail, opens, differs⟩ := escape_opens unit
          rw [List.flatMap_cons, opens] at bodies
          exact absurd (List.cons.inj bodies).1 differs
      | cons another others =>
          rw [List.flatMap_cons, List.flatMap_cons, List.append_assoc, List.append_assoc] at bodies
          obtain ⟨rfl, onward⟩ := escape_unique bodies
          obtain ⟨rfl, ends⟩ := ih onward
          exact ⟨rfl, ends⟩

/-! ### Numbers are read back -/

/-- The text cannot continue a number. -/
def Closed (text : List Char) : Prop := ∀ first rest, text = first :: rest → first.isDigit = false

theorem closed_cons {first : Char} {rest : List Char} (notDigit : first.isDigit = false) :
    Closed (first :: rest) := by
  intro other others same
  rw [← (List.cons.inj same).1]
  exact notDigit

theorem closed_nil : Closed [] := by
  intro first rest impossible
  cases impossible

theorem takeWhile_digits {digits rest : List Char} (all : ∀ digit ∈ digits, digit.isDigit = true)
    (closed : Closed rest) : (digits ++ rest).takeWhile Char.isDigit = digits := by
  rw [List.takeWhile_append_of_pos all]
  cases rest with
  | nil => rw [List.takeWhile_nil, List.append_nil]
  | cons first others =>
      rw [List.takeWhile_cons_of_neg (by rw [closed first others rfl]; exact Bool.false_ne_true),
        List.append_nil]

theorem digits_of_nat (magnitude : Nat) :
    ∀ digit ∈ Nat.toDigits 10 magnitude, digit.isDigit = true :=
  fun _ member => Nat.isDigit_of_mem_toDigits (by decide) (by decide) member

theorem digits_unique {magnitude other : Nat} {rest left : List Char} (closed : Closed rest)
    (closedToo : Closed left)
    (same : Nat.toDigits 10 magnitude ++ rest = Nat.toDigits 10 other ++ left) :
    magnitude = other ∧ rest = left := by
  have digits : Nat.toDigits 10 magnitude = Nat.toDigits 10 other := by
    rw [← takeWhile_digits (digits_of_nat magnitude) closed, same,
      takeWhile_digits (digits_of_nat other) closedToo]
  rw [digits] at same
  refine ⟨?_, List.append_cancel_left same⟩
  rw [← @Nat.ofDigitChars_ten_toDigits magnitude, digits, Nat.ofDigitChars_ten_toDigits]

theorem digits_open (magnitude : Nat) :
    ∃ first rest, Nat.toDigits 10 magnitude = first :: rest ∧ first.isDigit = true := by
  cases digits : Nat.toDigits 10 magnitude with
  | nil => exact absurd digits Nat.toDigits_ne_nil
  | cons first rest =>
      refine ⟨first, rest, rfl, digits_of_nat magnitude first ?_⟩
      rw [digits]
      exact List.mem_cons_self

theorem decimal_unique {value other : Int} {rest left : List Char} (closed : Closed rest)
    (closedToo : Closed left) (same : decimal value ++ rest = decimal other ++ left) :
    value = other ∧ rest = left := by
  have minus : ∀ magnitude (following : List Char) (tail : List Char),
      Nat.toDigits 10 magnitude ++ following ≠ '-' :: tail := by
    intro magnitude following tail impossible
    obtain ⟨first, others, opens, digit⟩ := digits_open magnitude
    rw [opens] at impossible
    rw [(List.cons.inj impossible).1] at digit
    exact absurd digit (by decide)
  cases value with
  | ofNat magnitude =>
      cases other with
      | ofNat otherMagnitude =>
          obtain ⟨rfl, ends⟩ := digits_unique closed closedToo same
          exact ⟨rfl, ends⟩
      | negSucc predecessor => exact absurd same (minus _ _ _)
  | negSucc predecessor =>
      cases other with
      | ofNat otherMagnitude => exact absurd same.symm (minus _ _ _)
      | negSucc otherPredecessor =>
          obtain ⟨magnitudes, ends⟩ := digits_unique closed closedToo (List.cons.inj same).2
          rw [Nat.succ.inj magnitudes]
          exact ⟨rfl, ends⟩

/-! ### Values are read back -/

namespace Document

/-- The kind of value that a character opens. -/
def kindOf (first : Char) : Nat :=
  if first = 'n' then 0
  else if first = 't' then 1
  else if first = 'f' then 2
  else if first = '"' then 3
  else if first = '[' then 4
  else if first = '\x7b' then 5
  else if first = '-' ∨ first.isDigit then 6
  else 7

def kind {String : Type} : Document String → Nat
  | null => 0
  | bool true => 1
  | bool false => 2
  | text _ => 3
  | array _ => 4
  | object _ => 5
  | int _ => 6

theorem digit_kind {first : Char} (digit : first.isDigit = true) : kindOf first = 6 := by
  have differs : ∀ other : Char, other.isDigit = false → first ≠ other := by
    intro other notDigit same
    rw [same, notDigit] at digit
    cases digit
  unfold kindOf
  rw [if_neg (differs 'n' (by decide)), if_neg (differs 't' (by decide)),
    if_neg (differs 'f' (by decide)), if_neg (differs '"' (by decide)),
    if_neg (differs '[' (by decide)), if_neg (differs '\x7b' (by decide)), if_pos (Or.inr digit)]

/-- The first character of a text tells the kind of the value. -/
theorem print_opens (tree : Document (List CodeUnit)) :
    ∃ first rest, tree.print = first :: rest ∧ kindOf first = tree.kind := by
  cases tree with
  | null => exact ⟨_, _, rfl, rfl⟩
  | bool value => cases value <;> exact ⟨_, _, rfl, rfl⟩
  | text value => exact ⟨_, _, rfl, rfl⟩
  | array items => cases items <;> exact ⟨_, _, rfl, rfl⟩
  | object members =>
      cases members with
      | nil => exact ⟨_, _, rfl, rfl⟩
      | cons member rest => exact ⟨_, _, rfl, rfl⟩
  | int value =>
      cases value with
      | negSucc predecessor => exact ⟨_, _, rfl, rfl⟩
      | ofNat magnitude =>
          obtain ⟨first, rest, opens, digit⟩ := digits_open magnitude
          exact ⟨first, rest, opens, digit_kind digit⟩

theorem same_kind {tree other : Document (List CodeUnit)} {rest left : List Char}
    (same : tree.print ++ rest = other.print ++ left) : tree.kind = other.kind := by
  obtain ⟨first, tail, opens, kinds⟩ := print_opens tree
  obtain ⟨otherFirst, otherTail, otherOpens, otherKinds⟩ := print_opens other
  rw [opens, otherOpens] at same
  rw [← kinds, ← otherKinds, (List.cons.inj same).1]

/-- The text of a value does not begin with a closing bracket. -/
theorem print_not_bracket {tree : Document (List CodeUnit)} {rest tail : List Char}
    (same : tree.print ++ rest = ']' :: tail) : False := by
  obtain ⟨first, others, opens, kinds⟩ := print_opens tree
  rw [opens] at same
  rw [(List.cons.inj same).1] at kinds
  have other : kindOf ']' = 7 := rfl
  rw [other] at kinds
  cases tree with
  | bool value => cases value <;> cases kinds
  | _ => cases kinds

theorem items_closed (items : List (Document (List CodeUnit))) (rest : List Char) :
    Closed (printItems items ++ rest) := by
  cases items <;> exact closed_cons (by decide)

theorem members_closed (members : List (List CodeUnit × Document (List CodeUnit)))
    (rest : List Char) : Closed (printMembers members ++ rest) := by
  cases members <;> exact closed_cons (by decide)

mutual

theorem print_unique {tree other : Document (List CodeUnit)} {rest left : List Char}
    (closed : Closed rest) (closedToo : Closed left)
    (same : tree.print ++ rest = other.print ++ left) : tree = other ∧ rest = left := by
  have kinds := same_kind same
  cases tree with
  | null =>
      cases other with
      | null => exact ⟨rfl, List.append_cancel_left same⟩
      | bool value => cases value <;> cases kinds
      | _ => cases kinds
  | bool value =>
      cases other with
      | bool otherValue =>
          cases value <;> cases otherValue <;> first
            | exact ⟨rfl, List.append_cancel_left same⟩
            | cases kinds
      | _ => cases value <;> cases kinds
  | int value =>
      cases other with
      | int otherValue =>
          obtain ⟨rfl, ends⟩ := decimal_unique closed closedToo same
          exact ⟨rfl, ends⟩
      | bool value => cases value <;> cases kinds
      | _ => cases kinds
  | text value =>
      cases other with
      | text otherValue =>
          obtain ⟨rfl, ends⟩ := quoted_unique same
          exact ⟨rfl, ends⟩
      | bool value => cases value <;> cases kinds
      | _ => cases kinds
  | array items =>
      cases other with
      | array otherItems =>
          cases items with
          | nil =>
              cases otherItems with
              | nil => exact ⟨rfl, List.append_cancel_left same⟩
              | cons first others =>
                  have opens : ']' :: rest = first.print ++ (printItems others ++ left) := by
                    simpa [print] using same
                  exact (print_not_bracket opens.symm).elim
          | cons first others =>
              cases otherItems with
              | nil =>
                  have opens : first.print ++ (printItems others ++ rest) = ']' :: left := by
                    simpa [print] using same
                  exact (print_not_bracket opens).elim
              | cons otherFirst otherOthers =>
                  have bodies : first.print ++ (printItems others ++ rest) =
                      otherFirst.print ++ (printItems otherOthers ++ left) := by
                    simpa [print] using same
                  obtain ⟨rfl, onward⟩ := print_unique (items_closed _ _) (items_closed _ _) bodies
                  obtain ⟨rfl, ends⟩ := items_unique onward
                  exact ⟨rfl, ends⟩
      | bool value => cases value <;> cases kinds
      | _ => cases kinds
  | object members =>
      cases other with
      | object otherMembers =>
          cases members with
          | nil =>
              cases otherMembers with
              | nil => exact ⟨rfl, List.append_cancel_left same⟩
              | cons first others => cases (List.cons.inj (List.cons.inj same).2).1
          | cons first others =>
              cases otherMembers with
              | nil => cases (List.cons.inj (List.cons.inj same).2).1
              | cons otherFirst otherOthers =>
                  have bodies : printMembers (first :: others) ++ rest =
                      printMembers (otherFirst :: otherOthers) ++ left := by
                    have inner := (List.cons.inj same).2
                    exact congrArg (List.cons ',') inner
                  obtain ⟨sameMembers, ends⟩ := members_unique bodies
                  exact ⟨congrArg object sameMembers, ends⟩
      | bool value => cases value <;> cases kinds
      | _ => cases kinds

theorem items_unique {items others : List (Document (List CodeUnit))} {rest left : List Char}
    (same : printItems items ++ rest = printItems others ++ left) :
    items = others ∧ rest = left := by
  cases items with
  | nil =>
      cases others with
      | nil => exact ⟨rfl, (List.cons.inj same).2⟩
      | cons first tail => cases (List.cons.inj same).1
  | cons item items =>
      cases others with
      | nil => cases (List.cons.inj same).1
      | cons first tail =>
          have bodies : item.print ++ (printItems items ++ rest) =
              first.print ++ (printItems tail ++ left) := by
            simpa [printItems] using same
          obtain ⟨rfl, onward⟩ := print_unique (items_closed _ _) (items_closed _ _) bodies
          obtain ⟨rfl, ends⟩ := items_unique onward
          exact ⟨rfl, ends⟩

theorem members_unique {members others : List (List CodeUnit × Document (List CodeUnit))}
    {rest left : List Char} (same : printMembers members ++ rest = printMembers others ++ left) :
    members = others ∧ rest = left := by
  cases members with
  | nil =>
      cases others with
      | nil => exact ⟨rfl, (List.cons.inj same).2⟩
      | cons first tail => cases (List.cons.inj same).1
  | cons member members =>
      cases others with
      | nil => cases (List.cons.inj same).1
      | cons first tail =>
          obtain ⟨key, value⟩ := member
          obtain ⟨otherKey, otherValue⟩ := first
          have keys : quoted key ++ (':' :: (value.print ++ (printMembers members ++ rest))) =
              quoted otherKey ++ (':' :: (otherValue.print ++ (printMembers tail ++ left))) := by
            simpa [printMembers] using same
          obtain ⟨rfl, values⟩ := quoted_unique keys
          obtain ⟨rfl, onward⟩ := print_unique (members_closed _ _) (members_closed _ _)
            (List.cons.inj values).2
          obtain ⟨rfl, ends⟩ := members_unique onward
          exact ⟨rfl, ends⟩

end

/-- The text determines the value. -/
theorem print_injective : Function.Injective print := by
  intro tree other same
  have appended : tree.print ++ [] = other.print ++ [] := by rw [same]
  exact (print_unique closed_nil closed_nil appended).1

end Document

end Json
