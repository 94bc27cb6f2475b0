import Mathlib.Data.List.TakeWhile

/-!
Lines of a text, as Python reads them.

`str.splitlines` breaks a text at more characters than the line feed that a writer ends its
lines with.
-/

namespace KarmaSakshi.Library.Lines

set_option autoImplicit false

/-- The characters at which `splitlines` breaks a text. -/
def isBreak (character : Char) : Bool :=
  let code := character.toNat
  (10 ≤ code && code ≤ 13) || (28 ≤ code && code ≤ 30) || code == 0x85 || code == 0x2028 ||
    code == 0x2029

def splitLines : List Char → List (List Char)
  | [] => []
  | '\r' :: '\n' :: rest => [] :: splitLines rest
  | character :: rest =>
      if isBreak character then [] :: splitLines rest
      else match splitLines rest with
        | [] => [[character]]
        | line :: lines => (character :: line) :: lines

/-- What reading in text mode makes of the line ends of a file. -/
def universalNewlines : List Char → List Char
  | [] => []
  | '\r' :: '\n' :: rest => '\n' :: universalNewlines rest
  | character :: rest =>
      (if character = '\r' then '\n' else character) :: universalNewlines rest

/-- The text without the characters of this kind at either end. -/
def strip (kind : Char → Bool) (text : List Char) : List Char :=
  ((text.dropWhile kind).reverse.dropWhile kind).reverse

/-- No character of the text breaks a line. -/
def Unbroken (text : List Char) : Prop := ∀ character ∈ text, isBreak character = false

theorem split_break {character : Char} (rest : List Char) (breaks : isBreak character = true)
    (other : character ≠ '\r') : splitLines (character :: rest) = [] :: splitLines rest := by
  rw [splitLines]
  · rw [if_pos breaks]
  · intro next same
    exact absurd same other

/-- An unbroken text up to a break is a line. -/
theorem split_line {line : List Char} {character : Char} (rest : List Char)
    (unbroken : Unbroken line) (breaks : isBreak character = true) (other : character ≠ '\r') :
    splitLines (line ++ character :: rest) = line :: splitLines rest := by
  induction line with
  | nil => exact split_break rest breaks other
  | cons first line split =>
      have plain : isBreak first = false := unbroken first List.mem_cons_self
      have later : Unbroken line := fun next member => unbroken next (List.mem_cons_of_mem _ member)
      have notReturn : first ≠ '\r' := by
        intro same
        rw [same] at plain
        exact absurd plain (by decide)
      rw [List.cons_append, splitLines]
      · rw [plain, split later]
        rfl
      · intro next same
        exact absurd same notReturn

theorem newlines_plain {text : List Char} (plain : '\r' ∉ text) :
    universalNewlines text = text := by
  induction text with
  | nil => rfl
  | cons first rest kept =>
      have notReturn : first ≠ '\r' := by
        intro same
        exact plain (same ▸ List.mem_cons_self)
      rw [universalNewlines]
      · rw [if_neg notReturn, kept (fun member => plain (List.mem_cons_of_mem _ member))]
      · intro next same
        exact absurd same notReturn

/-- A text that begins and ends with other characters is stripped of nothing. -/
theorem strip_closed {kind : Char → Bool} {first last : Char} {text : List Char}
    (opens : kind first = false) (closes : kind last = false) :
    strip kind (first :: (text ++ [last])) = first :: (text ++ [last]) := by
  have reversed : (first :: (text ++ [last])).reverse = last :: (first :: text).reverse := by
    simp
  unfold strip
  rw [List.dropWhile_cons_of_neg (by simp [opens]), reversed,
    List.dropWhile_cons_of_neg (by simp [closes]), ← reversed, List.reverse_reverse]

/-- What is left of a text that opens with another character is a beginning of it. -/
theorem strip_opened {kind : Char → Bool} {first : Char} {text : List Char}
    (opens : kind first = false) :
    ∃ rest, strip kind (first :: text) ≠ [] ∧ strip kind (first :: text) ++ rest = first :: text := by
  have kept : (first :: text).dropWhile kind = first :: text :=
    List.dropWhile_cons_of_neg (by simp [opens])
  unfold strip
  rw [kept]
  have split := List.takeWhile_append_dropWhile (p := kind) (l := (first :: text).reverse)
  refine ⟨((first :: text).reverse.takeWhile kind).reverse, ?_, ?_⟩
  · intro empty
    have all := List.dropWhile_eq_nil_iff.mp (List.reverse_eq_nil_iff.mp empty)
    have kindly := all first (by simp)
    rw [opens] at kindly
    cases kindly
  · rw [← List.reverse_append, split, List.reverse_reverse]

/-- A text breaks first somewhere, or nowhere. -/
theorem first_break (text : List Char) :
    Unbroken text ∨ ∃ line character rest, text = line ++ character :: rest ∧ Unbroken line ∧
      isBreak character = true := by
  induction text with
  | nil => exact .inl (fun character member => by cases member)
  | cons first text found =>
      by_cases breaks : isBreak first = true
      · exact .inr ⟨[], first, text, rfl, (fun _ member => by cases member), breaks⟩
      · have plain : isBreak first = false := by simpa using breaks
        cases found with
        | inl unbroken =>
            apply Or.inl
            intro character member
            cases List.mem_cons.mp member with
            | inl same => exact same ▸ plain
            | inr later => exact unbroken character later
        | inr broken =>
            obtain ⟨line, character, rest, split, unbroken, breaks⟩ := broken
            refine .inr ⟨first :: line, character, rest, by rw [split]; rfl, ?_, breaks⟩
            intro other member
            cases List.mem_cons.mp member with
            | inl same => exact same ▸ plain
            | inr later => exact unbroken other later

end KarmaSakshi.Library.Lines
