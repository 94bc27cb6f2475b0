import Mathlib

/-!
Anchored patterns over the characters of a text, as a backtracking matcher reads them.

A pattern takes a spot of the text to the spots where it can end.  The finishing anchor
holds at the end of the text and also just before a line feed that ends it.
-/

namespace KarmaSakshi.Library

set_option autoImplicit false

/-- A place in a text: whether anything was read before it, and what is left. -/
structure Spot where
  atStart : Bool
  rest : List Char
  deriving DecidableEq

namespace Spot

def ofText (text : String) : Spot := ⟨true, text.toList⟩

/-- The spot `count` characters later. -/
def after (spot : Spot) (count : Nat) : Spot :=
  ⟨spot.atStart && count == 0, spot.rest.drop count⟩

end Spot

inductive Pattern : Type where
  | start
  | finish
  | times (allowed : Char → Bool) (least most : Nat)
  | next (first second : Pattern)
  | optional (inner : Pattern)

namespace Pattern

/-- A single character of a class. -/
def one (allowed : Char → Bool) : Pattern := times allowed 1 1

def readsTimes (allowed : Char → Bool) (least : Nat) (rest : List Char) (count : Nat) : Bool :=
  decide (least ≤ count) && decide (count ≤ rest.length) && (rest.take count).all allowed

def ends : Pattern → Spot → List Spot
  | start, spot => if spot.atStart then [spot] else []
  | finish, spot => if spot.rest = [] ∨ spot.rest = ['\n'] then [spot] else []
  | times allowed least most, spot =>
      ((List.range (most + 1)).filter (readsTimes allowed least spot.rest)).map spot.after
  | next first second, spot => (first.ends spot).flatMap second.ends
  | optional inner, spot => inner.ends spot ++ [spot]

/-- A match from the beginning of the text, which need not reach its end. -/
def matchesText (pattern : Pattern) (text : String) : Bool :=
  !(pattern.ends (Spot.ofText text)).isEmpty

variable {spot final : Spot} {allowed : Char → Bool} {least most : Nat}

@[simp]
theorem mem_start : final ∈ start.ends spot ↔ spot.atStart = true ∧ final = spot := by
  unfold ends
  split_ifs with first <;> simp [first]

@[simp]
theorem mem_finish :
    final ∈ finish.ends spot ↔ (spot.rest = [] ∨ spot.rest = ['\n']) ∧ final = spot := by
  unfold ends
  split_ifs with last <;> simp [last]

@[simp]
theorem mem_next {first second : Pattern} :
    final ∈ (next first second).ends spot ↔
      ∃ middle ∈ first.ends spot, final ∈ second.ends middle := by
  simp [ends]

@[simp]
theorem mem_optional {inner : Pattern} :
    final ∈ (optional inner).ends spot ↔ final ∈ inner.ends spot ∨ final = spot := by
  simp [ends]

theorem mem_times :
    final ∈ (times allowed least most).ends spot ↔
      ∃ read left, spot.rest = read ++ left ∧ least ≤ read.length ∧ read.length ≤ most ∧
        (∀ character ∈ read, allowed character = true) ∧ final = spot.after read.length := by
  simp only [ends, List.mem_map, List.mem_filter, List.mem_range, readsTimes, Bool.and_eq_true,
    decide_eq_true_eq, List.all_eq_true]
  constructor
  · intro found
    obtain ⟨count, ⟨bounded, ⟨enough, fits⟩, all⟩, reached⟩ := found
    have taken : (spot.rest.take count).length = count := by simp [fits]
    refine ⟨spot.rest.take count, spot.rest.drop count, ?_, ?_, ?_, all, ?_⟩
    · exact (List.take_append_drop count spot.rest).symm
    · omega
    · omega
    · rw [taken]
      exact reached.symm
  · intro found
    obtain ⟨read, left, split, enough, bounded, all, reached⟩ := found
    refine ⟨read.length, ⟨by omega, ⟨enough, ?_⟩, ?_⟩, reached.symm⟩
    · rw [split]
      simp
    · rw [split, List.take_left]
      exact all

theorem after_read {read left : List Char} (split : spot.rest = read ++ left) :
    (spot.after read.length).rest = left := by
  simp [Spot.after, split]

theorem matches_text {pattern : Pattern} {text : String} :
    pattern.matchesText text = true ↔ ∃ final, final ∈ pattern.ends (Spot.ofText text) := by
  unfold matchesText
  rw [Bool.not_eq_true', List.isEmpty_eq_false_iff_exists_mem]

end Pattern

end KarmaSakshi.Library
