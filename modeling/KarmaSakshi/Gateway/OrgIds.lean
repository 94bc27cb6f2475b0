import KarmaSakshi.Gateway.Bootstrap
import KarmaSakshi.Library.Pattern

/-!
What the validator of organization ids accepts, and the pattern that it is compiled from.
-/

namespace KarmaSakshi.Gateway

open KarmaSakshi.Domain KarmaSakshi.Library

set_option autoImplicit false

/-- `[a-z0-9]`. -/
def isOrgEdge (letter : Char) : Bool := decide (lowerAlphanumeric letter)

/-- `[a-z0-9-]`. -/
def isOrgLetter (letter : Char) : Bool := decide (lowerAlphanumeric letter ∨ letter = '-')

/-- `_ORG_ID_RE`. -/
def orgIdRe : Pattern :=
  .next .start (.next (.one isOrgEdge)
    (.next (.optional (.next (.times isOrgLetter 0 62) (.one isOrgEdge))) .finish))

/-- An edge alone, or two edges around at most 62 letters. -/
def OrgIdShape (letters : List Char) : Prop :=
  ∃ first, lowerAlphanumeric first ∧
    (letters = [first] ∨
      ∃ middle last, letters = first :: (middle ++ [last]) ∧ middle.length ≤ 62 ∧
        (∀ letter ∈ middle, lowerAlphanumeric letter ∨ letter = '-') ∧ lowerAlphanumeric last)

section Reading

variable {spot final : Spot}

theorem one_edge : final ∈ (Pattern.one isOrgEdge).ends spot ↔
    ∃ letter left, spot.rest = letter :: left ∧ lowerAlphanumeric letter ∧
      final = spot.after 1 := by
  rw [Pattern.one, Pattern.mem_times]
  constructor
  · intro found
    obtain ⟨read, left, split, least, most, edges, reached⟩ := found
    obtain ⟨letter, rfl⟩ := List.length_eq_one_iff.mp (le_antisymm most least)
    exact ⟨letter, left, split, of_decide_eq_true (edges letter List.mem_cons_self), reached⟩
  · intro found
    obtain ⟨letter, left, split, edge, reached⟩ := found
    refine ⟨[letter], left, split, le_refl 1, le_refl 1, ?_, reached⟩
    intro read listed
    rw [List.mem_singleton.mp listed]
    exact decide_eq_true edge

theorem after_one {letter : Char} {left : List Char} (split : spot.rest = letter :: left) :
    (spot.after 1).rest = left :=
  @Pattern.after_read spot [letter] left split

/-- Without a line feed, a pattern that finishes has read the whole text. -/
theorem finished {letters : List Char} (noLineFeed : '\n' ∉ letters)
    (suffix : spot.rest <:+ letters) (ends : spot.rest = [] ∨ spot.rest = ['\n']) :
    spot.rest = [] := by
  rcases ends with empty | feed
  · exact empty
  · rw [feed] at suffix
    exact absurd (suffix.subset List.mem_cons_self) noLineFeed

theorem org_id_re_reads {text : String} (noLineFeed : '\n' ∉ text.toList) :
    orgIdRe.matchesText text = true ↔ OrgIdShape text.toList := by
  simp only [Pattern.matches_text, orgIdRe, Pattern.mem_next, Pattern.mem_start,
    Pattern.mem_finish, Pattern.mem_optional, Pattern.mem_times, one_edge]
  constructor
  · intro found
    obtain ⟨_, start, ⟨_, rfl⟩, second, ⟨first, left, split, edge, rfl⟩, third, optional, ends,
      _⟩ := found
    have whole : text.toList = first :: left := split
    have read : ((Spot.ofText text).after 1).rest = left := after_one split
    rw [read] at optional
    refine ⟨first, edge, ?_⟩
    rcases optional with inner | none
    · obtain ⟨fourth, ⟨middle, later, cut, _, most, inside, rfl⟩, last, beyond, next, edgeLast,
        rfl⟩ := inner
      have between : (((Spot.ofText text).after 1).after middle.length).rest = later :=
        Pattern.after_read (read.trans cut)
      rw [between] at next
      have final := after_one (between.trans next)
      rw [final] at ends
      have suffix : beyond <:+ text.toList := by
        rw [whole, cut, next]
        exact ⟨first :: (middle ++ [last]), by simp⟩
      have empty : beyond = [] := by
        have done := finished noLineFeed (final.symm ▸ suffix) (final.symm ▸ ends)
        exact final.symm.trans done
      refine .inr ⟨middle, last, ?_, most, ?_, edgeLast⟩
      · rw [whole, cut, next, empty]
      · intro letter listed
        exact of_decide_eq_true (inside letter listed)
    · left
      rw [none, read] at ends
      have suffix : left <:+ text.toList := by
        rw [whole]
        exact List.suffix_cons first left
      have empty : left = [] := by
        have done := finished noLineFeed (read.symm ▸ suffix) (read.symm ▸ ends)
        exact read.symm.trans done
      rw [whole, empty]
  · intro shape
    obtain ⟨first, edge, short | long⟩ := shape
    · have read := @after_one (Spot.ofText text) _ _ short
      exact ⟨_, _, ⟨rfl, rfl⟩, _, ⟨first, [], short, edge, rfl⟩, _, .inr rfl, .inl read, rfl⟩
    · obtain ⟨middle, last, whole, most, inside, edgeLast⟩ := long
      have read := @after_one (Spot.ofText text) _ _ whole
      have between := Pattern.after_read read
      have final := after_one between
      refine ⟨_, _, ⟨rfl, rfl⟩, _, ⟨first, _, whole, edge, rfl⟩, _, .inl ⟨_, ⟨middle, [last],
        read, Nat.zero_le _, most, ?_, rfl⟩, last, [], between, edgeLast, rfl⟩, .inl final, rfl⟩
      intro letter listed
      exact decide_eq_true (inside letter listed)

end Reading

theorem edge_is_no_hyphen {letter : Char} (edge : lowerAlphanumeric letter) : letter ≠ '-' := by
  intro same
  rw [same] at edge
  exact absurd edge (by decide)

/-- The reading of the pattern, beyond the letters of the text. -/
theorem pattern_letters {text : String} :
    orgIdPattern text ↔ text.toList ≠ [] ∧ text.toList.length ≤ 64 ∧
      (∀ letter ∈ text.toList, lowerAlphanumeric letter ∨ letter = '-') ∧
        text.toList.head? ≠ some '-' ∧ text.toList.getLast? ≠ some '-' := by
  have empty : text.toList ≠ [] ↔ text ≠ "" := not_congr String.toList_eq_nil_iff
  rw [orgIdPattern, List.all_eq_true, String.length_toList, empty]
  simp only [decide_eq_true_eq]

theorem shape_is_pattern {text : String} : OrgIdShape text.toList ↔ orgIdPattern text := by
  rw [pattern_letters]
  generalize text.toList = letters
  constructor
  · intro shape
    obtain ⟨first, edge, short | long⟩ := shape
    · rw [short]
      have inside : ∀ letter ∈ [first], lowerAlphanumeric letter ∨ letter = '-' := by
        intro letter listed
        rw [List.mem_singleton.mp listed]
        exact .inl edge
      have ends : some first ≠ some '-' := fun same => edge_is_no_hyphen edge (Option.some.inj same)
      exact ⟨List.cons_ne_nil _ _, Nat.one_le_ofNat, inside, ends, ends⟩
    · obtain ⟨middle, last, whole, most, inside, edgeLast⟩ := long
      rw [whole]
      refine ⟨List.cons_ne_nil _ _, ?_, ?_, ?_, ?_⟩
      · rw [List.length_cons, List.length_append, List.length_singleton]
        omega
      · intro letter listed
        rcases List.mem_cons.mp listed with here | later
        · exact .inl (here ▸ edge)
        · rcases List.mem_append.mp later with between | final
          · exact inside letter between
          · exact .inl (List.mem_singleton.mp final ▸ edgeLast)
      · exact fun same => edge_is_no_hyphen edge (Option.some.inj same)
      · rw [← List.cons_append, List.getLast?_concat]
        exact fun same => edge_is_no_hyphen edgeLast (Option.some.inj same)
  · intro pattern
    obtain ⟨nonempty, most, inside, head, ending⟩ := pattern
    have edge_of : ∀ letter ∈ letters, letter ≠ '-' → lowerAlphanumeric letter :=
      fun letter listed other => (inside letter listed).resolve_right other
    obtain ⟨first, rest, rfl⟩ := List.exists_cons_of_ne_nil nonempty
    have firstEdge : lowerAlphanumeric first := by
      apply edge_of first List.mem_cons_self
      intro hyphen
      rw [hyphen] at head
      exact head rfl
    refine ⟨first, firstEdge, ?_⟩
    rcases List.eq_nil_or_concat rest with empty | more
    · left
      rw [empty]
    · obtain ⟨middle, last, ends⟩ := more
      rw [List.concat_eq_append] at ends
      subst ends
      refine .inr ⟨middle, last, rfl, ?_, ?_, ?_⟩
      · rw [List.length_cons, List.length_append, List.length_singleton] at most
        omega
      · intro letter listed
        exact inside letter (List.mem_cons_of_mem _ (List.mem_append_left _ listed))
      · apply edge_of last (List.mem_cons_of_mem _ (List.mem_append_right _ List.mem_cons_self))
        intro hyphen
        rw [hyphen, ← List.cons_append, List.getLast?_concat] at ending
        exact ending rfl

/-- The compiled pattern and its reading agree on what the validator asks them. -/
theorem org_id_re_matches {text : String} (noLineFeed : '\n' ∉ text.toList) :
    orgIdRe.matchesText text = true ↔ orgIdPattern text :=
  (org_id_re_reads noLineFeed).trans shape_is_pattern

/-! ### What is accepted -/

/-- Lower-case letters, digits and hyphens, and no device. -/
structure CanonicalOrgId (value : String) : Prop where
  nonempty : value ≠ ""
  letters : ∀ letter ∈ value.toList, lowerAlphanumeric letter ∨ letter = '-'
  unreserved : value ∉ reservedWindowsNames

section Validator

variable {nfkc : String → String} {value : String}

/-- An error of the validator, or the value itself. -/
def RefusedOrUnchanged (value : String) (outcome : Except PyError String) : Prop :=
  (∃ message, outcome = .error ⟨.invalidOrganizationId, message⟩) ∨ outcome = .ok value

section Rules

variable {rule : Prop} [Decidable rule] {refusal rest : Except PyError String}

theorem RefusedOrUnchanged.guarded
    (refuses : ∃ message, refusal = .error ⟨.invalidOrganizationId, message⟩)
    (otherwise : RefusedOrUnchanged value rest) :
    RefusedOrUnchanged value (if rule then refusal else rest) := by
  by_cases broken : rule
  · rw [if_pos broken]
    exact .inl refuses
  · rw [if_neg broken]
    exact otherwise

theorem rule_kept {accepted : String} (refuses : refusal ≠ .ok accepted)
    (valid : (if rule then refusal else rest) = .ok accepted) : ¬ rule ∧ rest = .ok accepted := by
  by_cases broken : rule
  · rw [if_pos broken] at valid
    exact absurd valid refuses
  · rw [if_neg broken] at valid
    exact ⟨broken, valid⟩

end Rules

/-- The validator refuses a value or returns it unchanged. -/
theorem org_id_unchanged : RefusedOrUnchanged value (validateCanonicalOrgId nfkc value) := by
  unfold validateCanonicalOrgId
  repeat apply RefusedOrUnchanged.guarded ⟨_, rfl⟩
  exact .inr rfl

theorem accepted_org_id {accepted : String}
    (valid : validateCanonicalOrgId nfkc value = .ok accepted) : CanonicalOrgId value := by
  unfold validateCanonicalOrgId at valid
  have nonempty := rule_kept (fun same => by cases same) valid
  have short := rule_kept (fun same => by cases same) nonempty.2
  have printable := rule_kept (fun same => by cases same) short.2
  have normalized := rule_kept (fun same => by cases same) printable.2
  have unseparated := rule_kept (fun same => by cases same) normalized.2
  have untraversed := rule_kept (fun same => by cases same) unseparated.2
  have driveless := rule_kept (fun same => by cases same) untraversed.2
  have shaped := rule_kept (fun same => by cases same) driveless.2
  have unreserved := rule_kept (fun same => by cases same) shaped.2
  have shape := pattern_letters.mp (not_not.mp shaped.1)
  exact ⟨nonempty.1, shape.2.2.1, unreserved.1⟩

end Validator

/-- The letters of an organization id stand for themselves in every file name. -/
theorem org_letter_is_plain {letter : Char} (allowed : lowerAlphanumeric letter ∨ letter = '-') :
    letter ≠ '/' ∧ letter ≠ '\\' ∧ letter ≠ ':' ∧ letter ≠ '.' ∧ letter ≠ ' ' ∧
      letter.toLower = letter := by
  have other : ∀ character, ¬ (lowerAlphanumeric character ∨ character = '-') →
      letter ≠ character := by
    intro character refused same
    rw [same] at allowed
    exact refused allowed
  have small : ¬ letter.isUpper = true := by
    intro upper
    simp only [Char.isUpper, decide_eq_true_eq, ge_iff_le,
      UInt32.le_iff_toNat_le] at upper
    rcases allowed with (letters | digits) | hyphen
    · have least : 'a'.val.toNat ≤ letter.val.toNat := letters.1
      exact absurd (least.trans upper.2) (by decide)
    · have most : letter.val.toNat ≤ '9'.val.toNat := digits.2
      exact absurd (upper.1.trans most) (by decide)
    · rw [hyphen] at upper
      exact absurd upper.1 (by decide)
  exact ⟨other '/' (by decide), other '\\' (by decide), other ':' (by decide),
    other '.' (by decide), other ' ' (by decide), Char.toLower_eq_of_not_isUpper small⟩

end KarmaSakshi.Gateway
