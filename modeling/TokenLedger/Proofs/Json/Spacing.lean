/-
This file describes documents by the white space between their parts: the compact text has none, and
the indented text has every part on a line of its own.
-/

import Mathlib
import TokenLedger.Json.Writer
import TokenLedger.Proofs.Json.Numbers

namespace TokenLedger.Json

/-! ### White space -/

/-- Nothing but white space. -/
def Blank (chars : List Char) : Prop :=
  ∀ char ∈ chars, isSpace char = true

theorem skipSpace_cons {char : Char} (notSpace : isSpace char = false) (rest : List Char) :
    skipSpace (char :: rest) = char :: rest := by
  rw [skipSpace, List.dropWhile_cons_of_neg (by simp [notSpace])]

theorem Blank.skipSpace_append {blank : List Char} (isBlank : Blank blank) (rest : List Char) :
    skipSpace (blank ++ rest) = skipSpace rest :=
  List.dropWhile_append_of_pos isBlank

theorem isSpace_of_isDigit {digit : Char} (isDigit : digit.isDigit = true) :
    isSpace digit = false := by
  by_contra space
  simp only [Bool.not_eq_false, isSpace, Bool.or_eq_true, beq_iff_eq] at space
  rcases space with ((rfl | rfl) | rfl) | rfl <;> cases isDigit

/-- White space ends a number. -/
theorem Blank.endsNumber {blank rest : List Char} (isBlank : Blank blank)
    (ends : EndsNumber rest) : EndsNumber (blank ++ rest) := by
  cases blank with
  | nil => exact ends
  | cons char others =>
    have space := isBlank char List.mem_cons_self
    have other {visible : Char} (shown : isSpace visible = false) : char ≠ visible := by
      rintro rfl
      rw [shown] at space
      cases space
    refine endsNumber_cons ?_ (other rfl) ⟨other rfl, other rfl⟩ _
    by_contra digit
    rw [isSpace_of_isDigit (Bool.eq_true_of_not_eq_false digit)] at space
    cases space

/-! ### Values set apart by white space -/

/-- What stands between the parts of a document. -/
structure Spacing where
  /-- What stands before an item, a member and the end of a container, at the given depth. -/
  line : Nat → List Char
  /-- What stands between a colon and the value after it. -/
  colon : List Char
  blank_line : ∀ depth, Blank (line depth)
  blank_colon : Blank colon

namespace Spacing

/-- The parts follow each other immediately. -/
def tight : Spacing where
  line _ := []
  colon := []
  blank_line _ _ member := nomatch member
  blank_colon _ member := nomatch member

/-- Every part is on a line of its own, and a space follows each colon. -/
def indented : Spacing where
  line := Value.newLine
  colon := [' ']
  blank_line depth char member := by
    rcases List.mem_cons.mp member with rfl | inIndent
    · rfl
    · rw [List.eq_of_mem_replicate inIndent]
      rfl
  blank_colon char member := by
    rw [List.mem_singleton.mp member]
    rfl

end Spacing

section Spaced

variable (spacing : Spacing)

mutual

/-- A value at the given depth. -/
def Value.spacedChars (spacing : Spacing) (depth : Nat) : Value → List Char
  | .null => ['n', 'u', 'l', 'l']
  | .bool value => boolChars value
  | .number amount => amount.chars
  | .string text => stringChars text
  | .array items => '[' :: (Value.spacedItems spacing depth items ++ [']'])
  | .object members => '\x7b' :: (Value.spacedMembers spacing depth members ++ ['\x7d'])
termination_by structural value => value

/-- The items of an array at the given depth, up to its end. -/
def Value.spacedItems (spacing : Spacing) (depth : Nat) : List Value → List Char
  | [] => []
  | item :: rest =>
    spacing.line (depth + 1) ++
      (Value.spacedChars spacing (depth + 1) item ++ Value.spacedMoreItems spacing depth rest)
termination_by structural items => items

/-- Items with a comma before each, up to the end of the array. -/
def Value.spacedMoreItems (spacing : Spacing) (depth : Nat) : List Value → List Char
  | [] => spacing.line depth
  | item :: rest =>
    ',' :: (spacing.line (depth + 1) ++
      (Value.spacedChars spacing (depth + 1) item ++ Value.spacedMoreItems spacing depth rest))
termination_by structural items => items

/-- The members of an object at the given depth, up to its end. -/
def Value.spacedMembers (spacing : Spacing) (depth : Nat) : List (String × Value) → List Char
  | [] => []
  | (key, value) :: rest =>
    spacing.line (depth + 1) ++ (stringChars key ++ ':' :: (spacing.colon ++
      (Value.spacedChars spacing (depth + 1) value ++ Value.spacedMoreMembers spacing depth rest)))
termination_by structural members => members

/-- Members with a comma before each, up to the end of the object. -/
def Value.spacedMoreMembers (spacing : Spacing) (depth : Nat) : List (String × Value) → List Char
  | [] => spacing.line depth
  | (key, value) :: rest =>
    ',' :: (spacing.line (depth + 1) ++ (stringChars key ++ ':' :: (spacing.colon ++
      (Value.spacedChars spacing (depth + 1) value ++ Value.spacedMoreMembers spacing depth rest))))
termination_by structural members => members

end

theorem Value.spacedItems_cons_cons (depth : Nat) (item next : Value) (others : List Value) :
    Value.spacedItems spacing depth (item :: next :: others) =
      spacing.line (depth + 1) ++ (item.spacedChars spacing (depth + 1) ++
        ',' :: Value.spacedItems spacing depth (next :: others)) :=
  rfl

theorem Value.spacedMembers_cons_cons (depth : Nat) (key : String) (value : Value)
    (next : String × Value) (others : List (String × Value)) :
    Value.spacedMembers spacing depth ((key, value) :: next :: others) =
      spacing.line (depth + 1) ++ (stringChars key ++ ':' :: (spacing.colon ++
        (value.spacedChars spacing (depth + 1) ++
          ',' :: Value.spacedMembers spacing depth (next :: others)))) :=
  rfl

end Spaced

mutual

/-- The compact form is the one in which nothing is set apart. -/
theorem Value.compactChars_eq : (value : Value) → (depth : Nat) →
    value.compactChars = value.spacedChars .tight depth
  | .null, _ | .bool _, _ | .number _, _ | .string _, _ => rfl
  | .array [], _ | .object [], _ => rfl
  | .array (item :: rest), depth => by
    rw [Value.compactChars, Value.compactItems, Value.compactChars_eq item (depth + 1),
      Value.compactMoreItems_eq rest depth]
    rfl
  | .object ((key, value) :: rest), depth => by
    rw [Value.compactChars, Value.compactMembers, Value.compactChars_eq value (depth + 1),
      Value.compactMoreMembers_eq rest depth, Value.spacedChars, Value.spacedMembers]
    simp only [Spacing.tight, List.append_assoc, List.cons_append, List.nil_append]
termination_by structural value => value

theorem Value.compactMoreItems_eq : (items : List Value) → (depth : Nat) →
    Value.compactMoreItems items = Value.spacedMoreItems .tight depth items
  | [], _ => rfl
  | item :: rest, depth => by
    rw [Value.compactMoreItems, Value.compactChars_eq item (depth + 1),
      Value.compactMoreItems_eq rest depth, List.append_assoc]
    rfl
termination_by structural items => items

theorem Value.compactMoreMembers_eq : (members : List (String × Value)) → (depth : Nat) →
    Value.compactMoreMembers members = Value.spacedMoreMembers .tight depth members
  | [], _ => rfl
  | (key, value) :: rest, depth => by
    rw [Value.compactMoreMembers, Value.compactChars_eq value (depth + 1),
      Value.compactMoreMembers_eq rest depth]
    simp only [List.append_assoc]
    rfl
termination_by structural members => members

end

mutual

/-- The indented form has its parts on lines of their own. -/
theorem Value.indentedChars_eq : (value : Value) → (depth : Nat) →
    value.indentedChars depth = value.spacedChars .indented depth
  | .null, _ | .bool _, _ | .number _, _ | .string _, _ => rfl
  | .array [], _ | .object [], _ => rfl
  | .array (item :: rest), depth => by
    rw [Value.indentedChars, Value.indentedChars_eq item (depth + 1)]
    simp only [List.append_assoc]
    rw [← List.append_assoc (Value.indentedItems _ _), Value.indentedItems_eq rest depth]
    simp only [Value.spacedChars, Value.spacedItems, List.append_assoc]
    rfl
  | .object ((key, value) :: rest), depth => by
    rw [Value.indentedChars, Value.indentedChars_eq value (depth + 1)]
    simp only [List.append_assoc]
    rw [← List.append_assoc (Value.indentedMembers _ _), Value.indentedMembers_eq rest depth]
    simp only [Value.spacedChars, Value.spacedMembers, List.append_assoc, List.cons_append,
      List.nil_append]
    rfl
termination_by structural value => value

theorem Value.indentedItems_eq : (items : List Value) → (depth : Nat) →
    Value.indentedItems (depth + 1) items ++ Value.newLine depth =
      Value.spacedMoreItems .indented depth items
  | [], _ => rfl
  | item :: rest, depth => by
    rw [Value.indentedItems, Value.indentedChars_eq item (depth + 1), List.append_assoc,
      Value.indentedItems_eq rest depth, List.append_assoc, List.append_assoc]
    rfl
termination_by structural items => items

theorem Value.indentedMembers_eq : (members : List (String × Value)) → (depth : Nat) →
    Value.indentedMembers (depth + 1) members ++ Value.newLine depth =
      Value.spacedMoreMembers .indented depth members
  | [], _ => rfl
  | (key, value) :: rest, depth => by
    rw [Value.indentedMembers, Value.indentedChars_eq value (depth + 1), List.append_assoc,
      Value.indentedMembers_eq rest depth]
    simp only [List.append_assoc]
    rfl
termination_by structural members => members

end

end TokenLedger.Json
