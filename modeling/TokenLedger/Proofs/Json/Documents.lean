/-
This file proves that a document is read back from its text, however its parts are set apart by white
space; the compact text and the indented text are two cases. The statement covers every value whose
numbers are words, which is all that the ledger writes. The induction is on the value; what follows
the value is arbitrary, except that it must not go on with a number that ends the value, and the
reader's bound has only to exceed the number of characters to be read.
-/

import Mathlib
import TokenLedger.Proofs.Json.Spacing
import TokenLedger.Proofs.Json.Strings

namespace TokenLedger.Json

/-! ### Values whose numbers are words -/

mutual

/-- Every number in the value is a word. -/
def Value.OnlyWords : Value → Prop
  | .number amount => ∃ word, amount = .ofWord word
  | .array items => Value.AllOnlyWords items
  | .object members => Value.MembersOnlyWords members
  | .null | .bool _ | .string _ => True
termination_by structural value => value

/-- Every number in the items is a word. -/
def Value.AllOnlyWords : List Value → Prop
  | [] => True
  | item :: rest => item.OnlyWords ∧ Value.AllOnlyWords rest
termination_by structural items => items

/-- Every number in the members is a word. -/
def Value.MembersOnlyWords : List (String × Value) → Prop
  | [] => True
  | (_, value) :: rest => value.OnlyWords ∧ Value.MembersOnlyWords rest
termination_by structural members => members

end

/-! ### White space before a value does not count -/

theorem readTree_skipSpace (bound : Nat) (chars : List Char) :
    readTree bound (skipSpace chars) = readTree bound chars := by
  cases bound with
  | zero => rfl
  | succ bound => rw [readTree, readTree, skipSpace, skipSpace, List.dropWhile_idempotent]

theorem readItems_skipSpace (bound : Nat) (chars : List Char) :
    readItems bound (skipSpace chars) = readItems bound chars := by
  cases bound with
  | zero => rfl
  | succ bound => rw [readItems, readItems, readTree_skipSpace]

theorem readMembers_skipSpace (bound : Nat) (chars : List Char) :
    readMembers bound (skipSpace chars) = readMembers bound chars := by
  cases bound with
  | zero => rfl
  | succ bound => rw [readMembers, readMembers, skipSpace, skipSpace, List.dropWhile_idempotent]

theorem Blank.readTree_append {blank : List Char} (isBlank : Blank blank) (bound : Nat)
    (rest : List Char) : readTree bound (blank ++ rest) = readTree bound rest := by
  rw [← readTree_skipSpace, isBlank.skipSpace_append, readTree_skipSpace]

/-! ### The first character decides how a value is read -/

theorem readTree_quote (bound : Nat) (rest : List Char) :
    readTree (bound + 1) ('"' :: rest) = (do
      let (text, rest) ← readString rest
      return (.string text, rest)) := by
  rw [readTree, skipSpace_cons rfl]
  rfl

theorem readTree_digit (bound : Nat) {digit : Char} (isDigit : digit.isDigit = true)
    (rest : List Char) :
    readTree (bound + 1) (digit :: rest) = (do
      let (numeral, rest) ← readNumeral (digit :: rest)
      return (.number numeral.number?, rest)) := by
  rw [readTree, skipSpace_cons (isSpace_of_isDigit isDigit)]
  split
  all_goals first
    | rfl
    | next same => cases same; cases isDigit

/-- An array that does not close at once has items. -/
theorem readTree_bracket (bound : Nat) {chars : List Char}
    (notClosed : ∀ rest, skipSpace chars ≠ ']' :: rest) :
    readTree (bound + 1) ('[' :: chars) = (do
      let (items, rest) ← readItems bound chars
      return (.array items, rest)) := by
  rw [readTree, skipSpace_cons rfl, ← readItems_skipSpace bound chars]
  -- Of the two cases of the reader, `notClosed` leaves the second.
  simp only

/-- An object that does not close at once has members. -/
theorem readTree_brace (bound : Nat) {chars : List Char}
    (notClosed : ∀ rest, skipSpace chars ≠ '\x7d' :: rest) :
    readTree (bound + 1) ('\x7b' :: chars) = (do
      let (members, rest) ← readMembers bound chars
      return (.object members, rest)) := by
  rw [readTree, skipSpace_cons rfl, ← readMembers_skipSpace bound chars]
  -- Of the two cases of the reader, `notClosed` leaves the second.
  simp only

/-- A value starts with a character that is neither white space nor the end of an array. -/
theorem Value.spacedChars_eq_cons (spacing : Spacing) (value : Value) (words : value.OnlyWords)
    (depth : Nat) :
    ∃ char others, value.spacedChars spacing depth = char :: others ∧ isSpace char = false ∧
      char ≠ ']' := by
  cases value with
  | null => exact ⟨_, _, rfl, rfl, by decide⟩
  | bool value => cases value <;> exact ⟨_, _, rfl, rfl, by decide⟩
  | number amount =>
    obtain ⟨word, rfl⟩ := words
    obtain ⟨digit, digits, written⟩ := List.exists_cons_of_ne_nil
      (Nat.toDigits_ne_nil (n := word.toNat) (b := 10))
    have isDigit := isDigit_of_mem_toDigits digit (written ▸ List.mem_cons_self)
    refine ⟨digit, digits, by rw [Value.spacedChars, chars_ofWord, written],
      isSpace_of_isDigit isDigit, ?_⟩
    rintro rfl
    cases isDigit
  | string text => exact ⟨_, _, rfl, rfl, by decide⟩
  | array items => exact ⟨_, _, rfl, rfl, by decide⟩
  | object members => exact ⟨_, _, rfl, rfl, by decide⟩

section Spaced

variable {spacing : Spacing}

/-- The items of an array do not start with its end. -/
theorem Value.skipSpace_spacedItems_ne (item : Value) (words : item.OnlyWords)
    (others : List Value) (depth : Nat) (after rest : List Char) :
    skipSpace (Value.spacedItems spacing depth (item :: others) ++ after) ≠ ']' :: rest := by
  obtain ⟨char, chars, written, notSpace, notClosed⟩ :=
    item.spacedChars_eq_cons spacing words (depth + 1)
  rw [Value.spacedItems, List.append_assoc, (spacing.blank_line _).skipSpace_append, written,
    List.append_assoc, List.cons_append, skipSpace_cons notSpace]
  exact fun same => notClosed (List.cons.inj same).1

/-- The members of an object do not start with its end. -/
theorem Value.skipSpace_spacedMembers_ne (member : String × Value)
    (others : List (String × Value)) (depth : Nat) (after rest : List Char) :
    skipSpace (Value.spacedMembers spacing depth (member :: others) ++ after) ≠
      '\x7d' :: rest := by
  rw [Value.spacedMembers, List.append_assoc, (spacing.blank_line _).skipSpace_append,
    List.append_assoc, stringChars_append, skipSpace_cons rfl]
  exact fun same => absurd (List.cons.inj same).1 (by decide)

/-! ### Reading back -/

/-- A word is read back, whatever ends it. -/
theorem readTree_word (word : UInt64) {bound : Nat} {rest : List Char} (ends : EndsNumber rest) :
    readTree (bound + 1) ((Number.ofWord word).chars ++ rest) =
      some (.number (some (.ofWord word)), rest) := by
  obtain ⟨digit, digits, written⟩ := List.exists_cons_of_ne_nil
    (Nat.toDigits_ne_nil (n := word.toNat) (b := 10))
  have isDigit := isDigit_of_mem_toDigits digit (written ▸ List.mem_cons_self)
  have numeral := readNumeral_toDigits word.toNat ends
  rw [chars_ofWord]
  rw [written, List.cons_append] at numeral ⊢
  rw [readTree_digit bound isDigit, numeral, ← written]
  simp only [Option.bind_eq_bind, Option.bind_some, Option.pure_def,
    number?_toDigits word.toNat_lt_size, Number.ofWord]

section Members

variable {bound : Nat} {blank rest after others last : List Char} {tree : Tree}
  {members : List (Option String × Tree)}

/-- A member that the end of the object follows is the last one. -/
theorem readMembers_last (isBlank : Blank blank) (key : String)
    (read : readTree bound rest = some (tree, after)) (closed : skipSpace after = '\x7d' :: others) :
    readMembers (bound + 1) (blank ++ (stringChars key ++ ':' :: rest)) =
      some ([(some key, tree)], others) := by
  have colon : isSpace ':' = false := rfl
  rw [readMembers, isBlank.skipSpace_append, stringChars_append, skipSpace_cons rfl]
  simp only [readString_stringChars, Option.bind_eq_bind, Option.bind_some, skipSpace_cons colon,
    read, closed, Option.pure_def]

/-- A member that a comma follows is the first of several. -/
theorem readMembers_more (isBlank : Blank blank) (key : String)
    (read : readTree bound rest = some (tree, after)) (comma : skipSpace after = ',' :: others)
    (following : readMembers bound others = some (members, last)) :
    readMembers (bound + 1) (blank ++ (stringChars key ++ ':' :: rest)) =
      some ((some key, tree) :: members, last) := by
  have colon : isSpace ':' = false := rfl
  rw [readMembers, isBlank.skipSpace_append, stringChars_append, skipSpace_cons rfl]
  simp only [readString_stringChars, Option.bind_eq_bind, Option.bind_some, skipSpace_cons colon,
    read, comma, following, Option.pure_def]

end Members

mutual

/-- A value is read back, however its parts are set apart. -/
theorem readTree_spacedChars : (value : Value) → value.OnlyWords → (depth bound : Nat) →
    (rest : List Char) → EndsNumber rest → (value.spacedChars spacing depth).length < bound →
    readTree bound (value.spacedChars spacing depth ++ rest) = some (value.tree, rest)
  | _, _, _, 0, _, _, enough => absurd enough (Nat.not_lt_zero _)
  | .null, _, _, bound + 1, rest, _, _ => by
    rw [readTree, Value.spacedChars, List.cons_append, skipSpace_cons rfl]
    rfl
  | .bool value, _, _, bound + 1, rest, _, _ => by
    cases value <;>
      (rw [readTree, Value.spacedChars, Value.boolChars]
       rfl)
  | .number amount, words, _, bound + 1, rest, ends, _ => by
    obtain ⟨word, rfl⟩ := words
    exact readTree_word word ends
  | .string text, _, _, bound + 1, rest, _, _ => by
    rw [Value.spacedChars, stringChars_append, readTree_quote, readString_stringChars]
    rfl
  | .array [], _, _, bound + 1, rest, _, _ => by
    rw [readTree]
    rfl
  | .array (item :: others), words, depth, bound + 1, rest, _, enough => by
    have shorter :
        (Value.spacedItems spacing depth (item :: others)).length + 1 < bound := by
      rw [Value.spacedChars, List.length_cons, List.length_append, List.length_singleton] at enough
      omega
    rw [Value.spacedChars, List.cons_append, List.append_assoc, List.singleton_append,
      readTree_bracket bound (item.skipSpace_spacedItems_ne words.1 others depth _),
      readItems_spacedItems (item :: others) words depth bound rest (by simp) shorter]
    rfl
  | .object [], _, _, bound + 1, rest, _, _ => by
    rw [readTree]
    rfl
  | .object (member :: others), words, depth, bound + 1, rest, _, enough => by
    have shorter :
        (Value.spacedMembers spacing depth (member :: others)).length + 1 < bound := by
      rw [Value.spacedChars, List.length_cons, List.length_append, List.length_singleton] at enough
      omega
    rw [Value.spacedChars, List.cons_append, List.append_assoc, List.singleton_append,
      readTree_brace bound (Value.skipSpace_spacedMembers_ne member others depth _),
      readMembers_spacedMembers (member :: others) words depth bound rest (by simp) shorter]
    rfl
termination_by structural value => value

/-- Items are read back up to the end of the array. -/
theorem readItems_spacedItems : (items : List Value) → Value.AllOnlyWords items →
    (depth bound : Nat) → (rest : List Char) → items ≠ [] →
    (Value.spacedItems spacing depth items).length + 1 < bound →
    readItems bound (Value.spacedItems spacing depth items ++ ']' :: rest) =
      some (Value.itemTrees items, rest)
  | [], _, _, _, _, nonempty, _ => absurd rfl nonempty
  | _, _, _, 0, _, _, enough => absurd enough (Nat.not_lt_zero _)
  | [item], words, depth, bound + 1, rest, _, enough => by
    rw [Value.spacedItems, List.length_append, List.length_append] at enough
    rw [Value.spacedItems, Value.spacedMoreItems, List.append_assoc, List.append_assoc, readItems,
      (spacing.blank_line _).readTree_append,
      readTree_spacedChars item words.1 (depth + 1) bound _
        ((spacing.blank_line _).endsNumber (endsNumber_cons rfl (by decide) (by decide) rest))
        (by omega)]
    simp only [Option.bind_eq_bind, Option.bind_some, (spacing.blank_line depth).skipSpace_append]
    rfl
  | item :: next :: others, words, depth, bound + 1, rest, _, enough => by
    rw [Value.spacedItems_cons_cons] at enough ⊢
    rw [List.length_append, List.length_append, List.length_cons] at enough
    have following := readItems_spacedItems (next :: others) words.2 depth bound rest (by simp)
      (by omega)
    rw [List.append_assoc, List.append_assoc, List.cons_append, readItems,
      (spacing.blank_line _).readTree_append,
      readTree_spacedChars item words.1 (depth + 1) bound _
        (endsNumber_cons rfl (by decide) (by decide) _) (by omega)]
    have comma : isSpace ',' = false := rfl
    simp only [Option.bind_eq_bind, Option.bind_some, skipSpace_cons comma, following]
    rfl
termination_by structural items => items

/-- Members are read back up to the end of the object. -/
theorem readMembers_spacedMembers : (members : List (String × Value)) →
    Value.MembersOnlyWords members → (depth bound : Nat) → (rest : List Char) → members ≠ [] →
    (Value.spacedMembers spacing depth members).length + 1 < bound →
    readMembers bound (Value.spacedMembers spacing depth members ++ '\x7d' :: rest) =
      some (Value.memberTrees members, rest)
  | [], _, _, _, _, nonempty, _ => absurd rfl nonempty
  | _, _, _, 0, _, _, enough => absurd enough (Nat.not_lt_zero _)
  | [(key, value)], words, depth, bound + 1, rest, _, enough => by
    rw [Value.spacedMembers, List.length_append, List.length_append, List.length_cons,
      List.length_append, List.length_append] at enough
    have read := readTree_spacedChars value words.1 (depth + 1) bound
      (spacing.line depth ++ '\x7d' :: rest)
      ((spacing.blank_line _).endsNumber (endsNumber_cons rfl (by decide) (by decide) rest))
      (by omega)
    rw [← spacing.blank_colon.readTree_append] at read
    have closed : skipSpace (spacing.line depth ++ '\x7d' :: rest) = '\x7d' :: rest := by
      rw [(spacing.blank_line depth).skipSpace_append, skipSpace_cons rfl]
    simp only [Value.spacedMembers, Value.spacedMoreMembers, List.append_assoc, List.cons_append]
    exact readMembers_last (spacing.blank_line _) key read closed
  | (key, value) :: next :: others, words, depth, bound + 1, rest, _, enough => by
    rw [Value.spacedMembers_cons_cons] at enough ⊢
    rw [List.length_append, List.length_append, List.length_cons, List.length_append,
      List.length_append, List.length_cons] at enough
    have following := readMembers_spacedMembers (next :: others) words.2 depth bound rest (by simp)
      (by omega)
    have read := readTree_spacedChars value words.1 (depth + 1) bound
      (',' :: (Value.spacedMembers spacing depth (next :: others) ++ '\x7d' :: rest))
      (endsNumber_cons rfl (by decide) (by decide) _) (by omega)
    rw [← spacing.blank_colon.readTree_append] at read
    simp only [List.append_assoc, List.cons_append]
    exact readMembers_more (spacing.blank_line _) key read (skipSpace_cons rfl _) following
termination_by structural members => members

end

/-- A document is read back from its text, however its parts are set apart. -/
theorem Tree.parse?_spaced {value : Value} (words : value.OnlyWords) (depth : Nat) :
    Tree.parse? (String.ofList (value.spacedChars spacing depth)) = some value.tree := by
  have read : readTree ((value.spacedChars spacing depth).length + 1)
      (value.spacedChars spacing depth ++ []) = some (value.tree, []) :=
    readTree_spacedChars value words depth _ [] endsNumber_nil (Nat.lt_succ_self _)
  rw [List.append_nil] at read
  rw [Tree.parse?, String.toList_ofList]
  simp only [read, Option.bind_eq_bind, Option.bind_some]
  rfl

end Spaced

/-- A document is read back from its compact text. -/
theorem Tree.parse?_compact {value : Value} (words : value.OnlyWords) :
    Tree.parse? value.compact = some value.tree := by
  rw [Value.compact, value.compactChars_eq 0]
  exact Tree.parse?_spaced words 0

/-- A document is read back from the bytes of its compact text. -/
theorem Tree.ofBytes?_compact {value : Value} (words : value.OnlyWords) :
    Tree.ofBytes? (utf8 value.compact) = some value.tree := by
  rw [Tree.ofBytes?, utf8?_utf8]
  exact Tree.parse?_compact words

/-- A document is read back from the bytes of its indented text. -/
theorem Tree.ofBytes?_indented {value : Value} (words : value.OnlyWords) :
    Tree.ofBytes? (utf8 value.indented) = some value.tree := by
  rw [Tree.ofBytes?, utf8?_utf8, Value.indented, value.indentedChars_eq 0]
  exact Tree.parse?_spaced words 0

end TokenLedger.Json
