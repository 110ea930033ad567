/-
This file proves that coins stand for a balance in every denomination, and that they are the only
ones that stand for it. Coins keep a list of entries; what is meant is a function from denominations
to amounts. Each edit does to the list what is meant by it, and an addition that does not fit leaves
the list alone. An amount that becomes zero is dropped, so that an entry is there just where the
balance is positive: the balances therefore determine the list, and with it what is written in
either format, whatever the edits were and in whatever order.
-/

import Mathlib
import TokenLedger.Proofs.Engine.Comparison
import TokenLedger.Proofs.Ledger.Moves

namespace TokenLedger

/-! ### Edits -/

/-- A change of coins. -/
inductive CoinEdit where
  /-- Overwrite the amount of a denomination. -/
  | set (denomination : String) (amount : Amount)
  /-- Add to the amount of a denomination. -/
  | add (denomination : String) (amount : Amount)

/-- What an edit answers: an addition the sum, or the fault that the sum does not fit. -/
abbrev CoinEdit.Answer := Except Fault (Option Amount)

/-- Make one edit after the other: the answers, and what is there in the end. -/
def CoinEdit.run {σ : Type} (perform : σ → CoinEdit → Answer × σ) (state : σ) :
    List CoinEdit → List Answer × σ
  | [] => ([], state)
  | edit :: rest =>
    let (answer, state) := perform state edit
    let (answers, last) := run perform state rest
    (answer :: answers, last)

/-- An amount for every denomination, zero for those that are not held. -/
abbrev Balances := String → Amount

namespace Balances

/-- An edit of one balance. An addition whose sum is no amount is refused. -/
def perform (balances : Balances) : CoinEdit → CoinEdit.Answer × Balances
  | .set denomination amount => (.ok none, Function.update balances denomination amount)
  | .add denomination amount =>
    if UInt64.size ≤ (balances denomination).toNat + amount.toNat then
      (.error (.badAmount .tooLarge), balances)
    else
      (.ok (some (balances denomination + amount)),
        Function.update balances denomination (balances denomination + amount))

/-- The answers to edits, and the balances in the end. -/
def run (balances : Balances) (edits : List CoinEdit) : List CoinEdit.Answer × Balances :=
  CoinEdit.run perform balances edits

end Balances

namespace Coins

/-- An edit of the coins themselves. -/
def perform (coins : Coins) : CoinEdit → CoinEdit.Answer × Coins
  | .set denomination amount => (.ok none, coins.setAmount denomination amount)
  | .add denomination amount =>
    match coins.add? denomination amount with
    | some (sum, after) => (.ok (some sum), after)
    | none => (.error (.badAmount .tooLarge), coins)

/-- The answers to edits, and the coins in the end. -/
def run (coins : Coins) (edits : List CoinEdit) : List CoinEdit.Answer × Coins :=
  CoinEdit.run perform coins edits

variable {coins other : Coins} {balances : Balances}

/-! ### Entries and balances -/

theorem amountOf_setAmount (coins : Coins) (denomination : String) (amount : Amount) :
    (coins.setAmount denomination amount).amountOf =
      Function.update coins.amountOf denomination amount := by
  funext other
  by_cases same : other = denomination
  · rw [same, amountOf_setAmount_self, Function.update_self]
  · rw [amountOf_setAmount_other coins same, Function.update_of_ne same]

/-- An addition that does not fit leaves the coins as they are. -/
theorem perform_add (coins : Coins) (denomination : String) (amount : Amount) :
    coins.perform (.add denomination amount) =
      if UInt64.size ≤ (coins.amountOf denomination).toNat + amount.toNat then
        (.error (.badAmount .tooLarge), coins)
      else
        (.ok (some (coins.amountOf denomination + amount)),
          coins.setAmount denomination (coins.amountOf denomination + amount)) := by
  rw [perform, add?_eq]
  by_cases overflow : Book.Overflows (coins.amountOf denomination) amount
  · rw [if_pos overflow]
    exact (if_pos overflow).symm
  · rw [if_neg overflow]
    exact (if_neg overflow).symm

/-- There is an entry just where the balance is positive. -/
theorem contains_iff (noZero : coins.hasZero = false) (denomination : String) :
    coins.contains denomination = true ↔ 0 < coins.amountOf denomination := by
  have entry := Book.hasZero_eq_false_iff.mp noZero denomination
  rw [SortedMap.contains_eq_isSome, amountOf]
  cases found : coins.get? denomination with
  | none => simp
  | some amount =>
    have positive : amount ≠ 0 := fun zero => entry (zero ▸ found)
    simpa [UInt64.pos_iff_ne_zero] using positive

/-- The same balance in every denomination. -/
def SameBalances (first second : Coins) : Prop :=
  ∀ denomination, first.amountOf denomination = second.amountOf denomination

/-- Without zeros, coins with the same balances have the same entries. -/
theorem SameBalances.eq (same : coins.SameBalances other) (noZero : coins.hasZero = false)
    (otherNoZero : other.hasZero = false) : coins = other := by
  refine SortedMap.ext_get? fun denomination => ?_
  have entry : coins.contains denomination = other.contains denomination := by
    rw [Bool.eq_iff_iff, contains_iff noZero, contains_iff otherNoZero, same]
  exact get?_eq_of_amountOf entry (same denomination)

/-! ### Runs of edits -/

/-- Coins that hold, denomination by denomination, the given balances. -/
structure Represents (coins : Coins) (balances : Balances) : Prop where
  noZero : coins.hasZero = false
  amounts : coins.amountOf = balances

/-- An edit does to the coins what it does to the balances, and answers the same. -/
theorem Represents.perform (represents : coins.Represents balances) (edit : CoinEdit) :
    (coins.perform edit).1 = (balances.perform edit).1 ∧
      (coins.perform edit).2.Represents (balances.perform edit).2 := by
  obtain ⟨noZero, rfl⟩ := represents
  cases edit with
  | set denomination amount =>
    exact ⟨rfl, Book.hasZero_setAmount noZero denomination amount,
      amountOf_setAmount coins denomination amount⟩
  | add denomination amount =>
    rw [perform_add, Balances.perform]
    split
    next => exact ⟨rfl, noZero, rfl⟩
    next =>
      exact ⟨rfl, Book.hasZero_setAmount noZero denomination _,
        amountOf_setAmount coins denomination _⟩

/-- By induction on the edits, the coins follow the balances from answer to answer. -/
theorem Represents.run (represents : coins.Represents balances) (edits : List CoinEdit) :
    (coins.run edits).1 = (balances.run edits).1 ∧
      (coins.run edits).2.Represents (balances.run edits).2 := by
  induction edits generalizing coins balances with
  | nil => exact ⟨rfl, represents⟩
  | cons edit rest inductionHypothesis =>
    obtain ⟨answer, edited⟩ := represents.perform edit
    obtain ⟨answers, last⟩ := inductionHypothesis edited
    exact ⟨congrArg₂ List.cons answer answers, last⟩

/-! ### What is written -/

/-- Coins are read back from their document. -/
theorem ofTree?_compact (coins : Coins) :
    (Json.Tree.ofBytes? (utf8 (Coins.toJson coins).compact)).bind Coins.ofTree? = some coins := by
  rw [Json.Tree.ofBytes?_compact (Coins.onlyWords coins), Option.bind_some, Coins.ofTree?_tree]

theorem compact_toJson_injective :
    Function.Injective fun coins : Coins => (Coins.toJson coins).compact := by
  intro first second same
  have document : (Coins.toJson first).compact = (Coins.toJson second).compact := same
  have read := ofTree?_compact first
  rw [document, ofTree?_compact second] at read
  exact (Option.some.inj read).symm

/-- Different coins have different messages, under every number that a record can have for them. -/
theorem write_fields_injective {number : Nat} (isNumber : IsFieldNumber number) :
    Function.Injective fun coins : Coins => Wire.write (Coins.fields number coins) := by
  intro first second same
  have top : 0 < Wire.nestingLimit := by decide
  have written : Wire.write (fields number first) = Wire.write (fields number second) := same
  have read := Wire.read_write (plain_coinFields isNumber first) top
  rw [written, Wire.read_write (plain_coinFields isNumber second) top] at read
  -- Each entry is read back from its own field, so that equal fields come from equal entries.
  refine SortedMap.eq_of_entries_eq
    (List.map_injective_iff.mpr (fun entry other field => ?_) (Option.some.inj read).symm)
  have coin := congrArg coin? (Wire.Field.mk.inj field).2
  rw [coin?_bytes, coin?_bytes] at coin
  exact Option.some.inj coin

/-! ### Histories -/

/-- Whatever edits are made to coins without zeros, the edits answer and come to what the same edits
of the balances do. The coins have no zeros and are in order, there is an entry just where the
balance is positive, and an addition whose sum is no amount is refused and changes nothing. Other
coins without zeros are the same just when they have the same balances, and so are their documents
and messages. -/
theorem balances_determine_coins (noZero : coins.hasZero = false) (edits : List CoinEdit) :
    (coins.run edits).2.hasZero = false ∧
    KeyOrder.Ascending (coins.run edits).2.keys ∧
    (coins.run edits).1 = (Balances.run coins.amountOf edits).1 ∧
    (coins.run edits).2.amountOf = (Balances.run coins.amountOf edits).2 ∧
    (∀ denomination, (coins.run edits).2.contains denomination = true ↔
      0 < (coins.run edits).2.amountOf denomination) ∧
    (∀ denomination amount,
      UInt64.size ≤ ((coins.run edits).2.amountOf denomination).toNat + amount.toNat →
        (coins.run edits).2.perform (.add denomination amount) =
          (.error (.badAmount .tooLarge), (coins.run edits).2)) ∧
    ∀ other : Coins, other.hasZero = false →
      (other = (coins.run edits).2 ↔ other.SameBalances (coins.run edits).2) ∧
      ((Coins.toJson other).compact = (Coins.toJson (coins.run edits).2).compact ↔
        other.SameBalances (coins.run edits).2) ∧
      ∀ number, IsFieldNumber number →
        (Wire.write (Coins.fields number other) =
            Wire.write (Coins.fields number (coins.run edits).2) ↔
          other.SameBalances (coins.run edits).2) := by
  obtain ⟨answers, represents⟩ := Represents.run ⟨noZero, rfl⟩ edits
  have determined (other : Coins) (otherNoZero : other.hasZero = false) :
      other = (coins.run edits).2 ↔ other.SameBalances (coins.run edits).2 :=
    ⟨fun same _ => same ▸ rfl, fun same => same.eq otherNoZero represents.noZero⟩
  refine ⟨represents.noZero, SortedMap.ascending_keys _, answers, represents.amounts,
    contains_iff represents.noZero, fun denomination amount overflow => ?_,
    fun other otherNoZero => ⟨determined other otherNoZero, ?_, fun number isNumber => ?_⟩⟩
  · rw [perform_add, if_pos overflow]
  · exact compact_toJson_injective.eq_iff.trans (determined other otherNoZero)
  · exact (write_fields_injective isNumber).eq_iff.trans (determined other otherNoZero)

/-- All the gold that an amount can count. -/
def allGold : Coins := single "GLD-1A2" 18446744073709551615

/-- An addition that does not fit, a denomination that comes before, and one that comes and goes. -/
def goldEdits : List CoinEdit :=
  [.add "GLD-1A2" 1, .add "AAA-000" 5, .set "ZZZ-FFF" 3, .add "AAA-000" 2, .set "ZZZ-FFF" 0]

theorem balances_determine_coins_allGold :
    allGold.hasZero = false ∧
    (allGold.run goldEdits).1 = [.error (.badAmount .tooLarge), .ok (some 5), .ok none,
      .ok (some 7), .ok none] ∧
    UInt64.size ≤ ((allGold.run goldEdits).2.amountOf "GLD-1A2").toNat + (1 : Amount).toNat ∧
    (allGold.run goldEdits).2.perform (.add "GLD-1A2" 1) =
      (.error (.badAmount .tooLarge), (allGold.run goldEdits).2) ∧
    hasZero (allGold.setAmount "AAA-000" 7) = false ∧ IsFieldNumber 5 ∧
    Wire.write (Coins.fields 5 (allGold.setAmount "AAA-000" 7)) =
      Wire.write (Coins.fields 5 (allGold.run goldEdits).2) := by
  have noZero : allGold.hasZero = false := by decide
  have otherNoZero : hasZero (allGold.setAmount "AAA-000" 7) = false := by decide
  have overflow : UInt64.size ≤
      ((allGold.run goldEdits).2.amountOf "GLD-1A2").toNat + (1 : Amount).toNat := by decide
  have same : allGold.setAmount "AAA-000" 7 = (allGold.run goldEdits).2 := by decide
  obtain ⟨_, _, answers, _, _, refused, others⟩ := balances_determine_coins noZero goldEdits
  obtain ⟨determined, _, messages⟩ := others _ otherNoZero
  exact ⟨noZero, answers.trans (by decide), overflow, refused _ _ overflow, otherNoZero, by decide,
    (messages 5 (by decide)).mpr (determined.mp same)⟩

end Coins

end TokenLedger
