/-
This file says what a comparison of two states lists, key by key. A state may name a record more
than once and in any order; what counts is the last record with a name. Each list of the comparison
has exactly the names with the property it is about, once each and in ascending order, so there is
only one comparison that lists this; the comparison the other way round is therefore its mirror
image.
-/

import Mathlib
import TokenLedger.Proofs.Engine.Comparison

namespace TokenLedger

open KeyOrder

/-! ### The record that counts -/

/-- The last of the records with a name. -/
def lastNamed? {α : Type} (nameOf : α → String) (records : List α) (name : String) : Option α :=
  records.reverse.find? fun record => nameOf record = name

theorem SortedMap.get?_ofList_named {α : Type} (nameOf : α → String) (records : List α)
    (name : String) :
    (ofList (records.map fun record => (nameOf record, record))).get? name =
      lastNamed? nameOf records name := by
  rw [get?_ofList_eq_last, ← List.map_reverse, List.find?_map, Option.map_map, lastNamed?]
  exact congrFun Option.map_id _

/-- Each name counts once. -/
theorem SortedMap.size_ofList_named {α : Type} (nameOf : α → String) (records : List α) :
    (ofList (records.map fun record => (nameOf record, record))).size =
      (records.map nameOf).dedup.length := by
  have names : (ofList (records.map fun record => (nameOf record, record))).keys.Perm
      (records.map nameOf).dedup := by
    refine (List.perm_ext_iff_of_nodup (nodup_keys _) (List.nodup_dedup _)).mpr fun name => ?_
    rw [mem_keys_ofList_iff, List.mem_dedup, List.map_map]
    rfl
  rw [← names.length_eq, keys, List.length_map, size]

namespace GenesisState

/-- The token under a symbol. -/
def token? (state : GenesisState) (symbol : String) : Option Token :=
  lastNamed? Token.symbol state.tokens symbol

/-- The account of an address. -/
def account? (state : GenesisState) (address : Address) : Option Account :=
  lastNamed? Account.address state.accounts address

theorem get?_tokensBySymbol (state : GenesisState) (symbol : String) :
    state.tokensBySymbol.get? symbol = state.token? symbol :=
  SortedMap.get?_ofList_named Token.symbol state.tokens symbol

theorem get?_accountsByAddress (state : GenesisState) (address : Address) :
    state.accountsByAddress.get? address = state.account? address :=
  SortedMap.get?_ofList_named Account.address state.accounts address

/-- The two states have these tokens under a symbol. -/
def BothHave (first second : GenesisState) (symbol : String) (old new : Token) : Prop :=
  first.token? symbol = some old ∧ second.token? symbol = some new

end GenesisState

/-! ### What a comparison has to say -/

/-- The keys with a property are listed once each, in ascending order. -/
structure ListsExactly (keys : List String) (property : String → Prop) : Prop where
  ascending : Ascending keys
  mem_iff : ∀ key, key ∈ keys ↔ property key

theorem ListsExactly.unique {keys others : List String} {property : String → Prop}
    (listed : ListsExactly keys property) (alsoListed : ListsExactly others property) :
    keys = others := by
  refine Ascending.eq_of_mem_iff id ?_ ?_ fun key => ?_
  · rw [List.map_id]
    exact listed.ascending
  · rw [List.map_id]
    exact alsoListed.ascending
  · rw [listed.mem_iff, alsoListed.mem_iff]

namespace Comparison

/-- The comparison says where the second state differs from the first, by the names of records. -/
structure Describes (report : Comparison) (first second : GenesisState) : Prop where
  tokenCounts : report.tokenCounts =
    ((first.tokens.map Token.symbol).dedup.length, (second.tokens.map Token.symbol).dedup.length)
  tokenCountDelta : report.tokenCountDelta =
    ((second.tokens.map Token.symbol).dedup.length : Int) -
      (first.tokens.map Token.symbol).dedup.length
  added : ListsExactly report.added fun symbol =>
    first.token? symbol = none ∧ second.token? symbol ≠ none
  removed : ListsExactly report.removed fun symbol =>
    first.token? symbol ≠ none ∧ second.token? symbol = none
  resupplied : Ascending (report.supplyChanges.map SupplyChange.symbol)
  supplyChanges : ∀ change, change ∈ report.supplyChanges ↔
    ∃ old new, first.BothHave second change.symbol old new ∧ old.supply ≠ new.supply ∧
      change.first = old.supply ∧ change.second = new.supply ∧
      change.delta = (new.supply.toNat : Int) - old.supply.toNat
  ownerChanges : ListsExactly report.ownerChanges fun symbol =>
    ∃ old new, first.BothHave second symbol old new ∧ old.owner ≠ new.owner
  accountCounts : report.accountCounts =
    ((first.accounts.map Account.address).dedup.length,
      (second.accounts.map Account.address).dedup.length)
  changedAccounts : ListsExactly report.changedAccounts fun address =>
    first.account? address ≠ second.account? address

end Comparison

/-! ### What it says -/

section Lists

variable {first second : SortedMap String Token} {symbol : String}

theorem supplyChange?_eq_some_iff {change : SupplyChange} :
    supplyChange? first second symbol = some change ↔
      ∃ old new, first.get? symbol = some old ∧ second.get? symbol = some new ∧
        old.supply ≠ new.supply ∧
        ⟨symbol, old.supply, new.supply, new.supply.toNat - old.supply.toNat⟩ = change := by
  rw [supplyChange?]
  cases first.get? symbol with
  | none => simp
  | some old => cases second.get? symbol <;> simp

theorem ownerChanged_eq_true_iff :
    ownerChanged first second symbol = true ↔
      ∃ old new, first.get? symbol = some old ∧ second.get? symbol = some new ∧
        old.owner ≠ new.owner := by
  rw [ownerChanged]
  cases first.get? symbol with
  | none => simp
  | some old => cases second.get? symbol <;> simp

/-- The changes of supplies are listed in the order of the symbols. -/
theorem ascending_supplyChanges (first second : SortedMap String Token) :
    Ascending ((first.keys.filterMap (supplyChange? first second)).map SupplyChange.symbol) := by
  refine List.pairwise_map.mpr (List.pairwise_filterMap.mpr ?_)
  refine first.ascending_keys.imp fun ordered change listed other otherListed => ?_
  obtain ⟨_, _, _, _, _, rfl⟩ := supplyChange?_eq_some_iff.mp listed
  obtain ⟨_, _, _, _, _, rfl⟩ := supplyChange?_eq_some_iff.mp otherListed
  exact ordered

end Lists

namespace Comparison

variable {first second : GenesisState} {report other : Comparison}

theorem describes_compare (first second : GenesisState) :
    (first.compare second).Describes first second where
  tokenCounts := Prod.ext (SortedMap.size_ofList_named _ _) (SortedMap.size_ofList_named _ _)
  tokenCountDelta := congrArg₂ (fun one other : Nat => (one : Int) - other)
    (SortedMap.size_ofList_named _ _) (SortedMap.size_ofList_named _ _)
  added := by
    refine ⟨(SortedMap.ascending_keys _).filter _, fun symbol => ?_⟩
    rw [← first.get?_tokensBySymbol, ← second.get?_tokensBySymbol, and_comm]
    exact SortedMap.mem_keysMissingFrom_iff
  removed := by
    refine ⟨(SortedMap.ascending_keys _).filter _, fun symbol => ?_⟩
    rw [← first.get?_tokensBySymbol, ← second.get?_tokensBySymbol]
    exact SortedMap.mem_keysMissingFrom_iff
  resupplied := ascending_supplyChanges _ _
  supplyChanges := by
    intro change
    simp only [GenesisState.compare, List.mem_filterMap, supplyChange?_eq_some_iff,
      GenesisState.BothHave, ← GenesisState.get?_tokensBySymbol]
    constructor
    · rintro ⟨symbol, _, old, new, found, otherFound, differ, rfl⟩
      exact ⟨old, new, ⟨found, otherFound⟩, differ, rfl, rfl, rfl⟩
    · rintro ⟨old, new, ⟨found, otherFound⟩, differ, oldSupply, newSupply, grown⟩
      refine ⟨change.symbol, SortedMap.mem_keys_iff.mpr ⟨old, found⟩, old, new, found, otherFound,
        differ, ?_⟩
      rw [← grown, ← oldSupply, ← newSupply]
  ownerChanges := by
    refine ⟨(SortedMap.ascending_keys _).filter _, fun symbol => ?_⟩
    simp only [GenesisState.compare, List.mem_filter, ownerChanged_eq_true_iff,
      GenesisState.BothHave, ← GenesisState.get?_tokensBySymbol]
    constructor
    · rintro ⟨_, old, new, found, otherFound, differ⟩
      exact ⟨old, new, ⟨found, otherFound⟩, differ⟩
    · rintro ⟨old, new, ⟨found, otherFound⟩, differ⟩
      exact ⟨SortedMap.mem_keys_iff.mpr ⟨old, found⟩, old, new, found, otherFound, differ⟩
  accountCounts := Prod.ext (SortedMap.size_ofList_named _ _) (SortedMap.size_ofList_named _ _)
  changedAccounts := by
    refine ⟨(SortedMap.ascending_keys _).filter _, fun address => ?_⟩
    rw [← first.get?_accountsByAddress, ← second.get?_accountsByAddress]
    exact SortedMap.mem_keysWithChanges_iff

/-- There is only one comparison that describes where two states differ. -/
theorem Describes.unique (describes : report.Describes first second)
    (also : other.Describes first second) : report = other := by
  have supplyChanges : report.supplyChanges = other.supplyChanges :=
    Ascending.eq_of_mem_iff _ describes.resupplied also.resupplied fun change => by
      rw [describes.supplyChanges, also.supplyChanges]
  have tokenCounts := describes.tokenCounts.trans also.tokenCounts.symm
  have tokenCountDelta := describes.tokenCountDelta.trans also.tokenCountDelta.symm
  have accountCounts := describes.accountCounts.trans also.accountCounts.symm
  have added := describes.added.unique also.added
  have removed := describes.removed.unique also.removed
  have ownerChanges := describes.ownerChanges.unique also.ownerChanges
  have changedAccounts := describes.changedAccounts.unique also.changedAccounts
  -- Only now, with every part known to agree, are the two taken apart.
  obtain ⟨_, _, _, _, _, _, _, _⟩ := report
  obtain ⟨_, _, _, _, _, _, _, _⟩ := other
  cases tokenCounts; cases tokenCountDelta; cases added; cases removed; cases supplyChanges
  cases ownerChanges; cases accountCounts; cases changedAccounts
  rfl

end Comparison

/-! ### The other way round -/

/-- The change seen from the second state. -/
def SupplyChange.mirrored (change : SupplyChange) : SupplyChange :=
  ⟨change.symbol, change.second, change.first, -change.delta⟩

theorem SupplyChange.mirrored_mirrored (change : SupplyChange) :
    change.mirrored.mirrored = change := by
  rw [mirrored, mirrored, neg_neg]

namespace Comparison

/-- The comparison with the parts of the two states exchanged. -/
def mirrored (report : Comparison) : Comparison where
  tokenCounts := report.tokenCounts.swap
  tokenCountDelta := -report.tokenCountDelta
  added := report.removed
  removed := report.added
  supplyChanges := report.supplyChanges.map SupplyChange.mirrored
  ownerChanges := report.ownerChanges
  accountCounts := report.accountCounts.swap
  changedAccounts := report.changedAccounts

variable {first second : GenesisState} {report : Comparison}

/-- The growth of a supply is less than the word holds, up or down. -/
theorem Describes.natAbs_delta_lt (describes : report.Describes first second)
    {change : SupplyChange} (listed : change ∈ report.supplyChanges) :
    change.delta.natAbs < UInt64.size := by
  obtain ⟨old, new, _, _, _, _, grown⟩ := (describes.supplyChanges change).mp listed
  have first := old.supply.toNat_lt_size
  have second := new.supply.toNat_lt_size
  rw [grown]
  omega

/-- A change is listed in the mirror image if its mirror image is listed. -/
theorem mem_supplyChanges_mirrored {change : SupplyChange} :
    change ∈ report.mirrored.supplyChanges ↔ change.mirrored ∈ report.supplyChanges :=
  List.mem_map_of_involutive SupplyChange.mirrored_mirrored

/-- The mirror image describes where the first state differs from the second. -/
theorem Describes.mirrored (describes : report.Describes first second) :
    report.mirrored.Describes second first where
  tokenCounts := congrArg Prod.swap describes.tokenCounts
  tokenCountDelta := by
    rw [Comparison.mirrored, describes.tokenCountDelta, Int.neg_sub]
  added := ⟨describes.removed.ascending, fun symbol =>
    (describes.removed.mem_iff symbol).trans and_comm⟩
  removed := ⟨describes.added.ascending, fun symbol =>
    (describes.added.mem_iff symbol).trans and_comm⟩
  resupplied := by
    rw [Comparison.mirrored, List.map_map]
    exact describes.resupplied
  supplyChanges := by
    intro change
    rw [mem_supplyChanges_mirrored, describes.supplyChanges]
    constructor
    · rintro ⟨old, new, ⟨found, otherFound⟩, differ, oldSupply, newSupply, grown⟩
      rw [SupplyChange.mirrored, neg_eq_iff_eq_neg, Int.neg_sub] at grown
      exact ⟨new, old, ⟨otherFound, found⟩, differ.symm, newSupply, oldSupply, grown⟩
    · rintro ⟨old, new, ⟨found, otherFound⟩, differ, oldSupply, newSupply, grown⟩
      refine ⟨new, old, ⟨otherFound, found⟩, differ.symm, newSupply, oldSupply, ?_⟩
      rw [SupplyChange.mirrored, grown, Int.neg_sub]
  ownerChanges := by
    refine ⟨describes.ownerChanges.ascending, fun symbol => ?_⟩
    rw [Comparison.mirrored, describes.ownerChanges.mem_iff]
    constructor <;>
      (rintro ⟨old, new, ⟨found, otherFound⟩, differ⟩
       exact ⟨new, old, ⟨otherFound, found⟩, differ.symm⟩)
  accountCounts := congrArg Prod.swap describes.accountCounts
  changedAccounts := ⟨describes.changedAccounts.ascending, fun address =>
    (describes.changedAccounts.mem_iff address).trans ne_comm⟩

/-- A comparison lists the names at which two states differ, and nothing else is a comparison of the
two. The other way round it is the mirror image, in which everything has grown by as much as it had
shrunk. The growth of a supply is less than the word holds, up or down. -/
theorem compare_lists_exactly (first second : GenesisState) :
    (∀ report : Comparison, report = first.compare second ↔ report.Describes first second) ∧
    (first.compare second).tokenCountDelta =
      ((second.tokens.map Token.symbol).dedup.length : Int) -
        (first.tokens.map Token.symbol).dedup.length ∧
    second.compare first = (first.compare second).mirrored ∧
    (second.compare first).tokenCountDelta = -(first.compare second).tokenCountDelta ∧
    (second.compare first).supplyChanges.map SupplyChange.delta =
      (first.compare second).supplyChanges.map (fun change => -change.delta) ∧
    ∀ change ∈ (first.compare second).supplyChanges, change.delta.natAbs < UInt64.size := by
  have describes := describes_compare first second
  have mirrored : second.compare first = (first.compare second).mirrored :=
    (describes_compare second first).unique describes.mirrored
  refine ⟨fun report => ⟨fun same => same ▸ describes, fun also => also.unique describes⟩,
    describes.tokenCountDelta, mirrored, ?_, ?_, fun _ => describes.natAbs_delta_lt⟩
  · rw [mirrored, Comparison.mirrored]
  · rw [mirrored, Comparison.mirrored, List.map_map]
    rfl

end Comparison

end TokenLedger
