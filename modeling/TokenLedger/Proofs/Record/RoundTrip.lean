/-
This file proves that stored records are read back, in either format. Coins are written in the order
of their map, so that each denomination is named once; the reader that refuses a repeated
denomination therefore takes what was written, and collecting the entries gives the same map again.
In a message a field with an empty value is left out, which is the value that the reader starts
from.
-/

import Mathlib
import TokenLedger.Proofs.Data.Bindings
import TokenLedger.Proofs.Json.Documents
import TokenLedger.Proofs.Wire.Fields
import TokenLedger.Record.Format

namespace TokenLedger

/-! ### Documents -/

section Documents

open Json

theorem allWords_coins (entries : List (String × Amount)) :
    Value.MembersOnlyWords (entries.map fun entry => (entry.1, .word entry.2)) := by
  induction entries with
  | nil => trivial
  | cons entry rest inductionHypothesis => exact ⟨⟨entry.2, rfl⟩, inductionHypothesis⟩

theorem Coins.onlyWords (coins : Coins) : (Coins.toJson coins).OnlyWords :=
  allWords_coins coins.entries

theorem Token.onlyWords (token : Token) : token.toJson.OnlyWords :=
  ⟨trivial, trivial, trivial, trivial, Coins.onlyWords token.totalSupply, trivial, trivial⟩

theorem Account.onlyWords (account : Account) : account.toJson.OnlyWords :=
  ⟨⟨trivial, Coins.onlyWords account.coins, trivial⟩,
    ⟨Coins.onlyWords account.frozenCoins, trivial⟩, trivial⟩

theorem mapM_entry?_memberTrees (entries : List (String × Amount)) :
    (Value.memberTrees (entries.map fun entry => (entry.1, .word entry.2))).mapM Coins.entry? =
      some entries := by
  induction entries with
  | nil => rfl
  | cons entry rest inductionHypothesis =>
    rw [List.map_cons, Value.memberTrees, List.mapM_cons, inductionHypothesis]
    simp only [Coins.entry?, Value.word, Value.tree, Tree.word?, Number.word?_ofWord,
      Option.bind_eq_bind, Option.bind_some, Option.pure_def]

theorem Coins.ofTree?_tree (coins : Coins) :
    Coins.ofTree? (Coins.toJson coins).tree = some coins := by
  rw [Coins.toJson, Value.tree, Coins.ofTree?, mapM_entry?_memberTrees, Option.map_some,
    SortedMap.ofList_entries]

theorem Token.ofTree?_tree (token : Token) : Token.ofTree? token.toJson.tree = some token := by
  have supply := Coins.ofTree?_tree token.totalSupply
  simp [Token.ofTree?, Token.toJson, Value.tree, Value.memberTrees, Record.ofTree?,
    Record.ofMembers?, Token.fieldNames, Record.required, Record.field?, Tree.text?, Tree.bool?,
    supply]

theorem Account.ofTree?_tree (account : Account) :
    Account.ofTree? account.toJson.tree = some account := by
  have coins := Coins.ofTree?_tree account.coins
  have frozenCoins := Coins.ofTree?_tree account.frozenCoins
  simp [Account.ofTree?, Account.toJson, Account.baseOfTree?, Account.frozenOfTree?, Value.tree,
    Value.memberTrees, Record.ofTree?, Record.ofMembers?, Record.required, Record.field?,
    Tree.text?, coins, frozenCoins]

end Documents

/-! ### Messages -/

section Messages

open Wire

/-- A number of one of the fields that the ledger writes. -/
def IsFieldNumber (number : Nat) : Prop :=
  0 < number ∧ number < 16

instance (number : Nat) : Decidable (IsFieldNumber number) :=
  inferInstanceAs (Decidable (0 < number ∧ number < 16))

theorem IsFieldNumber.plain {number : Nat} (isNumber : IsFieldNumber number) {payload : Payload}
    (kind : payload ≠ .skipped) : Field.Plain ⟨number, payload⟩ := by
  have large : 16 * 8 + 8 ≤ UInt32.size := by decide
  have fits : number * 8 + 8 ≤ UInt32.size :=
    le_trans (by have below := isNumber.2; omega) large
  exact ⟨isNumber.1, fits, kind⟩

theorem plain_textField {number : Nat} (isNumber : IsFieldNumber number) (text : String) :
    ∀ field ∈ textField number text, field.Plain := by
  intro field member
  unfold textField at member
  split at member
  next => cases member
  next =>
    rw [List.mem_singleton] at member
    exact member ▸ isNumber.plain (by simp)

theorem plain_wordField {number : Nat} (isNumber : IsFieldNumber number) (value : UInt64) :
    ∀ field ∈ wordField number value, field.Plain := by
  intro field member
  unfold wordField at member
  split at member
  next => cases member
  next =>
    rw [List.mem_singleton] at member
    exact member ▸ isNumber.plain (by simp)

theorem plain_flagField {number : Nat} (isNumber : IsFieldNumber number) (value : Bool) :
    ∀ field ∈ flagField number value, field.Plain := by
  intro field member
  unfold flagField at member
  split at member
  next =>
    rw [List.mem_singleton] at member
    exact member ▸ isNumber.plain (by simp)
  next => cases member

theorem plain_coinFields {number : Nat} (isNumber : IsFieldNumber number) (coins : Coins) :
    ∀ field ∈ Coins.fields number coins, field.Plain := by
  intro field member
  obtain ⟨entry, _, rfl⟩ := List.mem_map.mp member
  exact isNumber.plain (by simp)

/-! Each kind of field is read by a fold that starts where the field has its empty value. -/

section Folds

variable {α : Type} (merge : α → Field → Option α) (number : Nat)

theorem foldlM_textField (set : α → String → α)
    (reads : ∀ start text, merge start ⟨number, .bytes (utf8 text)⟩ = some (set start text))
    (start : α) (blank : set start "" = start) (text : String) :
    (textField number text).foldlM merge start = some (set start text) := by
  unfold textField
  split
  next empty =>
    rw [empty, blank]
    rfl
  next =>
    rw [List.foldlM_cons, reads]
    rfl

theorem foldlM_wordField (set : α → UInt64 → α)
    (reads : ∀ start value, merge start ⟨number, .word value⟩ = some (set start value))
    (start : α) (blank : set start 0 = start) (value : UInt64) :
    (wordField number value).foldlM merge start = some (set start value) := by
  unfold wordField
  split
  next zero =>
    rw [zero, blank]
    rfl
  next =>
    rw [List.foldlM_cons, reads]
    rfl

theorem foldlM_flagField (set : α → Bool → α)
    (reads : ∀ start, merge start ⟨number, .word 1⟩ = some (set start true))
    (start : α) (blank : set start false = start) (value : Bool) :
    (flagField number value).foldlM merge start = some (set start value) := by
  cases value with
  | false =>
    rw [blank]
    rfl
  | true =>
    rw [flagField, if_pos rfl, List.foldlM_cons, reads]
    rfl

theorem text?_utf8 (text : String) : (Payload.bytes (utf8 text)).text? = some text := by
  simp [Payload.text?, Payload.bytes?, utf8?_utf8]

/-- One coin is read back from its message. -/
theorem coin?_bytes (entry : String × Amount) :
    Coins.coin? (.bytes (write (textField 1 entry.1 ++ wordField 2 entry.2))) = some entry := by
  have plain : ∀ field ∈ textField 1 entry.1 ++ wordField 2 entry.2, field.Plain := by
    intro field member
    rcases List.mem_append.mp member with text | word
    · exact plain_textField (by decide) _ field text
    · exact plain_wordField (by decide) _ field word
  have text := foldlM_textField Coins.mergeCoin 1 (fun coin text => (text, coin.2))
    (fun coin text => by simp [Coins.mergeCoin, text?_utf8]) ("", 0) rfl entry.1
  have word := foldlM_wordField Coins.mergeCoin 2 (fun coin value => (coin.1, value))
    (fun coin value => by simp [Coins.mergeCoin, Payload.word?]) (entry.1, 0) rfl entry.2
  simp only [Coins.coin?, Payload.message?, Payload.bytes?, Option.bind_eq_bind, Option.bind_some,
    read_write plain (show 1 < nestingLimit by decide), List.foldlM_append, text, word]

/-- The entries of coins are read one after the other. -/
theorem foldlM_coinFields (grown : List (String × Amount) → α)
    (reads : ∀ earlier entry payload, Coins.coin? payload = some entry →
      merge (grown earlier) ⟨number, payload⟩ = some (grown (earlier ++ [entry])))
    (coins : Coins) :
    (Coins.fields number coins).foldlM merge (grown []) = some (grown coins.entries) := by
  have fold : ∀ entries earlier : List (String × Amount),
      (entries.map fun entry =>
        messageField number (textField 1 entry.1 ++ wordField 2 entry.2)).foldlM merge
          (grown earlier) = some (grown (earlier ++ entries)) := by
    intro entries
    induction entries with
    | nil =>
      intro earlier
      rw [List.append_nil]
      rfl
    | cons entry rest inductionHypothesis =>
      intro earlier
      rw [List.map_cons, List.foldlM_cons, messageField, reads earlier entry _ (coin?_bytes entry)]
      simp only [Option.bind_eq_bind, Option.bind_some, inductionHypothesis,
        List.append_assoc, List.singleton_append]
  exact fold coins.entries []

end Folds

theorem ofDistinct?_entries (coins : Coins) : Coins.ofDistinct? coins.entries = some coins := by
  rw [Coins.ofDistinct?, SortedMap.ofList_entries]
  exact if_pos rfl

theorem Token.plain_fields (token : Token) : ∀ field ∈ token.fields, field.Plain := by
  intro field member
  simp only [Token.fields, List.mem_append] at member
  rcases member with ((((owner | name) | symbol) | original) | supply) | mintable
  · exact plain_textField (by decide) _ field owner
  · exact plain_textField (by decide) _ field name
  · exact plain_textField (by decide) _ field symbol
  · exact plain_textField (by decide) _ field original
  · exact plain_coinFields (by decide) _ field supply
  · exact plain_flagField (by decide) _ field mintable

theorem Account.plain_fields (account : Account) : ∀ field ∈ account.fields, field.Plain := by
  intro field member
  simp only [Account.fields, List.mem_append] at member
  rcases member with (address | coins) | frozenCoins
  · exact plain_textField (by decide) _ field address
  · exact plain_coinFields (by decide) _ field coins
  · exact plain_coinFields (by decide) _ field frozenCoins

/-- A token is read back from its message, field by field. -/
theorem Token.read?_toMessage (token : Token) :
    TokenMessage.read? token.toMessage = some {
      owner := token.owner
      name := token.name
      symbol := token.symbol
      originalSymbol := token.originalSymbol
      totalSupply := token.totalSupply.entries
      mintable := token.mintable } := by
  have owner := foldlM_textField TokenMessage.merge 1
    (fun message text => { message with owner := text })
    (fun message text => by simp [TokenMessage.merge, text?_utf8])
    .empty rfl token.owner
  have name := foldlM_textField TokenMessage.merge 2
    (fun message text => { message with name := text })
    (fun message text => by simp [TokenMessage.merge, text?_utf8])
    ⟨token.owner, "", "", "", [], false⟩ rfl token.name
  have symbol := foldlM_textField TokenMessage.merge 3
    (fun message text => { message with symbol := text })
    (fun message text => by simp [TokenMessage.merge, text?_utf8])
    ⟨token.owner, token.name, "", "", [], false⟩ rfl token.symbol
  have original := foldlM_textField TokenMessage.merge 4
    (fun message text => { message with originalSymbol := text })
    (fun message text => by simp [TokenMessage.merge, text?_utf8])
    ⟨token.owner, token.name, token.symbol, "", [], false⟩ rfl token.originalSymbol
  have supply := foldlM_coinFields TokenMessage.merge 5
    (fun coins => ⟨token.owner, token.name, token.symbol, token.originalSymbol, coins, false⟩)
    (fun earlier entry payload read => by simp [TokenMessage.merge, read])
    token.totalSupply
  have mintable := foldlM_flagField TokenMessage.merge 6
    (fun message flag => { message with mintable := flag })
    (fun message => by simp [TokenMessage.merge, Payload.flag?, Payload.word?])
    ⟨token.owner, token.name, token.symbol, token.originalSymbol, token.totalSupply.entries, false⟩
    rfl token.mintable
  simp only [TokenMessage.empty] at owner
  rw [TokenMessage.read?, Token.toMessage, read_write token.plain_fields (by decide)]
  simp only [Token.fields, List.foldlM_append, TokenMessage.empty, Option.bind_eq_bind,
    Option.bind_some, owner, name, symbol, original, supply, mintable]

theorem Token.ofMessage_toMessage (token : Token) :
    Token.ofMessage token.toMessage = .ok token := by
  rw [Token.ofMessage, Token.read?_toMessage]
  simp only [ofDistinct?_entries]

/-- An account is read back from its message, field by field. -/
theorem Account.read?_toMessage (account : Account) :
    AccountMessage.read? account.toMessage =
      some ⟨account.address, account.coins.entries, account.frozenCoins.entries⟩ := by
  have address := foldlM_textField AccountMessage.merge 1
    (fun message text => { message with address := text })
    (fun message text => by simp [AccountMessage.merge, text?_utf8])
    .empty rfl account.address
  have coins := foldlM_coinFields AccountMessage.merge 2
    (fun coins => ⟨account.address, coins, []⟩)
    (fun earlier entry payload read => by simp [AccountMessage.merge, read])
    account.coins
  have frozenCoins := foldlM_coinFields AccountMessage.merge 3
    (fun frozenCoins => ⟨account.address, account.coins.entries, frozenCoins⟩)
    (fun earlier entry payload read => by simp [AccountMessage.merge, read])
    account.frozenCoins
  simp only [AccountMessage.empty] at address
  rw [AccountMessage.read?, Account.toMessage, read_write account.plain_fields (by decide)]
  simp only [Account.fields, List.foldlM_append, AccountMessage.empty, Option.bind_eq_bind,
    Option.bind_some, address, coins, frozenCoins]

theorem Account.ofMessage_toMessage (account : Account) :
    Account.ofMessage account.toMessage = .ok account := by
  rw [Account.ofMessage, Account.read?_toMessage]
  simp only [ofDistinct?_entries]

end Messages

/-! ### Either format -/

namespace RecordFormat

/-- A token is read back from its stored form. -/
@[simp] theorem decodeToken_encodeToken (format : RecordFormat) (token : Token) :
    format.decodeToken (format.encodeToken token) = .ok token := by
  cases format with
  | json =>
    rw [decodeToken, encodeToken, document, Json.Tree.ofBytes?_compact token.onlyWords,
      Option.bind_some, Token.ofTree?_tree]
  | proto =>
    rw [decodeToken, encodeToken, Token.ofMessage_toMessage]
    rfl

/-- An account is read back from its stored form. -/
@[simp] theorem decodeAccount_encodeAccount (format : RecordFormat) (account : Account) :
    format.decodeAccount (format.encodeAccount account) = .ok account := by
  cases format with
  | json =>
    rw [decodeAccount, encodeAccount, document, Json.Tree.ofBytes?_compact account.onlyWords,
      Option.bind_some, Account.ofTree?_tree]
  | proto =>
    rw [decodeAccount, encodeAccount, Account.ofMessage_toMessage]
    rfl

/-- Two tokens with the same stored form are the same. -/
theorem encodeToken_injective (format : RecordFormat) :
    Function.Injective format.encodeToken := by
  intro first second same
  have read := format.decodeToken_encodeToken first
  rw [same, decodeToken_encodeToken] at read
  exact (Except.ok.inj read).symm

/-- Two accounts with the same stored form are the same. -/
theorem encodeAccount_injective (format : RecordFormat) :
    Function.Injective format.encodeAccount := by
  intro first second same
  have read := format.decodeAccount_encodeAccount first
  rw [same, decodeAccount_encodeAccount] at read
  exact (Except.ok.inj read).symm

/-- Tokens and accounts are read back from their documents, whatever texts and amounts they hold,
so that no two of them have one document. -/
theorem documents_read_back :
    (∀ token : Token, json.decodeToken (json.encodeToken token) = .ok token) ∧
    (∀ account : Account, json.decodeAccount (json.encodeAccount account) = .ok account) ∧
    Function.Injective json.encodeToken ∧
    Function.Injective json.encodeAccount :=
  ⟨json.decodeToken_encodeToken, json.decodeAccount_encodeAccount,
    json.encodeToken_injective, json.encodeAccount_injective⟩

end RecordFormat

end TokenLedger
