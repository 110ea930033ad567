/-
This file proves that an envelope is read back from the message in which it is logged. The request
of an envelope is a message inside a message, and its terms are a message inside that; a request of
no known type is logged as a message without fields. As in the records, an empty value is left out
and is the value that the reader starts from. With the records this is all that is kept as messages.
-/

import Mathlib
import TokenLedger.Proofs.Record.RoundTrip
import TokenLedger.Request.Message

namespace TokenLedger

open Wire

/-! ### The fields that are written -/

theorem Issuance.plain_fields (terms : Issuance) : ∀ field ∈ terms.fields, field.Plain := by
  intro field member
  simp only [Issuance.fields, List.mem_append] at member
  rcases member with (((source | name) | symbol) | supply) | mintable
  · exact plain_textField (by decide) _ field source
  · exact plain_textField (by decide) _ field name
  · exact plain_textField (by decide) _ field symbol
  · exact plain_textField (by decide) _ field supply
  · exact plain_flagField (by decide) _ field mintable

theorem Order.plain_fields (order : Order) : ∀ field ∈ order.fields, field.Plain := by
  intro field member
  simp only [Order.fields, List.mem_append] at member
  rcases member with (amount | symbol) | signer
  · exact plain_textField (by decide) _ field amount
  · exact plain_textField (by decide) _ field symbol
  · exact plain_textField (by decide) _ field signer

theorem OrderKind.isFieldNumber_number (kind : OrderKind) : IsFieldNumber kind.number := by
  cases kind <;> decide

theorem Request.plain_field (request : Request) : request.field.Plain := by
  cases request with
  | issue terms => exact IsFieldNumber.plain (by decide) (by simp)
  | order kind terms => exact kind.isFieldNumber_number.plain (by simp)

theorem LoggedEnvelope.plain_requestFields (request : Option Request) :
    ∀ field ∈ requestFields request, field.Plain := by
  intro field member
  cases request with
  | none => cases member
  | some request =>
    obtain rfl := List.mem_singleton.mp member
    exact request.plain_field

theorem LoggedEnvelope.plain_fields (envelope : LoggedEnvelope) :
    ∀ field ∈ envelope.fields, field.Plain := by
  obtain ⟨sequence, schemaVersion, request⟩ := envelope
  intro field member
  simp only [LoggedEnvelope.fields, List.mem_append] at member
  rcases member with (word | word) | message
  · exact plain_wordField (by decide) _ field word
  · exact plain_wordField (by decide) _ field word
  · cases request with
    | none => cases message
    | some request =>
      obtain rfl := List.mem_singleton.mp message
      exact IsFieldNumber.plain (by decide) (by simp)

/-- The fields of a message inside a message are read back. -/
theorem message?_write {fields : List Field} (plain : ∀ field ∈ fields, field.Plain)
    {enclosing : Nat} (shallow : enclosing < nestingLimit) :
    (Payload.bytes (write fields)).message? enclosing = some fields := by
  rw [Payload.message?, Payload.bytes?]
  exact read_write plain shallow

/-! ### The terms of a request -/

theorem Issuance.foldlM_fields (terms : Issuance) :
    terms.fields.foldlM Issuance.merge ⟨"", "", "", "", false⟩ = some terms := by
  have source := foldlM_textField Issuance.merge 1 (fun terms text => { terms with source := text })
    (fun terms text => by simp [Issuance.merge, text?_utf8])
    ⟨"", "", "", "", false⟩ rfl terms.source
  have name := foldlM_textField Issuance.merge 2 (fun terms text => { terms with name := text })
    (fun terms text => by simp [Issuance.merge, text?_utf8])
    ⟨terms.source, "", "", "", false⟩ rfl terms.name
  have symbol := foldlM_textField Issuance.merge 3 (fun terms text => { terms with symbol := text })
    (fun terms text => by simp [Issuance.merge, text?_utf8])
    ⟨terms.source, terms.name, "", "", false⟩ rfl terms.symbol
  have supply := foldlM_textField Issuance.merge 4
    (fun terms text => { terms with totalSupply := text })
    (fun terms text => by simp [Issuance.merge, text?_utf8])
    ⟨terms.source, terms.name, terms.symbol, "", false⟩ rfl terms.totalSupply
  have mintable := foldlM_flagField Issuance.merge 5
    (fun terms flag => { terms with mintable := flag })
    (fun terms => by simp [Issuance.merge, Payload.flag?, Payload.word?])
    ⟨terms.source, terms.name, terms.symbol, terms.totalSupply, false⟩ rfl terms.mintable
  simp only [Issuance.fields, List.foldlM_append, Option.bind_eq_bind, Option.bind_some, source,
    name, symbol, supply, mintable]

theorem Order.foldlM_fields (order : Order) :
    order.fields.foldlM Order.merge ⟨"", "", ""⟩ = some order := by
  have amount := foldlM_textField Order.merge 1 (fun order text => { order with amount := text })
    (fun order text => by simp [Order.merge, text?_utf8]) ⟨"", "", ""⟩ rfl order.amount
  have symbol := foldlM_textField Order.merge 2 (fun order text => { order with symbol := text })
    (fun order text => by simp [Order.merge, text?_utf8]) ⟨order.amount, "", ""⟩ rfl order.symbol
  have signer := foldlM_textField Order.merge 3 (fun order text => { order with signer := text })
    (fun order text => by simp [Order.merge, text?_utf8])
    ⟨order.amount, order.symbol, ""⟩ rfl order.signer
  simp only [Order.fields, List.foldlM_append, Option.bind_eq_bind, Option.bind_some, amount,
    symbol, signer]

theorem OrderKind.number_ne_issueNumber (kind : OrderKind) :
    kind.number ≠ Request.issueNumber := by
  cases kind <;> decide

theorem OrderKind.find?_number (kind : OrderKind) :
    (OrderKind.all.find? fun other => other.number = kind.number) = some kind := by
  cases kind <;> rfl

/-- A request is read back from its one field. -/
theorem Request.merge_field (request : Request) :
    Request.merge none request.field = some (some request) := by
  cases request with
  | issue terms =>
    rw [Request.merge, Request.field, messageField, if_pos rfl,
      message?_write terms.plain_fields (by decide)]
    simp only [issuanceSoFar, Issuance.foldlM_fields, Option.bind_eq_bind, Option.bind_some,
      Option.pure_def]
  | order kind terms =>
    rw [Request.merge, Request.field, messageField, if_neg kind.number_ne_issueNumber,
      kind.find?_number]
    simp only [message?_write terms.plain_fields (show 2 < nestingLimit by decide), orderSoFar,
      Order.foldlM_fields, Option.bind_eq_bind, Option.bind_some, Option.pure_def]

/-! ### The envelope -/

namespace LoggedEnvelope

theorem foldlM_requestFields (request : Option Request) :
    (requestFields request).foldlM Request.merge none = some request := by
  cases request with
  | none => rfl
  | some request =>
    rw [requestFields, List.foldlM_cons, request.merge_field]
    rfl

/-- An envelope is read back from its bytes. -/
theorem decode?_encode (envelope : LoggedEnvelope) : decode? envelope.encode = some envelope := by
  obtain ⟨sequence, schemaVersion, request⟩ := envelope
  have number := foldlM_wordField merge 1
    (fun envelope word => { envelope with sequence := word })
    (fun envelope word => by simp [merge, Payload.word?]) empty rfl sequence
  have version := foldlM_wordField merge 2
    (fun envelope word => { envelope with schemaVersion := word.toUInt32 })
    (fun envelope word => by simp [merge, Payload.word?]) ⟨sequence, 0, none⟩ rfl
    schemaVersion.toUInt64
  simp only [empty, UInt32.toUInt32_toUInt64] at number version
  rw [decode?, encode, read_write (plain_fields _) (by decide)]
  simp only [fields, List.foldlM_append, Option.bind_eq_bind, Option.bind_some, empty, number,
    version]
  cases request with
  | none => rfl
  | some request =>
    rw [List.foldlM_cons, merge, messageField]
    simp only [message?_write (plain_requestFields request) (show 1 < nestingLimit by decide),
      Option.getD_none, foldlM_requestFields, Option.bind_eq_bind, Option.bind_some,
      Option.pure_def, List.foldlM_nil]

/-- Two envelopes with the same bytes are the same. -/
theorem encode_injective : Function.Injective encode := by
  intro first second same
  have read := decode?_encode first
  rw [same, decode?_encode] at read
  exact (Option.some.inj read).symm

/-- An envelope with a request has bytes. -/
theorem length_encode_ofEnvelope_pos (envelope : Envelope) :
    0 < (ofEnvelope envelope).encode.length := by
  refine List.length_pos_iff.mpr fun nothing => ?_
  have isEmpty : ofEnvelope envelope = empty := encode_injective (nothing.trans rfl)
  cases congrArg LoggedEnvelope.request isEmpty

end LoggedEnvelope

/-! ### Whatever is kept as a message -/

/-- Tokens and accounts are read back from their messages, whatever their names and amounts, and an
envelope from the message in which it is logged, whatever its request. -/
theorem messages_read_back :
    (∀ token : Token,
      RecordFormat.proto.decodeToken (RecordFormat.proto.encodeToken token) = .ok token) ∧
    (∀ account : Account,
      RecordFormat.proto.decodeAccount (RecordFormat.proto.encodeAccount account) =
        .ok account) ∧
    ∀ envelope : Envelope, ∃ logged,
      LoggedEnvelope.decode? (LoggedEnvelope.ofEnvelope envelope).encode = some logged ∧
        logged.toEnvelope = .ok envelope := by
  refine ⟨RecordFormat.proto.decodeToken_encodeToken, RecordFormat.proto.decodeAccount_encodeAccount,
    fun envelope => ⟨.ofEnvelope envelope, LoggedEnvelope.decode?_encode _, ?_⟩⟩
  rw [LoggedEnvelope.toEnvelope, LoggedEnvelope.ofEnvelope]

end TokenLedger
