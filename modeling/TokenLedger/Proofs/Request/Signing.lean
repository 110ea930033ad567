/-
This file proves that a request is read back from the text that its signer signs. The text lists the
members of the document in key order, and the five types of requests have only two shapes, but the
type stands in the text and the fields are read by their names. The signed bytes therefore identify
the request. In the same way an envelope is read back from its document, and a list of envelopes
from its text.
-/

import Mathlib
import TokenLedger.Proofs.Data.Results
import TokenLedger.Proofs.Json.Values
import TokenLedger.Request.Envelope

namespace TokenLedger

open Json

/-! ### The terms of a request -/

theorem Issuance.ofTree?_tree (terms : Issuance) :
    Issuance.ofTree? terms.toJson.tree = some terms := by
  simp [Issuance.toJson, Issuance.ofTree?, Value.tree, Value.memberTrees, Record.ofTree?,
    Record.ofMembers?, Issuance.fieldNames, Record.required, Record.field?, Tree.text?, Tree.bool?]

/-- An issuance with the members of its document in key order. -/
theorem Issuance.sortKeys_toJson (terms : Issuance) :
    terms.toJson.sortKeys = .object [
      ("mintable", .bool terms.mintable),
      ("name", .string terms.name),
      ("source_address", .string terms.source),
      ("symbol", .string terms.symbol),
      ("total_supply", .string terms.totalSupply)] :=
  rfl

theorem Issuance.ofTree?_sortKeys (terms : Issuance) :
    Issuance.ofTree? terms.toJson.sortKeys.tree = some terms := by
  simp [Issuance.sortKeys_toJson, Issuance.ofTree?, Value.tree, Value.memberTrees, Record.ofTree?,
    Record.ofMembers?, Issuance.fieldNames, Record.required, Record.field?, Tree.text?, Tree.bool?]

theorem Order.ofTree?_tree (kind : OrderKind) (order : Order) :
    Order.ofTree? kind (order.toJson kind).tree = some order := by
  cases kind <;>
    simp [Order.toJson, Order.ofTree?, OrderKind.signerName, Value.tree, Value.memberTrees,
      Record.ofTree?, Record.ofMembers?, Record.required, Record.field?, Tree.text?]

/-- An order with the members of its document in key order: whatever the signer is called, the name
comes between the other two. -/
theorem Order.sortKeys_toJson (kind : OrderKind) (order : Order) :
    (order.toJson kind).sortKeys = .object [
      ("amount", .string order.amount),
      (kind.signerName, .string order.signer),
      ("symbol", .string order.symbol)] := by
  cases kind <;> rfl

theorem Order.ofTree?_sortKeys (kind : OrderKind) (order : Order) :
    Order.ofTree? kind (order.toJson kind).sortKeys.tree = some order := by
  rw [order.sortKeys_toJson]
  cases kind <;>
    simp [Order.ofTree?, OrderKind.signerName, Value.tree, Value.memberTrees, Record.ofTree?,
      Record.ofMembers?, Record.required, Record.field?, Tree.text?]

/-! ### The document of a request -/

namespace Request

theorem onlyWords_toJson (request : Request) : request.toJson.OnlyWords := by
  cases request with
  | issue terms => exact ⟨trivial, ⟨trivial, trivial, trivial, trivial, trivial, trivial⟩, trivial⟩
  | order kind terms => exact ⟨trivial, ⟨trivial, trivial, trivial, trivial⟩, trivial⟩

theorem fits_toJson (request : Request) (depth : Nat) : request.toJson.Fits (depth + 2) := by
  cases request with
  | issue terms =>
    exact ⟨by simp, trivial, ⟨by simp, trivial, trivial, trivial, trivial, trivial, trivial⟩,
      trivial⟩
  | order kind terms =>
    have names : ["amount", "symbol", kind.signerName].Nodup := by cases kind <;> decide
    exact ⟨by simp, trivial, ⟨names, trivial, trivial, trivial, trivial⟩, trivial⟩

theorem tag_mem_tags (request : Request) : request.tag ∈ tags := by
  cases request with
  | issue terms => exact List.mem_cons_self
  | order kind terms => cases kind <;> simp [tag, tags, OrderKind.all]

theorem valueOfTree?_issueTag (tree : Tree) :
    valueOfTree? issueTag tree = (Issuance.ofTree? tree).map .issue :=
  if_pos rfl

theorem valueOfTree?_orderTag (kind : OrderKind) (tree : Tree) :
    valueOfTree? kind.tag tree = (Order.ofTree? kind tree).map (.order kind) := by
  cases kind <;> rfl

/-- The terms are read by the type that stands next to them. -/
theorem valueOfTree?_tree (request : Request) :
    valueOfTree? request.tag request.valueToJson.tree = some request := by
  cases request with
  | issue terms =>
    rw [tag, valueOfTree?_issueTag, valueToJson, terms.ofTree?_tree, Option.map_some]
  | order kind terms =>
    rw [tag, valueOfTree?_orderTag, valueToJson, terms.ofTree?_tree, Option.map_some]

theorem valueOfTree?_sortKeys (request : Request) :
    valueOfTree? request.tag request.valueToJson.sortKeys.tree = some request := by
  cases request with
  | issue terms =>
    rw [tag, valueOfTree?_issueTag, valueToJson, terms.ofTree?_sortKeys, Option.map_some]
  | order kind terms =>
    rw [tag, valueOfTree?_orderTag, valueToJson, terms.ofTree?_sortKeys, Option.map_some]

/-- A request is read from its type and a value that holds its terms. -/
theorem ofValue_typed (request : Request) {value : Value}
    (terms : valueOfTree? request.tag value.tree = some request) :
    ofValue (.object [("type", .string request.tag), ("value", value)]) = .ok request := by
  have read : ofTree? (Value.object [("type", .string request.tag), ("value", value)]).tree =
      some request := by
    simp [ofTree?, Value.tree, Value.memberTrees, Record.ofTree?, Record.ofMembers?,
      Record.required, Record.field?, tagOfTree?, terms]
  have found : ((Value.object [("type", .string request.tag), ("value", value)]).member?
      "type").bind Value.text? = some request.tag := rfl
  rw [ofValue, found]
  simp only [read, request.tag_mem_tags, not_true_eq_false, if_false]

theorem ofValue_toJson (request : Request) : ofValue request.toJson = .ok request :=
  request.ofValue_typed request.valueOfTree?_tree

theorem ofValue_sortKeys (request : Request) : ofValue request.toJson.sortKeys = .ok request :=
  request.ofValue_typed request.valueOfTree?_sortKeys

theorem ofBytes_compact {value : Value} (words : value.OnlyWords)
    (fits : value.Fits Tree.nestingLimit) : ofBytes (utf8 value.compact) = ofValue value := by
  rw [ofBytes, Value.ofBytes?, utf8?_utf8, Option.bind_eq_bind, Option.bind_some,
    Value.parse?_compact words fits]

/-- A request is read back from what its signer signs. -/
theorem ofBytes_signText (request : Request) :
    ofBytes (utf8 request.signText) = .ok request := by
  rw [signText, ofBytes_compact request.onlyWords_toJson.sortKeys (request.fits_toJson 125).sortKeys,
    request.ofValue_sortKeys]

end Request

/-! ### Envelopes -/

namespace Envelope

theorem onlyWords_toJson (envelope : Envelope) : envelope.toJson.OnlyWords :=
  ⟨⟨_, rfl⟩, ⟨_, rfl⟩, envelope.request.onlyWords_toJson, trivial⟩

theorem fits_toJson (envelope : Envelope) (depth : Nat) : envelope.toJson.Fits (depth + 3) :=
  ⟨by simp, trivial, trivial, envelope.request.fits_toJson depth, trivial⟩

theorem versionOf_toJson (envelope : Envelope) :
    versionOf envelope.toJson = .ok envelope.schemaVersion := by
  have found : envelope.toJson.member? "schema_version" =
      some (.word envelope.schemaVersion.toUInt64) := rfl
  rw [versionOf]
  split
  next absent =>
    rw [found] at absent
    cases absent
  next written present =>
    rw [found] at present
    cases present
    rw [Value.shortWord?_tree_word]

/-- An envelope is read back from its document. -/
theorem ofValue_toJson (envelope : Envelope) : ofValue envelope.toJson = .ok envelope := by
  have sequence : (envelope.toJson.member? "sequence").bind Value.word? =
      some envelope.sequence := by
    have found : envelope.toJson.member? "sequence" = some (.word envelope.sequence) := rfl
    rw [found, Option.bind_some, Value.word, Value.word?, Number.word?_ofWord]
  have request : Request.ofValue ((envelope.toJson.member? "request").getD .null) =
      .ok envelope.request :=
    envelope.request.ofValue_toJson
  rw [ofValue, sequence]
  simp only [envelope.versionOf_toJson, request]
  rfl

/-- The document of a list of envelopes. -/
def listToJson (envelopes : List Envelope) : Value :=
  .array (envelopes.map toJson)

theorem onlyWords_listToJson (envelopes : List Envelope) : (listToJson envelopes).OnlyWords := by
  refine Value.allOnlyWords_iff.mpr fun item member => ?_
  obtain ⟨envelope, _, rfl⟩ := List.mem_map.mp member
  exact envelope.onlyWords_toJson

theorem fits_listToJson (envelopes : List Envelope) :
    (listToJson envelopes).Fits Tree.nestingLimit := by
  refine Value.allFit_iff.mpr fun item member => ?_
  obtain ⟨envelope, _, rfl⟩ := List.mem_map.mp member
  exact envelope.fits_toJson 123

theorem mapM_ofValue_toJson (envelopes : List Envelope) :
    (envelopes.map toJson).mapM ofValue = .ok envelopes := by
  have readBack (envelope : Envelope) : ofValue envelope.toJson = .ok (id envelope) :=
    envelope.ofValue_toJson
  rw [mapM_map_eq_ok readBack, List.map_id]

/-- A stream of envelopes is read back from its text. -/
theorem streamOfText_listToJson (envelopes : List Envelope) :
    streamOfText (listToJson envelopes).compact = .ok envelopes := by
  have fits : Value.AllFit (Tree.nestingLimit - 1) (envelopes.map toJson) :=
    fits_listToJson envelopes
  have items := Value.items?_itemTrees _ _ fits
  rw [Tree.items?_eq] at items
  rw [streamOfText, Tree.parse?_compact (onlyWords_listToJson envelopes), listToJson, Value.tree]
  simp only [items, mapM_ofValue_toJson]

end Envelope

/-- A request is read back from the bytes that its signer signs and from those of its plain document,
so that no two requests have the same signed bytes. A list of envelopes is read back from its text,
one by one or as a stream. -/
theorem signed_requests_read_back :
    (∀ request : Request, Request.ofBytes (utf8 request.signText) = .ok request ∧
      Request.ofBytes (utf8 request.toJson.compact) = .ok request) ∧
    (Function.Injective fun request : Request => utf8 request.signText) ∧
    ∀ envelopes : List Envelope,
      (∃ items, Value.parse? (Envelope.listToJson envelopes).compact = some (.array items) ∧
        items.mapM Envelope.ofValue = .ok envelopes) ∧
      Envelope.streamOfText (Envelope.listToJson envelopes).compact = .ok envelopes := by
  refine ⟨fun request => ⟨request.ofBytes_signText, ?_⟩, fun first second same => ?_,
    fun envelopes => ⟨⟨envelopes.map Envelope.toJson, ?_, ?_⟩, ?_⟩⟩
  · rw [Request.ofBytes_compact request.onlyWords_toJson (request.fits_toJson 125),
      request.ofValue_toJson]
  · have signed : utf8 first.signText = utf8 second.signText := same
    have read := first.ofBytes_signText
    rw [signed, second.ofBytes_signText] at read
    exact (Except.ok.inj read).symm
  · exact Value.parse?_compact (Envelope.onlyWords_listToJson envelopes)
      (Envelope.fits_listToJson envelopes)
  · exact Envelope.mapM_ofValue_toJson envelopes
  · exact Envelope.streamOfText_listToJson envelopes

end TokenLedger
