/-
This file proves which values a request is read from. The type is looked at before anything else:
a value that is no object, or whose type is not one of the five, is unknown. With a known type the
value next to it has to list the fields of that type and nothing else, either by name in any order
or without names in theirs. What else the outer object holds is not looked at.
-/

import Mathlib
import TokenLedger.Proofs.Json.Records
import TokenLedger.Proofs.Request.Signing

namespace TokenLedger

open Json

/-! ### The fields of a request -/

/-- The fields of a request in the order in which they are declared. -/
def Request.members : Request → List (String × Value)
  | .issue terms => [
      ("source_address", .string terms.source),
      ("name", .string terms.name),
      ("symbol", .string terms.symbol),
      ("total_supply", .string terms.totalSupply),
      ("mintable", .bool terms.mintable)]
  | .order kind terms => [
      ("amount", .string terms.amount),
      ("symbol", .string terms.symbol),
      (kind.signerName, .string terms.signer)]

theorem Request.nodup_members (request : Request) : (request.members.map Prod.fst).Nodup := by
  cases request with
  | issue terms => simp [members]
  | order kind terms => cases kind <;> simp [members, OrderKind.signerName]

theorem OrderKind.tag_injective : Function.Injective OrderKind.tag := by
  intro first second same
  cases first <;> cases second <;> first | rfl | simp [tag] at same

theorem Issuance.ofTree?_eq_some_iff {tree : Tree} {terms : Issuance} :
    Issuance.ofTree? tree = some terms ↔ Record.Holds tree (Request.issue terms).members := by
  simp only [Issuance.ofTree?, Record.Holds, Request.members, fieldNames, List.map_cons,
    List.map_nil, List.forall_mem_cons, ← Record.required_text?_iff, ← Record.required_bool?_iff,
    Option.bind_eq_bind, Option.bind_eq_some_iff, Option.pure_def, Option.some.injEq]
  constructor
  · rintro ⟨record, read, source, sourceRead, name, nameRead, symbol, symbolRead, supply,
      supplyRead, mintable, mintableRead, rfl⟩
    exact ⟨record, read, sourceRead, nameRead, symbolRead, supplyRead, mintableRead,
      fun _ isMember => absurd isMember List.not_mem_nil⟩
  · rintro ⟨record, read, sourceRead, nameRead, symbolRead, supplyRead, mintableRead, -⟩
    exact ⟨record, read, _, sourceRead, _, nameRead, _, symbolRead, _, supplyRead, _,
      mintableRead, rfl⟩

theorem Order.ofTree?_eq_some_iff {kind : OrderKind} {tree : Tree} {terms : Order} :
    Order.ofTree? kind tree = some terms ↔
      Record.Holds tree (Request.order kind terms).members := by
  simp only [Order.ofTree?, Record.Holds, Request.members, List.map_cons,
    List.map_nil, List.forall_mem_cons, ← Record.required_text?_iff,
    Option.bind_eq_bind, Option.bind_eq_some_iff, Option.pure_def, Option.some.injEq]
  constructor
  · rintro ⟨record, read, amount, amountRead, symbol, symbolRead, signer, signerRead, rfl⟩
    exact ⟨record, read, amountRead, symbolRead, signerRead,
      fun _ isMember => absurd isMember List.not_mem_nil⟩
  · rintro ⟨record, read, amountRead, symbolRead, signerRead, -⟩
    exact ⟨record, read, _, amountRead, _, symbolRead, _, signerRead, rfl⟩

namespace Request

/-- The terms of a request are read from the documents that list its fields, next to its type. -/
theorem valueOfTree?_eq_some_iff {tag : String} (known : tag ∈ tags) {tree : Tree}
    {request : Request} :
    valueOfTree? tag tree = some request ↔
      tag = request.tag ∧ Record.Holds tree request.members := by
  have isTag : tag = issueTag ∨ ∃ kind : OrderKind, tag = kind.tag := by
    rcases List.mem_cons.mp known with same | isOrder
    · exact .inl same
    · obtain ⟨kind, -, same⟩ := List.mem_map.mp isOrder
      exact .inr ⟨kind, same.symm⟩
  rcases isTag with rfl | ⟨kind, rfl⟩
  · rw [valueOfTree?_issueTag, Option.map_eq_some_iff]
    cases request with
    | issue terms => simp [← Issuance.ofTree?_eq_some_iff, Request.tag]
    | order other terms => cases other <;> simp [Request.tag, issueTag, OrderKind.tag]
  · rw [valueOfTree?_orderTag, Option.map_eq_some_iff]
    cases request with
    | issue terms => cases kind <;> simp [Request.tag, issueTag, OrderKind.tag]
    | order other terms =>
      simp only [Request.order.injEq, Request.tag, ← Order.ofTree?_eq_some_iff]
      rw [OrderKind.tag_injective.eq_iff]
      constructor
      · rintro ⟨order, read, rfl, rfl⟩
        exact ⟨rfl, read⟩
      · rintro ⟨rfl, read⟩
        exact ⟨terms, read, rfl, rfl⟩

theorem valueOfTree?_tree_iff {tag : String} (known : tag ∈ tags) {body : Value}
    (once : body.NamesOnce) {request : Request} :
    valueOfTree? tag body.tree = some request ↔
      tag = request.tag ∧ body.Lists request.members := by
  rw [valueOfTree?_eq_some_iff known, Record.holds_tree_iff request.nodup_members once]

end Request

/-! ### What stands around them -/

/-- The value is an object of the given type. -/
def Json.Value.IsTyped (value : Value) (tag : String) : Prop :=
  ∃ members, value = .object members ∧ ("type", .string tag) ∈ members

theorem Json.Value.isTyped_iff {value : Value} (once : value.NamesOnce) {tag : String} :
    value.IsTyped tag ↔ (value.member? "type").bind Value.text? = some tag := by
  rw [Option.bind_eq_some_iff]
  cases value with
  | object members =>
    simp only [Value.member?_eq_some_iff once.nodup_keys]
    constructor
    · rintro ⟨_, isObject, typed⟩
      cases isObject
      exact ⟨_, typed, rfl⟩
    · rintro ⟨written, isMember, read⟩
      cases written with
      | string text => exact ⟨members, rfl, Option.some.inj read ▸ isMember⟩
      | _ => cases read
  | _ => simp [Value.IsTyped, Value.member?]

/-- The value is the request written out: an object with its type and with a value that lists its
fields, among whatever other members. -/
def Request.IsWrittenAs (request : Request) (value : Value) : Prop :=
  ∃ members body, value = .object members ∧ ("type", .string request.tag) ∈ members ∧
    ("value", body) ∈ members ∧ body.Lists request.members

namespace Request

variable {value : Value}

theorem IsWrittenAs.isTyped {request : Request} (written : request.IsWrittenAs value) :
    value.IsTyped request.tag := by
  obtain ⟨members, body, isObject, typed, -⟩ := written
  exact ⟨members, isObject, typed⟩

theorem ofValue_of_untyped (once : value.NamesOnce) (untyped : ∀ tag, ¬value.IsTyped tag) :
    ofValue value = .error (.unknown .noType) := by
  have noText : (value.member? "type").bind Value.text? = none :=
    Option.eq_none_iff_forall_ne_some.mpr fun tag found =>
      untyped tag ((Value.isTyped_iff once).mpr found)
  rw [ofValue, noText]

theorem ofValue_of_unknown (once : value.NamesOnce) {tag : String} (typed : value.IsTyped tag)
    (unknown : tag ∉ tags) : ofValue value = .error (.unknown (.requestType tag)) := by
  rw [ofValue, (Value.isTyped_iff once).mp typed]
  exact if_pos unknown

/-- The request that a value of a known type holds, if its member lists the fields of one. -/
def held? (tag : String) (value : Value) : Option Request :=
  (value.member? "value").bind fun body => valueOfTree? tag body.tree

theorem ofTree?_of_typed (once : value.NamesOnce) {tag : String} (typed : value.IsTyped tag) :
    ofTree? value.tree = held? tag value := by
  obtain ⟨members, rfl, isMember⟩ := typed
  have found := (Value.member?_eq_some_iff once.nodup_keys).mpr isMember
  have typeField : "type" ∈ ["type", "value"] := List.mem_cons_self
  have valueField : "value" ∈ ["type", "value"] := List.mem_cons_of_mem _ List.mem_cons_self
  rw [ofTree?, Value.tree, Record.ofTree?, Record.ofMembers?_memberTrees once.nodup_keys (.inl rfl)]
  simp only [Option.map_some, Option.bind_eq_bind, Option.bind_some, Record.required,
    Record.field?_fieldsAmong typeField, Record.field?_fieldsAmong valueField, found, Value.tree,
    tagOfTree?, held?, Option.bind_map]
  rfl

theorem ofValue_of_known (once : value.NamesOnce) {tag : String} (typed : value.IsTyped tag)
    (known : tag ∈ tags) :
    ofValue value = (held? tag value).elim (.error (.badRequest .malformedBody)) .ok := by
  rw [ofValue, (Value.isTyped_iff once).mp typed]
  simp only [known, not_true_eq_false, if_false, ofTree?_of_typed once typed]
  cases held? tag value with
  | none => rfl
  | some request => rfl

/-- In a value of a known type, the request that it holds is the one that it writes out. -/
theorem held?_eq_some_iff (once : value.NamesOnce) {tag : String} (typed : value.IsTyped tag)
    (known : tag ∈ tags) {request : Request} :
    held? tag value = some request ↔ request.IsWrittenAs value := by
  obtain ⟨members, rfl, isMember⟩ := typed
  rw [held?, Option.bind_eq_some_iff]
  simp only [Value.member?_eq_some_iff once.nodup_keys]
  constructor
  · rintro ⟨body, isBody, read⟩
    obtain ⟨rfl, lists⟩ := (valueOfTree?_tree_iff known (once.of_mem isBody)).mp read
    exact ⟨members, body, rfl, isMember, isBody, lists⟩
  · rintro ⟨_, body, isObject, written, isBody, lists⟩
    cases isObject
    have same := List.inj_on_of_nodup_map once.nodup_keys isMember written rfl
    have sameTag : tag = request.tag := by simpa using same
    exact ⟨body, isBody, (valueOfTree?_tree_iff known (once.of_mem isBody)).mpr ⟨sameTag, lists⟩⟩

/-! ### The answers -/

theorem ofValue_eq_unknown_iff (once : value.NamesOnce) :
    (∃ flaw, ofValue value = .error (.unknown flaw)) ↔ ¬∃ tag ∈ tags, value.IsTyped tag := by
  constructor
  · rintro ⟨flaw, answer⟩ ⟨tag, known, typed⟩
    rw [ofValue_of_known once typed known] at answer
    cases held : held? tag value with
    | none =>
      rw [held] at answer
      cases answer
    | some request =>
      rw [held] at answer
      cases answer
  · intro noTag
    by_cases untyped : ∀ tag, ¬value.IsTyped tag
    · exact ⟨_, ofValue_of_untyped once untyped⟩
    · obtain ⟨tag, typed⟩ := not_forall_not.mp untyped
      exact ⟨_, ofValue_of_unknown once typed fun known => noTag ⟨tag, known, typed⟩⟩

theorem ofValue_eq_ok_iff (once : value.NamesOnce) {request : Request} :
    ofValue value = .ok request ↔ request.IsWrittenAs value := by
  by_cases noTag : ∃ tag ∈ tags, value.IsTyped tag
  · obtain ⟨tag, known, typed⟩ := noTag
    rw [← held?_eq_some_iff once typed known, ofValue_of_known once typed known]
    cases held? tag value with
    | none => simp
    | some held => rw [Option.elim_some, Except.ok.injEq, Option.some.injEq]
  · obtain ⟨flaw, answer⟩ := (ofValue_eq_unknown_iff once).mpr noTag
    refine iff_of_false (fun isRequest => ?_) fun written =>
      noTag ⟨request.tag, request.tag_mem_tags, written.isTyped⟩
    rw [answer] at isRequest
    cases isRequest

theorem ofValue_eq_malformed_iff (once : value.NamesOnce) :
    ofValue value = .error (.badRequest .malformedBody) ↔
      (∃ tag ∈ tags, value.IsTyped tag) ∧ ∀ request : Request, ¬request.IsWrittenAs value := by
  constructor
  · intro answer
    refine ⟨by_contra fun noTag => ?_, fun request written => ?_⟩
    · obtain ⟨flaw, unknown⟩ := (ofValue_eq_unknown_iff once).mpr noTag
      rw [answer] at unknown
      cases unknown
    · rw [(ofValue_eq_ok_iff once).mpr written] at answer
      cases answer
  · rintro ⟨⟨tag, known, typed⟩, unwritten⟩
    have nothing : held? tag value = none :=
      Option.eq_none_iff_forall_ne_some.mpr fun request held =>
        unwritten request ((held?_eq_some_iff once typed known).mp held)
    rw [ofValue_of_known once typed known, nothing, Option.elim_none]

end Request

/-! ### What does not count -/

namespace Request

/-- The fields of a request are texts and truth values. -/
theorem isScalar_of_mem_members {request : Request} {member : String × Value}
    (isMember : member ∈ request.members) : member.2.IsScalar := by
  cases request with
  | issue terms =>
    simp only [members, List.mem_cons, List.not_mem_nil, or_false] at isMember
    rcases isMember with rfl | rfl | rfl | rfl | rfl <;> trivial
  | order kind terms =>
    simp only [members, List.mem_cons, List.not_mem_nil, or_false] at isMember
    rcases isMember with rfl | rfl | rfl <;> trivial

/-- Both values have the same type and the same value, up to the order in which their objects name
the members. -/
def SameTerms (first second : Value) : Prop :=
  ∀ key ∈ ["type", "value"],
    (first.member? key).map Value.sortKeys = (second.member? key).map Value.sortKeys

variable {first second : Value}

theorem SameTerms.isTyped_iff (same : SameTerms first second) (firstOnce : first.NamesOnce)
    (secondOnce : second.NamesOnce) (tag : String) :
    first.IsTyped tag ↔ second.IsTyped tag := by
  have sameType := congrArg (Option.bind · Value.text?) (same "type" List.mem_cons_self)
  simp only [Option.bind_map, Function.comp_def, Value.text?_sortKeys] at sameType
  rw [Value.isTyped_iff firstOnce, Value.isTyped_iff secondOnce, sameType]

theorem SameTerms.held?_eq (same : SameTerms first second) (firstOnce : first.NamesOnce)
    (secondOnce : second.NamesOnce) {tag : String} (known : tag ∈ tags) :
    held? tag first = held? tag second := by
  have sameBody := same "value" (List.mem_cons_of_mem _ List.mem_cons_self)
  rw [held?, held?]
  match firstBody : first.member? "value", secondBody : second.member? "value" with
  | none, none => rfl
  | some body, none => simp [firstBody, secondBody] at sameBody
  | none, some other => simp [firstBody, secondBody] at sameBody
  | some body, some other =>
    have sorted : body.sortKeys = other.sortKeys := by
      simpa [firstBody, secondBody] using sameBody
    refine Option.ext fun request => ?_
    rw [Option.bind_some, Option.bind_some,
      valueOfTree?_tree_iff known (firstOnce.of_member? firstBody),
      valueOfTree?_tree_iff known (secondOnce.of_member? secondBody),
      ← Value.lists_sortKeys_iff (fun _ => isScalar_of_mem_members), sorted,
      Value.lists_sortKeys_iff fun _ => isScalar_of_mem_members]

/-- Members besides the type and the value do not count, nor does any order of members. -/
theorem SameTerms.ofValue_eq (same : SameTerms first second) (firstOnce : first.NamesOnce)
    (secondOnce : second.NamesOnce) : ofValue first = ofValue second := by
  have sameType := same.isTyped_iff firstOnce secondOnce
  by_cases untyped : ∀ tag, ¬first.IsTyped tag
  · rw [ofValue_of_untyped firstOnce untyped,
      ofValue_of_untyped secondOnce fun tag typed => untyped tag ((sameType tag).mpr typed)]
  · obtain ⟨tag, typed⟩ := not_forall_not.mp untyped
    by_cases known : tag ∈ tags
    · rw [ofValue_of_known firstOnce typed known,
        ofValue_of_known secondOnce ((sameType tag).mp typed) known,
        same.held?_eq firstOnce secondOnce known]
    · rw [ofValue_of_unknown firstOnce typed known,
        ofValue_of_unknown secondOnce ((sameType tag).mp typed) known]

/-! ### The grammar of requests -/

/-- Reading a request partitions the values. Those that bear none of the five types are unknown;
those that are a request written out are read as it; and every other one, which bears one of the
types, is malformed. Neither further members nor the order of members count, and what was read is
read again from its own document. -/
theorem ofValue_accepts_exactly {value : Value} (once : value.NamesOnce) :
    ((∃ flaw, ofValue value = .error (.unknown flaw)) ↔ ¬∃ tag ∈ tags, value.IsTyped tag) ∧
    (∀ request : Request, ofValue value = .ok request ↔ request.IsWrittenAs value) ∧
    (ofValue value = .error (.badRequest .malformedBody) ↔
      (∃ tag ∈ tags, value.IsTyped tag) ∧ ∀ request : Request, ¬request.IsWrittenAs value) ∧
    (∀ other : Value, other.NamesOnce → SameTerms value other → ofValue value = ofValue other) ∧
    ∀ request : Request, ofValue value = .ok request → ofValue request.toJson = .ok request :=
  ⟨ofValue_eq_unknown_iff once, fun _ => ofValue_eq_ok_iff once, ofValue_eq_malformed_iff once,
    fun _ otherOnce same => same.ofValue_eq once otherOnce,
    fun request _ => request.ofValue_toJson⟩

/-- A request to mint, its members in another order than they are declared and next to a further
member. -/
def shuffledMint : Value :=
  .object [
    ("memo", .null),
    ("value", .object [
      ("minter", .string "alice"),
      ("symbol", .string "ZAP-001"),
      ("amount", .string "5")]),
    ("type", .string "assetmanagement/MintCoins")]

theorem namesOnce_shuffledMint : shuffledMint.NamesOnce := by
  refine ⟨2, ?_, trivial, ⟨?_, trivial, trivial, trivial, trivial⟩, trivial, trivial⟩
  · decide
  · decide

theorem isWrittenAs_shuffledMint :
    (order .mint ⟨"5", "ZAP-001", "alice"⟩).IsWrittenAs shuffledMint :=
  ⟨_, _, rfl, .tail _ (.tail _ (.head _)), .tail _ (.head _),
    .inl ⟨_, rfl, List.reverse_perm (order .mint ⟨"5", "ZAP-001", "alice"⟩).members⟩⟩

theorem ofValue_accepts_exactly_shuffledMint :
    shuffledMint.NamesOnce ∧
      ofValue shuffledMint = .ok (.order .mint ⟨"5", "ZAP-001", "alice"⟩) :=
  ⟨namesOnce_shuffledMint,
    ((ofValue_accepts_exactly namesOnce_shuffledMint).2.1 _).mpr isWrittenAs_shuffledMint⟩

end Request

end TokenLedger
