/-
This file proves that what an engine answers to questions about its registry fits together. The list
of symbols, the list of tokens and the tokens that are found by their symbols are all taken from one
map: listing the stored records gives its bindings in the order of their keys, and looking one up
gives its value. Answers are indented documents and are compared after being read again, so that the
layout and the escapes of the texts are covered as well.
-/

import Mathlib
import TokenLedger.Proofs.Engine.Acceptance
import TokenLedger.Proofs.Engine.Authority

namespace TokenLedger

open Json KeyOrder

/-! ### Answers -/

/-- What a document says. -/
def readAnswer? {α : Type} (read : Tree → Option α) (answer : String) : Option α := do
  read (← Tree.ofBytes? (utf8 answer))

theorem readAnswer?_indented {α : Type} {read : Tree → Option α} {value : Value}
    (words : value.OnlyWords) : readAnswer? read value.indented = read value.tree := by
  rw [readAnswer?, Tree.ofBytes?_indented words]
  rfl

/-- A list of documents is read back item by item. -/
theorem readAnswer?_list {α : Type} {read : Tree → Option α} {written : α → Value}
    (words : ∀ record, (written record).OnlyWords)
    (readBack : ∀ record, read (written record).tree = some record) (records : List α) :
    readAnswer? (Tree.list? read) (Value.array (records.map written)).indented = some records := by
  have allWords : (Value.array (records.map written)).OnlyWords :=
    Value.allOnlyWords_iff.mpr (List.forall_mem_map.mpr fun record _ => words record)
  rw [readAnswer?_indented allWords]
  exact Tree.list?_array readBack records

namespace Engine

variable {engine : Engine} {book : Book}

/-- The engine answers a question with a document that says this. -/
def Answers {α : Type} (engine : Engine) (path : List String) (read : Tree → Option α)
    (meaning : α) : Prop :=
  ∃ answer, engine.query path = .ok answer ∧ readAnswer? read answer = some meaning

/-! ### Questions to a sound engine -/

theorem Sound.all_eq (sound : engine.Sound book) :
    Registry.all engine.setup.format (.ofStore engine.store.tokens) = .ok book.tokens.entries :=
  Registry.all_of_view ((LayeredStore.view_ofStore _).trans sound.tokens_eq)

theorem Sound.answers_symbols (sound : engine.Sound book) :
    engine.Answers ["symbols"] (Tree.list? Tree.text?) book.tokens.keys := by
  have words : ∀ symbol, (Value.string symbol).OnlyWords := fun _ => trivial
  refine ⟨(Value.array (book.tokens.keys.map .string)).indented, ?_, ?_⟩
  · rw [query, TokenLedger.query, sound.all_eq, SortedMap.keys, List.map_map]
    rfl
  · exact readAnswer?_list words (fun _ => rfl) _

theorem Sound.answers_tokens (sound : engine.Sound book) :
    engine.Answers ["tokens"] (Tree.list? Token.ofTree?) book.tokens.values := by
  refine ⟨(Value.array (book.tokens.values.map Token.toJson)).indented, ?_, ?_⟩
  · rw [query, TokenLedger.query, sound.all_eq, SortedMap.values, List.map_map]
    rfl
  · exact readAnswer?_list Token.onlyWords Token.ofTree?_tree _

theorem Sound.query_find (sound : engine.Sound book) (symbol : String) :
    engine.query ["find", symbol] =
      (book.tokens.get? symbol).elim (.error (.tokenNotFound symbol))
        fun token => .ok token.toJson.indented := by
  rw [query, TokenLedger.query,
    Registry.get_of_view ((LayeredStore.view_ofStore _).trans sound.tokens_eq)]
  cases book.tokens.get? symbol <;> rfl

/-- Any other question is refused, and the message repeats its path. -/
theorem query_cases (engine : Engine) (path : List String) :
    path = ["symbols"] ∨ path = ["tokens"] ∨ (∃ symbol, path = ["find", symbol]) ∨
      engine.query path = .error (.unknown (.query path)) := by
  rw [query, TokenLedger.query.eq_def]
  split
  next symbol => exact .inr (.inr (.inl ⟨symbol, rfl⟩))
  next => exact .inl rfl
  next => exact .inr (.inl rfl)
  next => exact .inr (.inr (.inr rfl))

/-- In every engine that can be reached the answers fit together and to the exported state: the
symbols are listed in ascending order, the tokens that are listed are those of the state and have
these symbols, and under each of the symbols its token is found, and nothing under any other text.
No other question is known. -/
theorem answers_fit (reachable : engine.Reachable) :
    ∃ (symbols : List String) (state : GenesisState),
      engine.Answers ["symbols"] (Tree.list? Tree.text?) symbols ∧ Ascending symbols ∧
      engine.exportState = .ok state ∧
      engine.Answers ["tokens"] (Tree.list? Token.ofTree?) state.tokens ∧
      state.tokens.map Token.symbol = symbols ∧
      (∀ symbol,
        (∃ token ∈ state.tokens, token.symbol = symbol ∧
          engine.Answers ["find", symbol] Token.ofTree? token) ∨
        (symbol ∉ symbols ∧ engine.query ["find", symbol] = .error (.tokenNotFound symbol))) ∧
      ∀ path, path = ["symbols"] ∨ path = ["tokens"] ∨ (∃ symbol, path = ["find", symbol]) ∨
        ∃ what, engine.query path = .error (.unknown what) ∧
          what.message = "unknown assetmanagement query endpoint: " ++ "/".intercalate path := by
  obtain ⟨book, sound⟩ := reachable.sound
  have named : book.records.tokens.map Token.symbol = book.tokens.keys := by
    have keyed := congrArg (List.map Prod.fst) sound.complete.map_symbol_tokens
    rwa [List.map_map] at keyed
  refine ⟨book.tokens.keys, book.records, sound.answers_symbols, book.tokens.ascending_keys,
    sound.exportState_eq, sound.answers_tokens, named, fun symbol => ?_, fun path => ?_⟩
  · have answer := sound.query_find symbol
    cases found : book.tokens.get? symbol with
    | none =>
      rw [found] at answer
      refine .inr ⟨fun listed => ?_, answer⟩
      obtain ⟨token, bound⟩ := SortedMap.mem_keys_iff.mp listed
      rw [found] at bound
      cases bound
    | some token =>
      rw [found] at answer
      have listed : token ∈ book.records.tokens :=
        List.mem_map_of_mem (SortedMap.mem_entries_iff.mpr found)
      exact .inl ⟨token, listed, (sound.complete.token symbol token found).symbol_eq, _, answer,
        (readAnswer?_indented token.onlyWords).trans token.ofTree?_tree⟩
  · rcases engine.query_cases path with symbols | tokens | find | unknown
    · exact .inl symbols
    · exact .inr (.inl tokens)
    · exact .inr (.inr (.inl find))
    · exact .inr (.inr (.inr ⟨_, unknown, rfl⟩))

/-- An engine that has loaded two tokens out of order lists them in order, and finds the one whose
name has to be escaped. -/
theorem answers_fit_outOfOrder :
    ((new ⟨.proto, {}⟩ (.digest 0 3)).initGenesis .outOfOrder).2.Reachable ∧
      ((new ⟨.proto, {}⟩ (.digest 0 3)).initGenesis .outOfOrder).2.Answers ["symbols"]
        (Tree.list? Tree.text?) ["GLD-1A2", "SLV-2B"] ∧
      ∃ token, token.name = "Gold \"\n" ∧
        ((new ⟨.proto, {}⟩ (.digest 0 3)).initGenesis .outOfOrder).2.Answers ["find", "GLD-1A2"]
          Token.ofTree? token := by
  have reachable := (Reachable.new ⟨.proto, {}⟩ (.digest 0 3)).initGenesis .outOfOrder
  have accepted : ((new ⟨.proto, {}⟩ (.digest 0 3)).initGenesis .outOfOrder).1 = .ok () := by
    decide +kernel
  obtain ⟨symbols, state, listed, _, exported, _, named, find, _⟩ := answers_fit reachable
  rw [exportState_initGenesis_new accepted] at exported
  obtain rfl := Except.ok.inj exported
  have symbolsEq : symbols = ["GLD-1A2", "SLV-2B"] := named.symm.trans (by decide +kernel)
  refine ⟨reachable, symbolsEq ▸ listed, ?_⟩
  rcases find "GLD-1A2" with ⟨token, member, isGold, answer⟩ | ⟨missing, _⟩
  · have onlyGold : ∀ other ∈ GenesisState.outOfOrder.withoutEmptyAccounts.sorted.tokens,
        other.symbol = "GLD-1A2" → other.name = "Gold \"\n" := by decide +kernel
    exact ⟨token, onlyGold token member isGold, answer⟩
  · rw [symbolsEq] at missing
    exact absurd List.mem_cons_self missing

end Engine

end TokenLedger
