/-
This file proves what saving a snapshot does. A snapshot is read back from its text, and the state
that it was taken of from the snapshot. Whether or not it could be saved, nothing has changed but
the folder of snapshots and the one file that is named by its place in the sequence, and what can be
loaded from the folder is what its files hold.
-/

import Mathlib
import TokenLedger.Proofs.Disk.Names
import TokenLedger.Proofs.Engine.Canonical
import TokenLedger.Snapshot.Folder

namespace TokenLedger.Snapshot

open Json

/-! ### Texts -/

theorem onlyWords_toJson (snapshot : Snapshot) : snapshot.toJson.OnlyWords :=
  ⟨⟨_, rfl⟩, ⟨_, rfl⟩, trivial, trivial, ⟨_, rfl⟩, trivial⟩

theorem ofTree?_tree (snapshot : Snapshot) : ofTree? snapshot.toJson.tree = some snapshot := by
  let record : Record := ⟨true, [
    ("sequence", (Value.word snapshot.sequence).tree),
    ("symbol_nonce", (Value.word snapshot.nonce).tree),
    ("canonical_json", (Value.string snapshot.text).tree),
    ("hash", (Value.string snapshot.digest).tree),
    ("ledger_version", (Value.word snapshot.version.toUInt64).tree)]⟩
  have found : Record.ofTree? fieldNames false snapshot.toJson.tree = some record := rfl
  have sequence : record.required "sequence" Tree.word? = some snapshot.sequence :=
    Record.required_of_field? rfl (Value.word?_tree_word _)
  have nonce : record.required "symbol_nonce" Tree.word? = some snapshot.nonce :=
    Record.required_of_field? rfl (Value.word?_tree_word _)
  have text : record.required "canonical_json" Tree.text? = some snapshot.text := rfl
  have digest : record.required "hash" Tree.text? = some snapshot.digest := rfl
  have version : record.required "ledger_version" Tree.shortWord? = some snapshot.version :=
    Record.required_of_field? rfl (Value.shortWord?_tree_word _)
  rw [ofTree?, found, Option.bind_eq_bind, Option.bind_some, sequence, nonce, text, digest, version]
  rfl

/-- A snapshot is read back from its text. -/
theorem ofText_compact (snapshot : Snapshot) :
    ofText snapshot.toJson.compact = .ok snapshot := by
  rw [ofText, Tree.parse?_compact snapshot.onlyWords_toJson, Option.bind_some, ofTree?_tree]

/-- A snapshot of a state holds the state, in the order of its names. -/
theorem state_ofState (sequence nonce : UInt64) (state : GenesisState) :
    (ofState sequence nonce state).state = .ok state.sorted := by
  have version : ¬ (ofState sequence nonce state).version ≠ ledgerVersion := not_not.mpr rfl
  have intact : (ofState sequence nonce state).isIntact = true := decide_eq_true rfl
  rw [Snapshot.state, if_neg version, intact]
  exact state.ofText_canonicalText

/-! ### Files -/

variable {disk : Disk} {tree : FileTree} {folder : Path} {home : Place} {inner : String}
  {snapshot : Snapshot} {sequence : UInt64}

/-- The name of the file of a snapshot leads into a folder. -/
theorem plain_fileName (sequence : UInt64) : Path.Plain (fileName sequence) := by
  have first : (fileName sequence).toList.head? = some 's' := by
    rw [fileName, String.toList_append, String.toList_append]
    rfl
  refine ⟨?_, ?_⟩
  · rw [Path.stays, Bool.or_eq_false_iff, decide_eq_false_iff_not, decide_eq_false_iff_not]
    constructor
    · intro empty
      rw [empty] at first
      cases first
    · intro dot
      rw [dot] at first
      cases first
  · intro dots
    rw [dots] at first
    cases first

theorem plain_names (plain : Path.Plain inner) (sequence : UInt64) :
    ∀ name ∈ [inner, fileName sequence], Path.Plain name :=
  List.forall_mem_cons.mpr ⟨plain, List.forall_mem_singleton.mpr (plain_fileName sequence)⟩

theorem place_eq (folder : Path) (inner : String) (sequence : UInt64) :
    place (folder ++ [inner]) sequence = folder ++ [inner, fileName sequence] := by
  rw [place, List.append_assoc, List.singleton_append]

/-- Whatever becomes of the write, saving a snapshot leaves all as it was but the folder of the
snapshot and its file. -/
theorem save_keeps (leads : disk.tree.LeadsTo folder home) (plain : Path.Plain inner)
    (snapshot : Snapshot) :
    disk.tree.KeepsFolders (snapshot.save disk (folder ++ [inner])).2.tree ∧
      ∀ other, other ≠ home ++ [inner] → other ≠ home ++ [inner, fileName snapshot.sequence] →
        (snapshot.save disk (folder ++ [inner])).2.tree.at? other = disk.tree.at? other := by
  have grown := disk.tree.grown_makeFolders (folder ++ [inner])
  have others (other : Place) (apart : other ≠ home ++ [inner]) :=
    leads.at?_makeFolders_name plain apart
  rw [save, Disk.makeFolders]
  cases made : disk.tree.makeFolders (folder ++ [inner]) with
  | mk done tree =>
    rw [made] at grown others
    have keeps := grown.keepsFolders
    cases done with
    | false => exact ⟨keeps, fun other apart _ => others other apart⟩
    | true =>
      have changed := Disk.changedAt_writeAfter ⟨tree, disk.fates⟩
        (place (folder ++ [inner]) snapshot.sequence) [] (utf8 snapshot.toJson.compact)
      rw [← Disk.write] at changed
      have still (other : Place) (apart : other ≠ home ++ [inner])
          (apartFile : other ≠ home ++ [inner, fileName snapshot.sequence]) := by
        refine (changed.others other fun found => apartFile ?_).trans (others other apart)
        rw [place_eq] at found
        exact (leads.keep keeps).eq_of_place? (plain_names plain snapshot.sequence) found
      dsimp only
      split
      next after written =>
        rw [written] at changed still
        exact ⟨keeps.trans changed.keepsFolders, still⟩
      next after written =>
        rw [written] at changed still
        exact ⟨keeps.trans changed.keepsFolders, still⟩

/-- Where every write succeeds, the file of a snapshot then holds the text of the snapshot, or what
it held before. -/
theorem save_of_reliable (leads : disk.tree.LeadsTo folder home) (plain : Path.Plain inner)
    (reliable : disk.fates = []) (snapshot : Snapshot) :
    (snapshot.save disk (folder ++ [inner])).2.fates = [] ∧
      ((snapshot.save disk (folder ++ [inner])).2.tree.at?
            (home ++ [inner, fileName snapshot.sequence]) =
          disk.tree.at? (home ++ [inner, fileName snapshot.sequence]) ∨
        (snapshot.save disk (folder ++ [inner])).2.tree.at?
            (home ++ [inner, fileName snapshot.sequence]) =
          some (.file (utf8 snapshot.toJson.compact))) := by
  have grown := disk.tree.grown_makeFolders (folder ++ [inner])
  have before := leads.at?_makeFolders_name plain
    (show home ++ [inner, fileName snapshot.sequence] ≠ home ++ [inner] by simp)
  rw [save, Disk.makeFolders]
  cases made : disk.tree.makeFolders (folder ++ [inner]) with
  | mk done tree =>
    rw [made] at grown before
    cases done with
    | false => exact ⟨reliable, .inl before⟩
    | true =>
      dsimp only
      have sure : (Disk.mk tree disk.fates).fates = [] := reliable
      rw [Disk.write, Disk.writeAfter_of_reliable sure, place_eq]
      cases writable : tree.filePlace? (folder ++ [inner, fileName snapshot.sequence]) with
      | none => exact ⟨reliable, .inl before⟩
      | some target =>
        obtain ⟨found, noFolder⟩ := FileTree.filePlace?_eq_some_iff.mp writable
        obtain rfl := (leads.keep grown.keepsFolders).eq_of_place?
          (plain_names plain snapshot.sequence) found
        exact ⟨rfl, .inr (FileTree.at?_put_self _ (FileTree.ne_root_of_noFolder noFolder))⟩

/-- What is loaded of a snapshot is what a file in the folder holds. -/
theorem load_eq_some (leads : tree.LeadsTo folder home) (plain : Path.Plain inner)
    (loaded : load tree (folder ++ [inner]) sequence = .ok (some snapshot)) :
    ∃ content text, tree.at? (home ++ [inner, fileName sequence]) = some (.file content) ∧
      utf8? content = some text ∧ ofText text = .ok snapshot := by
  rw [load, place_eq] at loaded
  split at loaded
  next =>
    obtain ⟨text, read, loaded⟩ := bind_eq_ok loaded
    obtain ⟨found, parsed, same⟩ := bind_eq_ok loaded
    obtain rfl := Option.some.inj (Except.ok.inj same)
    rw [readText] at read
    split at read
    next _ written encoded =>
      obtain rfl := Except.ok.inj read
      obtain ⟨content, held, encoded⟩ := Option.bind_eq_some_iff.mp encoded
      obtain ⟨node, there, isFile⟩ := Option.bind_eq_some_iff.mp held
      obtain ⟨target, leadsTo, atTarget⟩ := Option.bind_eq_some_iff.mp there
      obtain rfl := leads.eq_of_place? (plain_names plain sequence) leadsTo
      cases node with
      | folder => cases isFile
      | file bytes =>
        obtain rfl := Option.some.inj isFile
        exact ⟨bytes, written, atTarget, encoded, parsed⟩
    next => cases read
  next => cases loaded

/-- A snapshot is read back from its file. -/
theorem load_of_file
    (held : tree.node? (place folder sequence) = some (.file (utf8 snapshot.toJson.compact))) :
    load tree folder sequence = .ok (some snapshot) := by
  have there : tree.exists? (place folder sequence) = true := by
    rw [FileTree.exists?, held]
    rfl
  have read : readText (tree.node? (place folder sequence)) = .ok snapshot.toJson.compact := by
    rw [held, readText]
    simp only [Option.bind_some, Node.content?, utf8?_utf8]
  simp only [load, there, if_true, read, bind, Except.bind, ofText_compact]
  rfl

theorem load_of_absent (absent : tree.exists? (place folder sequence) = false) :
    load tree folder sequence = .ok none := by
  simp only [load, absent, if_false, Bool.false_eq_true]
  rfl

theorem latest_of_list {sequences : List UInt64} (listed : list tree folder = .ok sequences)
    (last : sequences.getLast? = some sequence) :
    latest tree folder = load tree folder sequence := by
  rw [latest, listed]
  simp only [bind, Except.bind, last]

/-- The latest snapshot is read back from its file. -/
theorem latest_of_file {sequences : List UInt64} (listed : list tree folder = .ok sequences)
    (last : sequences.getLast? = some sequence)
    (held : tree.node? (place folder sequence) = some (.file (utf8 snapshot.toJson.compact))) :
    latest tree folder = .ok (some snapshot) :=
  (latest_of_list listed last).trans (load_of_file held)

theorem latest_eq_some (found : latest tree folder = .ok (some snapshot)) :
    ∃ sequence, load tree folder sequence = .ok (some snapshot) := by
  obtain ⟨sequences, _, found⟩ := bind_eq_ok found
  split at found
  next sequence _ => exact ⟨sequence, found⟩
  next => cases found

end TokenLedger.Snapshot
