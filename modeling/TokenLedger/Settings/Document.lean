/-
Settings as documents. They are read from TOML, where every setting may be left out and nothing else
may stand, and they are shown as JSON.
-/

import TokenLedger.Settings.Basic
import TokenLedger.Toml.Reader

namespace TokenLedger

/-! ### Reading -/

namespace Toml.Value

/-- The text of a string. -/
def text? : Value → Option String
  | .text content => some content
  | _ => none

/-- The word that an integer is. -/
def word? : Value → Option UInt64
  | .integer value =>
    if 0 ≤ value ∧ value < UInt64.size then some (UInt64.ofNat value.toNat) else none
  | _ => none

/-- The 32-bit word that an integer is. -/
def shortWord? (value : Value) : Option UInt32 := do
  let word ← value.word?
  if word.toNat < UInt32.size then some word.toUInt32 else none

/-- A truth value. -/
def bool? : Value → Option Bool
  | .bool value => some value
  | _ => none

/-- Whether a value is an empty table or an empty array. -/
def isEmpty : Value → Bool
  | .table [] => true
  | .array [] => true
  | _ => false

end Toml.Value

namespace RecordFormat

/-- The format with a given name. -/
def ofName? (name : String) : Option RecordFormat :=
  [RecordFormat.proto, RecordFormat.json].find? fun format => format.name = name

/-- Read a format: its name, or a table that binds its name to nothing. -/
def ofToml? : Toml.Value → Option RecordFormat
  | .text name => ofName? name
  | .table [(name, value)] => if value.isEmpty then ofName? name else none
  | _ => none

end RecordFormat

namespace Params

/-- Take one binding into account. -/
def withToml? (params : Params) (binding : String × Toml.Value) : Option Params :=
  match binding.1 with
  | "symbol_suffix_len" => do return { params with symbolSuffixLength := ← binding.2.word? }
  | "max_symbol_attempts" => do return { params with maxSymbolAttempts := ← binding.2.shortWord? }
  | "enforce_mintable" => do return { params with enforceMintable := ← binding.2.bool? }
  | _ => none

/-- Read parameters from a table, or from an array that has them in order. -/
def ofToml? : Toml.Value → Option Params
  | .table members => members.foldlM withToml? {}
  | .array items => (fieldNames.zip items).foldlM withToml? {}
  | _ => none

end Params

namespace Settings

/-- Take one binding into account. -/
def withToml? (settings : Settings) (binding : String × Toml.Value) : Option Settings :=
  match binding.1 with
  | "data_dir" => do return { settings with dataFolder := ← binding.2.text? }
  | "snapshot_interval" => do return { settings with snapshotInterval := ← binding.2.word? }
  | "log_filter" => do return { settings with logFilter := ← binding.2.text? }
  | "codec" => do return { settings with format := ← RecordFormat.ofToml? binding.2 }
  | "symbol_seed" => do return { settings with symbolSeed := ← binding.2.word? }
  | "ledger" => do return { settings with params := ← Params.ofToml? binding.2 }
  | _ => none

/-- Read settings from a document and check them. -/
def ofText (text : String) : Except SettingsFlaw Settings := do
  match (Toml.parse? text).bind fun members => members.foldlM withToml? {} with
  | none => .error .malformed
  | some settings =>
    settings.validate
    return settings

/-! ### Writing -/

def toJson (settings : Settings) : Json.Value :=
  .object [
    ("data_dir", .string settings.dataFolder),
    ("snapshot_interval", .word settings.snapshotInterval),
    ("log_filter", .string settings.logFilter),
    ("codec", .string settings.format.name),
    ("symbol_seed", .word settings.symbolSeed),
    ("ledger", settings.params.toJson)]

end Settings

end TokenLedger
