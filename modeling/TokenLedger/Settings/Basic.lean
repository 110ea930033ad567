/-
Settings: everything that is chosen outside a ledger. Every setting has a value of its own, so that
nothing has to be chosen; the replicas of one ledger have to agree on the seed and on the
parameters.
-/

import TokenLedger.Engine.Basic
import TokenLedger.Text.Blank

namespace TokenLedger

/-- What is chosen outside a ledger. -/
structure Settings where
  /-- The folder in which the sessions are kept. -/
  dataFolder : String := "ledger_data"
  /-- After how many places of the sequence a snapshot is taken; never, when it is zero. -/
  snapshotInterval : UInt64 := 100
  /-- Which events are reported. -/
  logFilter : String := "info"
  format : RecordFormat := .proto
  /-- The seed of the symbols. -/
  symbolSeed : UInt64 := 0
  params : Params := {}
  deriving DecidableEq, Repr, Inhabited

/-- What is wrong with settings. -/
inductive SettingsFlaw where
  /-- The document cannot be read, or does not hold settings. -/
  | malformed
  | noLogFilter
  | suffixLength
  | symbolAttempts
  deriving DecidableEq, Repr

def SettingsFlaw.message : SettingsFlaw → String
  | .malformed => Outside.toml.marker
  | .noLogFilter => "log_filter must not be empty"
  | .suffixLength => "ledger.symbol_suffix_len must be between 1 and 64"
  | .symbolAttempts => "ledger.max_symbol_attempts must be > 0"

namespace Settings

/-- The events that are reported are named, a symbol is followed by one to 64 digits, and an
issuance tries some symbol. -/
def validate (settings : Settings) : Except SettingsFlaw Unit :=
  if Text.allBlank settings.logFilter then .error .noLogFilter
  else if settings.params.symbolSuffixLength = 0 ∨ 64 < settings.params.symbolSuffixLength then
    .error .suffixLength
  else if settings.params.maxSymbolAttempts = 0 then .error .symbolAttempts
  else .ok ()

/-- An engine with these settings that has not been given a genesis state. -/
def newEngine (settings : Settings) : Engine :=
  .new ⟨settings.format, settings.params⟩
    (.digest settings.symbolSeed settings.params.symbolSuffixLength)

end Settings

end TokenLedger
