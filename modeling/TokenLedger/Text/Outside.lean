/-
Reasons that come from outside. When a parser or the operating system refuses something, the wording
of its reason is not the ledger's; a message of the ledger shows in its place only who gave it.
-/

namespace TokenLedger

/-- Who gave a reason. -/
inductive Outside where
  /-- The reader of JSON documents. -/
  | json
  /-- The reader of binary messages. -/
  | proto
  /-- The reader of UTF-8 text. -/
  | utf8
  /-- The reader of TOML documents. -/
  | toml
  /-- The operating system. -/
  | os
  /-- The reading of a file that ended too early. -/
  | io
  deriving DecidableEq, Repr

/-- What a message shows in place of the reason. -/
def Outside.marker : Outside → String
  | .json => "<json>"
  | .proto => "<proto>"
  | .utf8 => "<utf8>"
  | .toml => "<toml>"
  | .os => "<os>"
  | .io => "<io>"

end TokenLedger
