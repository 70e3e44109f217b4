import IndexerSettings.Settings.Basic
import IndexerSettings.Decimal.Layout
import IndexerSettings.Text.Quoted

/-!
# Settings for diagnosis

Settings as a tree of named records, on one line or many.  Strings are quoted,
and of the password only the length is shown.
-/

namespace IndexerSettings

open Decimal

/-- A value for diagnosis: a text as it is to appear, or a record. -/
inductive Inspection
  | plain (text : String)
  | record (name : String) (fields : List (String × Inspection))

namespace Inspection

/-- Numbers in diagnosis have a point or an exponent, and an exponent below
`1e-4` or from `1e16` on. -/
def numberLayout : Layout where
  positional := some (-4, 16)
  wholePoint := true
  plusSign := false
  tie := .up

def text (s : String) : Inspection := plain (Text.quoted s)

def bool (b : Bool) : Inspection := plain (if b then "true" else "false")

def int64 (n : Int64) : Inspection := plain (toString n.toInt)

def uint64 (n : UInt64) : Inspection := plain (toString n.toNat)

def binary64 (x : Binary64) : Inspection := plain (numberLayout.text x)

mutual

/-- The tree on one line. -/
def line : Inspection → String
  | plain text => text
  | record name fields =>
    name ++ " \x7b " ++ ", ".intercalate (fieldLines fields) ++ " \x7d"
termination_by structural i => i

def fieldLines : List (String × Inspection) → List String
  | [] => []
  | (name, i) :: rest => (name ++ ": " ++ line i) :: fieldLines rest
termination_by structural fields => fields

end

mutual

/-- The tree with a line for each field, behind `margin`. -/
def block (margin : String) : Inspection → String
  | plain text => text
  | record name fields =>
    name ++ " \x7b\n" ++ String.join (fieldBlocks (margin ++ "    ") fields)
      ++ margin ++ "\x7d"
termination_by structural i => i

def fieldBlocks (margin : String) : List (String × Inspection) → List String
  | [] => []
  | (name, i) :: rest =>
    (margin ++ name ++ ": " ++ block margin i ++ ",\n") :: fieldBlocks margin rest
termination_by structural fields => fields

end

end Inspection

namespace DatabaseSettings

/-- The password: its length in bytes, or that there is none. -/
def inspectPassword (s : DatabaseSettings) : Inspection :=
  if s.password.isEmpty then .text ""
  else .plain ("<redacted:" ++ toString s.password.utf8ByteSize ++ " bytes>")

def inspect (s : DatabaseSettings) : Inspection :=
  .record "Database" [
    ("host", .text s.host),
    ("port", .text s.port),
    ("database", .text s.database),
    ("user", .text s.user),
    ("password", s.inspectPassword),
    ("log_level", .text s.logLevel)]

end DatabaseSettings

def LogSettings.inspect (s : LogSettings) : Inspection :=
  .record "Log" [
    ("level", .text s.level),
    ("path", .text s.path),
    ("pretty", .bool s.pretty)]

def ProbeSettings.inspect (s : ProbeSettings) : Inspection :=
  .record "Probe" [
    ("rpc", .text s.rpc),
    ("account_prefix", .text s.accountPrefix),
    ("chain_id", .text s.chainId),
    ("chain_name", .text s.chainName)]

def ThrottlingSettings.inspect (s : ThrottlingSettings) : Inspection :=
  .record "Throttling" [("throttling", .binary64 s.throttling)]

def RetrySettings.inspect (s : RetrySettings) : Inspection :=
  .record "Retry" [
    ("request_retry_attempts", .int64 s.attempts),
    ("request_retry_max_wait", .uint64 s.maxWait)]

def BaseSettings.inspect (s : BaseSettings) : Inspection :=
  .record "Base" [
    ("throttling", s.throttling.inspect),
    ("retry", s.retry.inspect),
    ("reindex_message_type", .text s.reindexMessageType),
    ("reattempt_failed_blocks", .bool s.reattemptFailedBlocks),
    ("api", .text s.api),
    ("start_block", .int64 s.startBlock),
    ("end_block", .int64 s.endBlock),
    ("block_input_file", .text s.blockInputFile),
    ("reindex", .bool s.reindex),
    ("rpc_workers", .int64 s.rpcWorkers),
    ("block_timer", .int64 s.blockTimer),
    ("wait_for_chain", .bool s.waitForChain),
    ("wait_for_chain_delay", .int64 s.waitForChainDelay),
    ("transaction_indexing_enabled", .bool s.indexTransactions),
    ("exit_when_caught_up", .bool s.exitWhenCaughtUp),
    ("block_event_indexing_enabled", .bool s.indexBlockEvents),
    ("block_event_filter_file", .text s.blockEventFilterFile),
    ("dry", .bool s.dry)]

def FlagSettings.inspect (s : FlagSettings) : Inspection :=
  .record "Flags" [("index_tx_message_raw", .bool s.indexTxMessageRaw)]

def Settings.inspect (s : Settings) : Inspection :=
  .record "IndexConfig" [
    ("database", s.database.inspect),
    ("log", s.log.inspect),
    ("probe", s.probe.inspect),
    ("base", s.base.inspect),
    ("flags", s.flags.inspect)]

end IndexerSettings
