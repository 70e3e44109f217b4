import IndexerSettings.Decimal.Binary64

/-!
# Settings

The settings of the indexer, section by section, with the values that they
have when nothing is said about them.
-/

namespace IndexerSettings

open Decimal

/-- How to reach the database. -/
structure DatabaseSettings where
  host : String := ""
  port : String := "5432"
  database : String := ""
  user : String := ""
  password : String := ""
  logLevel : String := "info"
  deriving DecidableEq

/-- Where and how the indexer logs. -/
structure LogSettings where
  level : String := "info"
  path : String := ""
  pretty : Bool := false
  deriving DecidableEq

/-- The node of the chain, and how the chain is called. -/
structure ProbeSettings where
  rpc : String := ""
  accountPrefix : String := ""
  chainId : String := ""
  chainName : String := ""
  deriving DecidableEq

/-- Pacing of requests: a pause in seconds. -/
structure ThrottlingSettings where
  throttling : Binary64 := .ofDecimal false 5 (-1)
  deriving DecidableEq

/-- Repeating of failed requests: how often, and the longest wait in
seconds. -/
structure RetrySettings where
  attempts : Int64 := 0
  maxWait : UInt64 := 30
  deriving DecidableEq

/-- What is indexed and how.  For both ends of the range of blocks zero means
that it is not set; `-1` resumes at the highest block indexed, or goes on
forever. -/
structure BaseSettings where
  throttling : ThrottlingSettings := {}
  retry : RetrySettings := {}
  reindexMessageType : String := ""
  reattemptFailedBlocks : Bool := false
  api : String := ""
  startBlock : Int64 := 0
  endBlock : Int64 := -1
  blockInputFile : String := ""
  reindex : Bool := false
  rpcWorkers : Int64 := 1
  blockTimer : Int64 := 10000
  waitForChain : Bool := false
  waitForChainDelay : Int64 := 10
  indexTransactions : Bool := false
  exitWhenCaughtUp : Bool := false
  indexBlockEvents : Bool := false
  blockEventFilterFile : String := ""
  dry : Bool := false
  deriving DecidableEq

/-- Choices that are off unless asked for. -/
structure FlagSettings where
  indexTxMessageRaw : Bool := false
  deriving DecidableEq

/-- All settings. -/
structure Settings where
  database : DatabaseSettings := {}
  log : LogSettings := {}
  probe : ProbeSettings := {}
  base : BaseSettings := {}
  flags : FlagSettings := {}
  deriving DecidableEq

/-- Whether anything is indexed at all. -/
def BaseSettings.indexesAnything (b : BaseSettings) : Bool :=
  b.indexTransactions || b.indexBlockEvents

/-- The file of event filters, if one is named. -/
def BaseSettings.filterPath? (b : BaseSettings) : Option String :=
  if b.blockEventFilterFile.isEmpty then none else some b.blockEventFilterFile

/-- What is shown in place of a password. -/
def redactedPassword : String := "<redacted>"

/-- The settings with the password, if there is one, covered. -/
def Settings.redacted (s : Settings) : Settings :=
  if s.database.password.isEmpty then s
  else { s with database := { s.database with password := redactedPassword } }

end IndexerSettings
