import IndexerSettings.Schema.Registry

/-!
# The sections of the indexer

Every setting of the indexer: where it stands, what kind of value it takes,
and what it is for.
-/

namespace IndexerSettings.Section

def database : Section where
  name := "database"
  scope := some "database"
  fields := [
    ⟨"host", .string, "database host"⟩,
    ⟨"port", .string, "database port"⟩,
    ⟨"database", .string, "database name"⟩,
    ⟨"user", .string, "database user"⟩,
    ⟨"password", .string, "database password"⟩,
    ⟨"log-level", .string, "database client log level"⟩]
  composed := []

def log : Section where
  name := "log"
  scope := some "log"
  fields := [
    ⟨"level", .string, "log level"⟩,
    ⟨"path", .string, "log file path (stderr when empty)"⟩,
    ⟨"pretty", .bool, "human readable log output"⟩]
  composed := []

def probe : Section where
  name := "probe"
  scope := some "probe"
  fields := [
    ⟨"rpc", .string, "node RPC endpoint"⟩,
    ⟨"account-prefix", .string, "bech32 account prefix"⟩,
    ⟨"chain-id", .string, "chain id"⟩,
    ⟨"chain-name", .string, "chain name (defaults to chain-id)"⟩]
  composed := []

/-- Pacing of requests, taken into `base`. -/
def throttling : Section where
  name := "throttling"
  scope := none
  fields := [
    ⟨"throttling", .float, "seconds to pause between block requests"⟩]
  composed := []

/-- Repeating of failed requests, taken into `base`. -/
def retry : Section where
  name := "retry"
  scope := none
  fields := [
    ⟨"request-retry-attempts", .int, "number of RPC query retries to make"⟩,
    ⟨"request-retry-max-wait", .uint,
      "max retry incremental backoff wait time in seconds"⟩]
  composed := []

def base : Section where
  name := "base"
  scope := some "base"
  fields := [
    ⟨"reindex-message-type", .string,
      "reindex blocks containing this message type URL"⟩,
    ⟨"reattempt-failed-blocks", .bool, "re-enqueue failed blocks at startup"⟩,
    ⟨"api", .string, "node api endpoint"⟩,
    ⟨"start-block", .int,
      "block to start indexing at (-1 resumes from highest indexed)"⟩,
    ⟨"end-block", .int, "block to stop indexing at (-1 indexes indefinitely)"⟩,
    ⟨"block-input-file", .string, "JSON list of block heights to index"⟩,
    ⟨"reindex", .bool, "re-index already indexed blocks"⟩,
    ⟨"rpc-workers", .int, "rpc workers"⟩,
    ⟨"block-timer", .int, "report timing every this many blocks"⟩,
    ⟨"wait-for-chain", .bool, "wait for the node to sync"⟩,
    ⟨"wait-for-chain-delay", .int, "seconds between node sync checks"⟩,
    ⟨"index-transactions", .bool, "enable transaction indexing"⟩,
    ⟨"exit-when-caught-up", .bool, "exit once the chain head is reached"⟩,
    ⟨"index-block-events", .bool, "enable begin/end blocker event indexing"⟩,
    ⟨"block-event-filter-file", .string, "JSON list of block event filters"⟩,
    ⟨"dry", .bool, "index without writing to the database"⟩]
  composed := [throttling, retry]

def flags : Section where
  name := "flags"
  scope := some "flags"
  fields := [
    ⟨"index-tx-message-raw", .bool, "index raw message bytes"⟩]
  composed := []

/-- The sections to register, in their order. -/
def ofIndexer : List Section := [database, log, probe, base, flags]

end IndexerSettings.Section

namespace IndexerSettings.Registry

/-- The registry of the indexer's settings: each section under its scope. -/
def indexer : Registry where
  entries := [
    ("database", .database), ("log", .log), ("probe", .probe),
    ("base", .base), ("flags", .flags)]
  scopeMatches := by simp [Section.database, Section.log, Section.probe,
    Section.base, Section.flags]
  distinct := by decide
  uniqueKeys := by decide

/-- It is what registering the sections in order gives. -/
theorem ofSections_ofIndexer : ofSections Section.ofIndexer = .ok indexer := rfl

end IndexerSettings.Registry
