import IndexerSettings.Settings.Basic
import IndexerSettings.Settings.Binding
import IndexerSettings.Schema.Section

/-!
# Settings as JSON

The keys of the settings, and with them how settings are written as JSON and
read from a document.  What a document does not mention keeps its default, and
what it mentions besides is passed over.
-/

namespace IndexerSettings

namespace DatabaseSettings

def bindings : List (Binding DatabaseSettings) := [
  .text "host" host fun s v => { s with host := v },
  .text "port" port fun s v => { s with port := v },
  .text "database" database fun s v => { s with database := v },
  .text "user" user fun s v => { s with user := v },
  .text "password" password fun s v => { s with password := v },
  .text "log-level" logLevel fun s v => { s with logLevel := v }]

def toJson (s : DatabaseSettings) : Json := .object (Binding.members bindings s)

def ofJson : Json → Except Mismatch DatabaseSettings :=
  Binding.read "Database" bindings {}

end DatabaseSettings

namespace LogSettings

def bindings : List (Binding LogSettings) := [
  .text "level" level fun s v => { s with level := v },
  .text "path" path fun s v => { s with path := v },
  .bool "pretty" pretty fun s v => { s with pretty := v }]

def toJson (s : LogSettings) : Json := .object (Binding.members bindings s)

def ofJson : Json → Except Mismatch LogSettings :=
  Binding.read "Log" bindings {}

end LogSettings

namespace ProbeSettings

def bindings : List (Binding ProbeSettings) := [
  .text "rpc" rpc fun s v => { s with rpc := v },
  .text "account-prefix" accountPrefix fun s v => { s with accountPrefix := v },
  .text "chain-id" chainId fun s v => { s with chainId := v },
  .text "chain-name" chainName fun s v => { s with chainName := v }]

def toJson (s : ProbeSettings) : Json := .object (Binding.members bindings s)

def ofJson : Json → Except Mismatch ProbeSettings :=
  Binding.read "Probe" bindings {}

end ProbeSettings

def ThrottlingSettings.bindings : List (Binding ThrottlingSettings) := [
  .binary64 "throttling" throttling fun s v => { s with throttling := v }]

def RetrySettings.bindings : List (Binding RetrySettings) := [
  .int64 "request-retry-attempts" attempts fun s v => { s with attempts := v },
  .uint64 "request-retry-max-wait" maxWait fun s v => { s with maxWait := v }]

namespace BaseSettings

/-- The keys of pacing, which stand among those of the section itself. -/
def throttlingBindings : List (Binding BaseSettings) :=
  ThrottlingSettings.bindings.map
    (·.within throttling fun s v => { s with throttling := v })

/-- The keys of retrying, which stand among those of the section itself. -/
def retryBindings : List (Binding BaseSettings) :=
  RetrySettings.bindings.map (·.within retry fun s v => { s with retry := v })

def ownBindings : List (Binding BaseSettings) := [
  .text "reindex-message-type" reindexMessageType
    fun s v => { s with reindexMessageType := v },
  .bool "reattempt-failed-blocks" reattemptFailedBlocks
    fun s v => { s with reattemptFailedBlocks := v },
  .text "api" api fun s v => { s with api := v },
  .int64 "start-block" startBlock fun s v => { s with startBlock := v },
  .int64 "end-block" endBlock fun s v => { s with endBlock := v },
  .text "block-input-file" blockInputFile fun s v => { s with blockInputFile := v },
  .bool "reindex" reindex fun s v => { s with reindex := v },
  .int64 "rpc-workers" rpcWorkers fun s v => { s with rpcWorkers := v },
  .int64 "block-timer" blockTimer fun s v => { s with blockTimer := v },
  .bool "wait-for-chain" waitForChain fun s v => { s with waitForChain := v },
  .int64 "wait-for-chain-delay" waitForChainDelay
    fun s v => { s with waitForChainDelay := v },
  .bool "index-transactions" indexTransactions
    fun s v => { s with indexTransactions := v },
  .bool "exit-when-caught-up" exitWhenCaughtUp
    fun s v => { s with exitWhenCaughtUp := v },
  .bool "index-block-events" indexBlockEvents
    fun s v => { s with indexBlockEvents := v },
  .text "block-event-filter-file" blockEventFilterFile
    fun s v => { s with blockEventFilterFile := v },
  .bool "dry" dry fun s v => { s with dry := v }]

/-- All keys of the section, in the order in which they are written. -/
def bindings : List (Binding BaseSettings) :=
  throttlingBindings ++ retryBindings ++ ownBindings

def toJson (s : BaseSettings) : Json := .object (Binding.members bindings s)

/-- The section, from an object only.  Its own keys are read first, and the
parts taken into it after all of them. -/
def ofJson : Json → Except Mismatch BaseSettings
  | .object members => do
    let s ← Binding.assignAll ownBindings {} members
    let s ← Binding.assignAll throttlingBindings s members
    Binding.assignAll retryBindings s members
  | j => .error (.wrongKind j (.settings "Base"))

end BaseSettings

namespace FlagSettings

def bindings : List (Binding FlagSettings) := [
  .bool "index-tx-message-raw" indexTxMessageRaw
    fun s v => { s with indexTxMessageRaw := v }]

def toJson (s : FlagSettings) : Json := .object (Binding.members bindings s)

def ofJson : Json → Except Mismatch FlagSettings :=
  Binding.read "Flags" bindings {}

end FlagSettings

namespace Settings

/-- The sections, each under its scope. -/
def bindings : List (Binding Settings) := [
  { key := "database"
    get := fun s => s.database.toJson
    store := fun j s => (DatabaseSettings.ofJson j).map ({ s with database := · }) },
  { key := "log"
    get := fun s => s.log.toJson
    store := fun j s => (LogSettings.ofJson j).map ({ s with log := · }) },
  { key := "probe"
    get := fun s => s.probe.toJson
    store := fun j s => (ProbeSettings.ofJson j).map ({ s with probe := · }) },
  { key := "base"
    get := fun s => s.base.toJson
    store := fun j s => (BaseSettings.ofJson j).map ({ s with base := · }) },
  { key := "flags"
    get := fun s => s.flags.toJson
    store := fun j s => (FlagSettings.ofJson j).map ({ s with flags := · }) }]

/-- The settings as a JSON object, section by section. -/
def toJson (s : Settings) : Json := .object (Binding.members bindings s)

/-- The settings as a document, in the order of names. -/
def toDocument (s : Settings) : Document :=
  .ofMembers (Binding.members bindings s)

/-- The settings that a document asks for, or the first value in it, in the
order of names, that does not fit where it stands. -/
def ofDocument (d : Document) : Except Mismatch Settings :=
  Binding.assignAll bindings {} d.members

/-- A value on a line of its own: strings as they are, the rest as JSON. -/
def plainText : Json → String
  | .scalar (.string s) => s
  | j => j.text

/-- The rows of one section: flat keys with their values. -/
def sectionRows : Json.Member → List (String × String)
  | (scope, .object fields) =>
    fields.map fun (key, value) => (flatKey scope key, plainText value)
  | _ => []

/-- Every setting with its value, in the order of names. -/
def rows (s : Settings) : List (String × String) :=
  s.toDocument.members.flatMap sectionRows

end Settings

end IndexerSettings
