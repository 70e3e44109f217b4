import IndexerSettings.Schema.Indexer
import IndexerSettings.Settings.Reading

/-!
# The values of settings

What settings say, field by field: under every scope and key a value of one of
the kinds that fields have.  Beside it stands what a JSON value says of a field
of some kind, apart from the readers that store it.
-/

namespace IndexerSettings

open Decimal

/-- A value of one of the kinds of fields. -/
inductive FieldValue
  | bool (b : Bool)
  | int (n : Int64)
  | uint (n : UInt64)
  | float (x : Binary64)
  | string (s : String)
  deriving DecidableEq

def FieldValue.kind : FieldValue → FieldKind
  | bool _ => .bool
  | int _ => .int
  | uint _ => .uint
  | float _ => .float
  | string _ => .string

/-! ## JSON values as values of fields -/

namespace FieldKind

/-- A JSON value is one of a kind: integers have to be within the range of the
kind, and every number is a floating-point number. -/
def Fits : FieldKind → Json → Prop
  | bool, j => ∃ b, j = .scalar (.bool b)
  | int, j => ∃ n h, j = .scalar (.number (.integer n h))
      ∧ -0x8000000000000000 ≤ n ∧ n ≤ 0x7fffffffffffffff
  | uint, j => ∃ n h, j = .scalar (.number (.integer n h))
      ∧ 0 ≤ n ∧ n ≤ 0xffffffffffffffff
  | float, j => ∃ n, j = .scalar (.number n)
  | string, j => ∃ s, j = .scalar (.string s)

/-- The value of a kind that a JSON value is, if it fits. -/
def valueOf? : FieldKind → Json → Option FieldValue
  | bool, .scalar (.bool b) => some (.bool b)
  | int, .scalar (.number (.integer n _)) =>
    if n ≤ 0x7fffffffffffffff then some (.int (.ofInt n)) else none
  | uint, .scalar (.number (.integer n _)) =>
    if 0 ≤ n then some (.uint (.ofNat n.toNat)) else none
  | float, .scalar (.number n) => some (.float n.toBinary64)
  | string, .scalar (.string s) => some (.string s)
  | _, _ => none

theorem fits_iff {kind : FieldKind} {j : Json} :
    kind.Fits j ↔ ∃ v, kind.valueOf? j = some v := by
  constructor
  · intro h
    cases kind with
    | bool => obtain ⟨b, rfl⟩ := h; exact ⟨_, rfl⟩
    | int => obtain ⟨n, hn, rfl, -, hle⟩ := h; exact ⟨_, if_pos hle⟩
    | uint => obtain ⟨n, hn, rfl, hge, -⟩ := h; exact ⟨_, if_pos hge⟩
    | float => obtain ⟨n, rfl⟩ := h; exact ⟨_, rfl⟩
    | string => obtain ⟨s, rfl⟩ := h; exact ⟨_, rfl⟩
  · rintro ⟨v, h⟩
    unfold valueOf? at h
    split at h
    · exact ⟨_, rfl⟩
    · rename_i n hn
      split at h
      · rename_i hle
        exact ⟨n, hn, rfl, hn.1, hle⟩
      · cases h
    · rename_i n hn
      split at h
      · rename_i hge
        exact ⟨n, hn, rfl, hge, hn.2⟩
      · cases h
    · exact ⟨_, rfl⟩
    · exact ⟨_, rfl⟩
    · cases h

/-- What is wanted where a value of a kind is read. -/
def wanted : FieldKind → Wanted
  | bool => .boolean
  | int => .int64
  | uint => .uint64
  | float => .binary64
  | string => .text

/-- What is said of a value that does not fit: an integer is out of range
where another integer would do. -/
def mismatch : FieldKind → Json → Mismatch
  | int, .scalar (.number (.integer n _)) => .outOfRange n .int64
  | uint, .scalar (.number (.integer n _)) => .outOfRange n .uint64
  | kind, j => .wrongKind j kind.wanted

/-- The value of a kind that a JSON value is, or why it is none. -/
def read (kind : FieldKind) (j : Json) : Except Mismatch FieldValue :=
  match kind.valueOf? j with
  | some v => .ok v
  | none => .error (kind.mismatch j)

/-! The readers of single fields, as readers of their kinds. -/

theorem read_bool (j : Json) : bool.read j = j.readBool.map .bool := by
  rcases j with (_ | _ | (_ | _) | _) | _ | _ <;> rfl

theorem read_string (j : Json) : string.read j = j.readText.map .string := by
  rcases j with (_ | _ | (_ | _) | _) | _ | _ <;> rfl

theorem read_float (j : Json) : float.read j = j.readBinary64.map .float := by
  rcases j with (_ | _ | (_ | _) | _) | _ | _ <;> rfl

theorem read_int (j : Json) : int.read j = j.readInt64.map .int := by
  rcases j with (_ | _ | (⟨n, hn⟩ | _) | _) | _ | _
  case scalar.number.integer =>
    by_cases hle : n ≤ 0x7fffffffffffffff <;>
      simp [read, valueOf?, mismatch, Json.readInt64, Except.map, hle]
  all_goals rfl

theorem read_uint (j : Json) : uint.read j = j.readUInt64.map .uint := by
  rcases j with (_ | _ | (⟨n, hn⟩ | _) | _) | _ | _
  case scalar.number.integer =>
    by_cases hge : 0 ≤ n <;>
      simp [read, valueOf?, mismatch, Json.readUInt64, Except.map, hge]
  all_goals rfl

end FieldKind

/-! ## The fields of each section -/

/-- Values under the keys of a section. -/
abbrev FieldValues := List (String × FieldValue)

def DatabaseSettings.values (s : DatabaseSettings) : FieldValues := [
  ("host", .string s.host),
  ("port", .string s.port),
  ("database", .string s.database),
  ("user", .string s.user),
  ("password", .string s.password),
  ("log-level", .string s.logLevel)]

def LogSettings.values (s : LogSettings) : FieldValues := [
  ("level", .string s.level),
  ("path", .string s.path),
  ("pretty", .bool s.pretty)]

def ProbeSettings.values (s : ProbeSettings) : FieldValues := [
  ("rpc", .string s.rpc),
  ("account-prefix", .string s.accountPrefix),
  ("chain-id", .string s.chainId),
  ("chain-name", .string s.chainName)]

def BaseSettings.values (s : BaseSettings) : FieldValues := [
  ("throttling", .float s.throttling.throttling),
  ("request-retry-attempts", .int s.retry.attempts),
  ("request-retry-max-wait", .uint s.retry.maxWait),
  ("reindex-message-type", .string s.reindexMessageType),
  ("reattempt-failed-blocks", .bool s.reattemptFailedBlocks),
  ("api", .string s.api),
  ("start-block", .int s.startBlock),
  ("end-block", .int s.endBlock),
  ("block-input-file", .string s.blockInputFile),
  ("reindex", .bool s.reindex),
  ("rpc-workers", .int s.rpcWorkers),
  ("block-timer", .int s.blockTimer),
  ("wait-for-chain", .bool s.waitForChain),
  ("wait-for-chain-delay", .int s.waitForChainDelay),
  ("index-transactions", .bool s.indexTransactions),
  ("exit-when-caught-up", .bool s.exitWhenCaughtUp),
  ("index-block-events", .bool s.indexBlockEvents),
  ("block-event-filter-file", .string s.blockEventFilterFile),
  ("dry", .bool s.dry)]

def FlagSettings.values (s : FlagSettings) : FieldValues := [
  ("index-tx-message-raw", .bool s.indexTxMessageRaw)]

namespace Settings

/-- All fields: the values of each section under its scope. -/
def values (s : Settings) : List (String × FieldValues) := [
  ("database", s.database.values),
  ("log", s.log.values),
  ("probe", s.probe.values),
  ("base", s.base.values),
  ("flags", s.flags.values)]

/-- The value of the field with a scope and a key. -/
def value? (s : Settings) (scope key : String) : Option FieldValue :=
  (s.values.lookup scope).bind (·.lookup key)

end Settings

end IndexerSettings
