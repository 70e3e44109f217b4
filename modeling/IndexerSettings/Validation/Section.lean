import IndexerSettings.Settings.Basic
import IndexerSettings.Text.Basic
import IndexerSettings.Validation.Error

/-!
# Checks of single sections

What a section has to say of itself, whatever stands in the others.
-/

namespace IndexerSettings

open Decimal

/-- Refuses the first of some fields, given by their keys, that is blank. -/
def requireSet (name : String) : List (String × String) → Except ValidationError Unit
  | [] => .ok ()
  | (field, value) :: rest =>
    if Text.isBlankText value then .error (.badSection name field .notSet)
    else requireSet name rest

namespace DatabaseSettings

/-- The fields that a connection needs. -/
def required (s : DatabaseSettings) : List (String × String) := [
  ("host", s.host), ("port", s.port), ("database", s.database),
  ("user", s.user), ("password", s.password)]

/-- The number of the port, if it is one of sixteen bits. -/
def portNumber? (s : DatabaseSettings) : Option Nat :=
  (unsigned? (Text.trimChars s.port.toList)).filter (· ≤ 0xffff)

def check (s : DatabaseSettings) : Except ValidationError Unit := do
  requireSet "database" s.required
  if s.portNumber?.isSome then .ok ()
  else .error (.badSection "database" "port" (.noPort s.port))

end DatabaseSettings

namespace ProbeSettings

/-- The fields that talking to a node needs. -/
def required (s : ProbeSettings) : List (String × String) := [
  ("rpc", s.rpc), ("account-prefix", s.accountPrefix), ("chain-id", s.chainId)]

/-- The chain goes by its identifier unless it is named. -/
def named (s : ProbeSettings) : ProbeSettings :=
  if s.chainName.isEmpty then { s with chainName := s.chainId } else s

def check (s : ProbeSettings) : Except ValidationError ProbeSettings := do
  requireSet "probe" s.required
  .ok s.named

end ProbeSettings

def ThrottlingSettings.check (s : ThrottlingSettings) : Except ValidationError Unit :=
  if s.throttling.isFinite && !s.throttling.isBelowZero then .ok ()
  else .error (.badSection "throttling" "throttling" (.noDuration s.throttling))

/-- Both ends of the range of blocks are set, if anything is indexed. -/
def BaseSettings.checkRange (s : BaseSettings) : Except ValidationError Unit :=
  if !s.indexesAnything then .ok ()
  else if s.startBlock = 0 then
    .error (.blockNotSet "base.start-block" s.startBlock)
  else if s.endBlock = 0 then
    .error (.blockNotSet "base.end-block" s.endBlock)
  else .ok ()

end IndexerSettings
