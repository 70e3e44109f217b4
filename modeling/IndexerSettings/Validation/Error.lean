import IndexerSettings.Decimal.Layout
import IndexerSettings.Text.Quoted

/-!
# What is wrong with settings

The ways in which settings fail a check, and their wording.
-/

namespace IndexerSettings

open Decimal

/-- What is wrong with the value of a field. -/
inductive Complaint
  /-- There is nothing in it but blanks. -/
  | notSet
  /-- It is no number of a TCP port. -/
  | noPort (value : String)
  /-- It is negative, infinite or not a number. -/
  | noDuration (value : Binary64)
  /-- What a check of another kind has to say. -/
  | other (reason : String)
  deriving DecidableEq

namespace Complaint

/-- Numbers in messages have neither an exponent nor more digits than they
need. -/
def numberLayout : Layout where
  positional := none
  wholePoint := false
  plusSign := false
  tie := .up

def message : Complaint → String
  | notSet => "must be set"
  | noPort value => "must be a TCP port number, got " ++ Text.quoted value
  | noDuration value =>
    "must be a non-negative number, got " ++ numberLayout.text value
  | other reason => reason

end Complaint

/-- Why settings are not valid. -/
inductive ValidationError
  /-- A field of a section with requirements of its own does not meet them. -/
  | badSection (name field : String) (complaint : Complaint)
  /-- Nothing is to be indexed. -/
  | nothingIndexed
  /-- An end of the range of blocks is not set. -/
  | blockNotSet (field : String) (value : Int64)
  /-- There is no file of event filters. -/
  | filterFileMissing (path : String)
  /-- The value of a single field is refused for some other reason. -/
  | badValue (field value reason : String)
  deriving DecidableEq

namespace ValidationError

/-- The name of a kind of errors, which does not change with the wording. -/
def kind : ValidationError → String
  | badSection .. => "delegated_section_invalid"
  | nothingIndexed => "no_indexing_mode_selected"
  | blockNotSet .. => "missing_block_range"
  | filterFileMissing .. => "filter_file_not_found"
  | badValue .. => "invalid_field_value"

def message : ValidationError → String
  | badSection name field complaint =>
    "invalid " ++ name ++ " configuration: " ++ field ++ " " ++ complaint.message
  | nothingIndexed =>
    "must enable at least one of base.index-transactions or base.index-block-events"
  | blockNotSet field value =>
    field ++ " must be set when indexing is enabled (got "
      ++ toString value.toInt ++ ")"
  | filterFileMissing path =>
    "base.block-event-filter-file " ++ path ++ " does not exist"
  | badValue field value reason =>
    "invalid value " ++ Text.quoted value ++ " for " ++ field ++ ": " ++ reason

end ValidationError

end IndexerSettings
