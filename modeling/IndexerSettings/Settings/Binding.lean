import IndexerSettings.Settings.Mismatch

/-!
# Bindings

A binding ties a key to a part of some settings: how the part is written as
JSON and how a JSON value is stored in it.  A list of bindings reads settings
from the members of an object, or from an array by position, starting from
their defaults.
-/

namespace IndexerSettings

open Decimal

/-- A key and the part of the settings `σ` that it stands for. -/
structure Binding (σ : Type) where
  key : String
  get : σ → Json
  store : Json → σ → Except Mismatch σ

namespace Binding

/-! ## Bindings of one field -/

variable {σ τ : Type}

def text (key : String) (get : σ → String) (put : σ → String → σ) : Binding σ where
  key := key
  get s := .scalar (.string (get s))
  store j s := (j.readText).map (put s)

def bool (key : String) (get : σ → Bool) (put : σ → Bool → σ) : Binding σ where
  key := key
  get s := .scalar (.bool (get s))
  store j s := (j.readBool).map (put s)

def int64 (key : String) (get : σ → Int64) (put : σ → Int64 → σ) : Binding σ where
  key := key
  get s := .scalar (.ofInt64 (get s))
  store j s := (j.readInt64).map (put s)

def uint64 (key : String) (get : σ → UInt64) (put : σ → UInt64 → σ) :
    Binding σ where
  key := key
  get s := .scalar (.ofUInt64 (get s))
  store j s := (j.readUInt64).map (put s)

def binary64 (key : String) (get : σ → Binary64) (put : σ → Binary64 → σ) :
    Binding σ where
  key := key
  get s := .scalar (.ofBinary64 (get s))
  store j s := (j.readBinary64).map (put s)

/-- The binding of a part, as a binding of the whole. -/
def within (b : Binding τ) (get : σ → τ) (put : σ → τ → σ) : Binding σ where
  key := b.key
  get s := b.get (get s)
  store j s := (b.store j (get s)).map (put s)

/-! ## Lists of bindings -/

/-- The members of the object that writes some settings, in the order of the
bindings. -/
def members (bindings : List (Binding σ)) (s : σ) : List Json.Member :=
  bindings.map fun b => (b.key, b.get s)

/-- Stores one member of an object under its key; other members are passed
over. -/
def assign (bindings : List (Binding σ)) (s : σ) (m : Json.Member) :
    Except Mismatch σ :=
  match bindings.find? (·.key == m.1) with
  | some b => b.store m.2 s
  | none => .ok s

/-- Stores the members of an object, one after the other, up to the first
that does not fit. -/
def assignAll (bindings : List (Binding σ)) (s : σ) (members : List Json.Member) :
    Except Mismatch σ :=
  members.foldlM (assign bindings) s

/-- Stores the items of an array, one for each binding from the first on. -/
def assignItems (bindings : List (Binding σ)) (s : σ) (items : List Json) :
    Except Mismatch σ := do
  let s ← (bindings.zip items).foldlM (fun s (b, j) => b.store j s) s
  if bindings.length < items.length then .error (.tooManyItems items.length)
  else .ok s

/-- Settings from an object by name or from an array by position. -/
def read (title : String) (bindings : List (Binding σ)) (default : σ) :
    Json → Except Mismatch σ
  | .object members => assignAll bindings default members
  | .array items => assignItems bindings default items
  | j => .error (.wrongKind j (.settings title))

end Binding

end IndexerSettings
