import IndexerSettings.Proofs.Json.Lookup
import IndexerSettings.Proofs.Outcome
import IndexerSettings.Proofs.Validation.Exactness
import IndexerSettings.Settings.Reading

/-!
# The password masked

A view of settings, and of the documents they are read from, in which all
passwords that are set look the same.  Of a password it keeps whether there is
anything but blanks in it, which is all that a check asks.

Reading follows the view (`Settings.ofDocument_masked`): any string serves as a
password, so settings are refused only for what stands elsewhere.
-/

namespace IndexerSettings

open Json (Member mapValues ordered_mapValues leafPathsOf_mapValues mapItems length_mapItems)
open Outcome (map_map map_bind_of_map map_foldlM_of_map)

/-- A password without what is secret about it. -/
def maskText (s : String) : String := if Text.isBlankText s then s else redactedPassword

theorem maskText_of_isSet {s : String} (h : IsSet s) : maskText s = redactedPassword := by
  rw [maskText, if_neg (fun hblank => isBlankText_iff_not_isSet.mp hblank h)]

theorem isBlankText_maskText (s : String) :
    Text.isBlankText (maskText s) = Text.isBlankText s := by
  have hmask : Text.isBlankText redactedPassword = false := by decide
  rw [maskText]
  cases h : Text.isBlankText s with
  | true => rw [if_pos rfl, h]
  | false => rw [if_neg Bool.false_ne_true, hmask]

theorem isEmpty_maskText (s : String) : (maskText s).isEmpty = s.isEmpty := by
  have hmask : redactedPassword.isEmpty = false := by decide
  rw [maskText]
  split
  · rfl
  · rename_i hset
    rw [hmask, eq_comm, Bool.eq_false_iff]
    intro hempty
    rw [String.isEmpty_iff.mp hempty] at hset
    exact hset (by decide)

def DatabaseSettings.masked (s : DatabaseSettings) : DatabaseSettings :=
  { s with password := maskText s.password }

def Settings.masked (s : Settings) : Settings := { s with database := s.database.masked }

/-! ## Values -/

namespace Json

/-- A scalar with the password masked, if the key is its. -/
def Scalar.masked (key : String) : Scalar → Scalar
  | string s => string (if key = "password" then maskText s else s)
  | s => s

def maskField (key : String) : Json → Json
  | scalar s => scalar (s.masked key)
  | j => j

/-- The section of the database with the password masked.  In an array the
position of an item stands for its key. -/
def maskDatabase : Json → Json
  | object fields => object (mapValues maskField fields)
  | array items => array (mapItems maskField (DatabaseSettings.bindings.map Binding.key) items)
  | j => j

/-- A section with the password masked, if it is the one that has it. -/
def maskSection (scope : String) (j : Json) : Json :=
  if scope = "database" then maskDatabase j else j

theorem readText_maskField (key : String) (j : Json) :
    (maskField key j).readText
      = j.readText.map fun s => if key = "password" then maskText s else s := by
  cases j with
  | scalar s => cases s <;> rfl
  | _ => rfl

theorem leafPaths_maskField (key : String) (j : Json) :
    leafPaths (maskField key j) = leafPaths j := by
  cases j <;> rfl

theorem ordered_maskField (key : String) (j : Json) (h : Ordered j) :
    Ordered (maskField key j) := by
  cases j with
  | scalar s => trivial
  | _ => exact h

theorem leafPaths_maskSection (scope : String) (j : Json) :
    leafPaths (maskSection scope j) = leafPaths j := by
  rw [maskSection]
  split
  · cases j with
    | object fields => exact leafPathsOf_mapValues leafPaths_maskField fields
    | _ => rfl
  · rfl

theorem ordered_maskSection (scope : String) (j : Json) (h : Ordered j) :
    Ordered (maskSection scope j) := by
  rw [maskSection]
  split
  · cases j with
    | scalar s => exact h
    | array items =>
        exact orderedItems_mapItems ordered_maskField (DatabaseSettings.bindings.map _) h
    | object fields => exact ordered_mapValues ordered_maskField h
  · exact h

end Json

/-- A document with the password masked. -/
def Document.masked (d : Document) : Document :=
  ⟨mapValues Json.maskSection d.members, ordered_mapValues Json.ordered_maskSection d.ordered⟩

theorem Document.leafPaths_masked (d : Document) : d.masked.leafPaths = d.leafPaths :=
  leafPathsOf_mapValues Json.leafPaths_maskSection d.members

/-! ## Reading -/

namespace Binding

variable {σ : Type} {bindings : List (Binding σ)} {v : σ → σ} {u : String → Json → Json}

/-- Bindings that follow a view of the settings, where `u` is what is seen of the
value under a key. -/
def Follow (v : σ → σ) (u : String → Json → Json) (bindings : List (Binding σ)) : Prop :=
  ∀ b ∈ bindings, ∀ j s, (b.store j s).map v = b.store (u b.key j) (v s)

theorem Follow.map_assign (h : Follow v u bindings) (s : σ) (m : Member) :
    (assign bindings s m).map v = assign bindings (v s) (m.1, u m.1 m.2) := by
  rw [assign, assign]
  cases hb : bindings.find? (·.key == m.1) with
  | none => rfl
  | some b =>
      have hkey : b.key = m.1 := by simpa using List.find?_some hb
      rw [← hkey]
      exact h b (List.mem_of_find?_eq_some hb) m.2 s

theorem Follow.map_assignAll (h : Follow v u bindings) (s : σ) (members : List Member) :
    (assignAll bindings s members).map v = assignAll bindings (v s) (mapValues u members) :=
  map_foldlM_of_map (fun m _ s => h.map_assign s m) s

theorem zip_mapItems (u : String → Json → Json) (bindings : List (Binding σ))
    (items : List Json) :
    bindings.zip (mapItems u (bindings.map key) items)
      = (bindings.zip items).map fun (b, j) => (b, u b.key j) := by
  induction bindings generalizing items with
  | nil => rfl
  | cons b bindings ih =>
      cases items with
      | nil => rfl
      | cons j rest => exact congrArg ((b, u b.key j) :: ·) (ih rest)

theorem Follow.map_assignItems (h : Follow v u bindings) (s : σ) (items : List Json) :
    (assignItems bindings s items).map v
      = assignItems bindings (v s) (mapItems u (bindings.map key) items) := by
  rw [assignItems, assignItems, zip_mapItems, length_mapItems]
  refine map_bind_of_map (map_foldlM_of_map (fun c hc s => ?_) s) fun s => ?_
  · exact h c.1 (List.of_mem_zip hc).1 c.2 s
  · split <;> rfl

end Binding

open Binding (Follow)

namespace DatabaseSettings

theorem map_masked_text {key : String} {get : DatabaseSettings → String}
    {put : DatabaseSettings → String → DatabaseSettings}
    (hput : ∀ s t, (put s t).masked = put s.masked (if key = "password" then maskText t else t))
    (j : Json) (s : DatabaseSettings) :
    ((Binding.text key get put).store j s).map masked
      = (Binding.text key get put).store (Json.maskField key j) s.masked := by
  show (j.readText.map (put s)).map masked = (Json.maskField key j).readText.map (put s.masked)
  rw [Json.readText_maskField, map_map, map_map]
  simp only [hput]

theorem follow_bindings : Follow masked Json.maskField bindings := by
  simp only [Follow, bindings, List.forall_mem_cons]
  refine ⟨map_masked_text ?_, map_masked_text ?_, map_masked_text ?_, map_masked_text ?_,
    map_masked_text ?_, map_masked_text ?_, nofun⟩
  all_goals exact fun _ _ => rfl

theorem ofJson_maskDatabase (j : Json) :
    ofJson (Json.maskDatabase j) = (ofJson j).map masked := by
  cases j with
  | scalar s => rfl
  | array items => exact (follow_bindings.map_assignItems {} items).symm
  | object fields => exact (follow_bindings.map_assignAll {} fields).symm

end DatabaseSettings

namespace Settings

theorem follow_bindings : Follow masked Json.maskSection bindings := by
  have hother : ∀ {scope : String}, scope ≠ "database" → ∀ j, Json.maskSection scope j = j :=
    fun hne j => if_neg hne
  simp only [Follow, bindings, List.forall_mem_cons]
  refine ⟨fun j s => ?_, fun j s => ?_, fun j s => ?_, fun j s => ?_, fun j s => ?_, nofun⟩
  · rw [Json.maskSection, if_pos rfl, DatabaseSettings.ofJson_maskDatabase, map_map, map_map]
    rfl
  all_goals
    rw [hother (by decide), map_map]
    rfl

/-- What is read with the password masked is what is read, with the password
masked. -/
theorem ofDocument_masked (d : Document) : ofDocument d.masked = (ofDocument d).map masked :=
  (follow_bindings.map_assignAll {} d.members).symm

/-- The view has all that is shown of settings. -/
theorem redacted_masked (s : Settings) : s.masked.redacted = s.redacted := by
  have hpassword : s.masked.database.password = maskText s.database.password := rfl
  rw [redacted, redacted, hpassword, isEmpty_maskText]
  split
  · rename_i hempty
    have hsame : maskText s.database.password = s.database.password := by
      rw [String.isEmpty_iff.mp hempty]
      rfl
    rw [masked, DatabaseSettings.masked, hsame]
  · rfl

end Settings

end IndexerSettings
