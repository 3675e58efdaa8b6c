import EntityBase.Token.Lexer
import EntityBase.Value.Data

/-!
# Portable data — what survives being a value

Stored data become values when a program reads them and stored data again
when it stores them. That changes a whole number of more than 64 bits and
a double that is not finite, and nothing else: `toJson_ofJson`. A double is
also asked to survive its text, as every finite one is expected to.
-/

namespace EntityBase

namespace Json

mutual

/-- Whether every number has 64 bits, or is finite and what its text is read
as. -/
def Portable : Json → Prop
  | .int n => Binary64.fitsInt64 n = true
  | .float x => Binary64.isFinite x = true ∧
      Lexer.float? (Decimal.stored.text x).toList = some x
  | .array items => PortableItems items
  | .object fields => PortableFields fields
  | _ => True

/-- Portable item by item. -/
def PortableItems : List Json → Prop
  | [] => True
  | item :: rest => Portable item ∧ PortableItems rest

/-- Portable field by field. -/
def PortableFields : List (String × Json) → Prop
  | [] => True
  | (_, value) :: rest => Portable value ∧ PortableFields rest

end

theorem portableFields_iff {fields : List (String × Json)} :
    PortableFields fields ↔ ∀ e ∈ fields, e.2.Portable := by
  induction fields with
  | nil => simp [PortableFields]
  | cons e rest ih =>
    obtain ⟨key, value⟩ := e
    simp [PortableFields, ih]

end Json

namespace Value

theorem ofJsonItems_eq_map (items : List Json) : ofJsonItems items = items.map ofJson := by
  induction items with
  | nil => rfl
  | cons item rest ih => rw [ofJsonItems, ih, List.map_cons]

theorem ofJsonFields_eq_map (fields : List (String × Json)) :
    ofJsonFields fields = fields.map fun e => (e.1, ofJson e.2) := by
  induction fields with
  | nil => rfl
  | cons e rest ih => rw [ofJsonFields, ih, List.map_cons]

/-- A value that is read as a name comes from a text. -/
theorem eq_string_of_name?_ofJson {j : Json} {name : String} (h : (ofJson j).name? = some name) :
    j = .string name := by
  cases j with
  | string s => exact congrArg Json.string (Option.some.inj h)
  | int n =>
    unfold ofJson at h
    split at h <;> cases h
  | _ => cases h

mutual

/-- **Portable data survive being a value.** -/
theorem toJson_ofJson : (j : Json) → j.Portable → toJson (ofJson j) = j
  | .null, _ => rfl
  | .bool _, _ => rfl
  | .int n, h => by
    have hfits : Binary64.fitsInt64 n = true := h
    rw [ofJson, if_pos hfits]
    rfl
  | .float x, h => by
    have hfinite : Binary64.isFinite x = true := h.1
    have hstored : toJson (ofJson (.float x)) = Json.ofFloat x := rfl
    rw [hstored, Json.ofFloat, if_pos hfinite]
  | .string _, _ => rfl
  | .array items, h => congrArg Json.array (toJsonItems_ofJsonItems items h)
  | .object fields, h => congrArg Json.object (toJsonFields_ofJsonFields fields h)

theorem toJsonItems_ofJsonItems : (items : List Json) → Json.PortableItems items →
    toJsonItems (ofJsonItems items) = items
  | [], _ => rfl
  | item :: rest, h => by
    rw [ofJsonItems, toJsonItems, toJson_ofJson item h.1, toJsonItems_ofJsonItems rest h.2]

theorem toJsonFields_ofJsonFields : (fields : List (String × Json)) →
    Json.PortableFields fields → toJsonFields (ofJsonFields fields) = fields
  | [], _ => rfl
  | (key, value) :: rest, h => by
    rw [ofJsonFields, toJsonFields, toJson_ofJson value h.1, toJsonFields_ofJsonFields rest h.2]

end

end Value

end EntityBase
