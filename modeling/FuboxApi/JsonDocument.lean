import Mathlib.Data.List.Basic

/-!
# JSON documents

A document is read by following field names and changed by setting a field of a field. A number
without a fraction is an integer; any other one keeps its digits and the place of its point.
-/

inductive JsonDocument where
  | null
  | bool (value : Bool)
  | integer (value : Int)
  | decimal (unscaled : Int) (scale : Nat)
  | string (value : String)
  | array (items : List JsonDocument)
  | object (fields : List (String × JsonDocument))

namespace JsonDocument

def isNumber : JsonDocument → Bool
  | integer _ | decimal _ _ => true
  | _ => false

def isNull : JsonDocument → Bool
  | null => true
  | _ => false

def isObject : JsonDocument → Bool
  | object _ => true
  | _ => false

/-- The number of a document that is an integer of 64 bits without a sign. -/
def asU64 : JsonDocument → Option UInt64
  | integer value =>
    if 0 ≤ value ∧ value.toNat < UInt64.size then some (UInt64.ofNat value.toNat) else none
  | _ => none

def asStr : JsonDocument → Option String
  | string value => some value
  | _ => none

def asArray : JsonDocument → Option (List JsonDocument)
  | array items => some items
  | _ => none

def lookup (name : String) : List (String × JsonDocument) → Option JsonDocument
  | [] => none
  | entry :: later => if entry.1 = name then some entry.2 else lookup name later

/-- The field with a name, if the document is an object that has one. -/
def field (document : JsonDocument) (name : String) : Option JsonDocument :=
  match document with
  | object fields => lookup name fields
  | _ => none

/-- What a path of names leads to. -/
def valueAt (document : JsonDocument) (path : List String) : Option JsonDocument :=
  path.foldlM field document

def store (name : String) (value : JsonDocument) :
    List (String × JsonDocument) → List (String × JsonDocument)
  | [] => [(name, value)]
  | entry :: later =>
    if entry.1 = name then (name, value) :: later else entry :: store name value later

/-- Sets a field of an object; nothing else has fields. -/
def setField (document : JsonDocument) (name : String) (value : JsonDocument) : JsonDocument :=
  match document with
  | object fields => object (store name value fields)
  | _ => document

/-- Sets a field of a field, if the outer one is there. -/
def setInner (document : JsonDocument) (outer inner : String) (value : JsonDocument) :
    JsonDocument :=
  match document.field outer with
  | some child => document.setField outer (child.setField inner value)
  | none => document

variable {name other outer : String} {value document : JsonDocument}

theorem lookup_store_self (name : String) (value : JsonDocument)
    (fields : List (String × JsonDocument)) :
    lookup name (store name value fields) = some value := by
  induction fields with
  | nil => simp [store, lookup]
  | cons entry later ih =>
    unfold store
    split
    · simp [lookup]
    · next entryNe => rw [lookup, if_neg entryNe, ih]

theorem lookup_store_ne (distinct : other ≠ name) (value : JsonDocument)
    (fields : List (String × JsonDocument)) :
    lookup other (store name value fields) = lookup other fields := by
  induction fields with
  | nil => simp [store, lookup, distinct.symm]
  | cons entry later ih =>
    unfold store
    split
    · next entryEq =>
      have entryNe : entry.1 ≠ other := entryEq ▸ distinct.symm
      rw [lookup, if_neg distinct.symm, lookup, if_neg entryNe]
    · rw [lookup, lookup, ih]

theorem sizeOf_lookup_lt {fields : List (String × JsonDocument)}
    (found : lookup name fields = some value) : sizeOf value < sizeOf fields := by
  induction fields with
  | nil => simp [lookup] at found
  | cons entry later ih =>
    obtain ⟨key, document⟩ := entry
    unfold lookup at found
    split at found
    · cases found
      simp only [List.cons.sizeOf_spec, Prod.mk.sizeOf_spec]
      omega
    · have later := ih found
      simp only [List.cons.sizeOf_spec]
      omega

theorem sizeOf_field_lt (found : document.field name = some value) :
    sizeOf value < sizeOf document := by
  cases document with
  | object fields =>
    have smaller := sizeOf_lookup_lt found
    simp only [object.sizeOf_spec]
    omega
  | _ => simp [field] at found

theorem field_setField_self (present : (document.field name).isSome = true) (value : JsonDocument) :
    (document.setField name value).field name = some value := by
  cases document with
  | object fields => exact lookup_store_self name value fields
  | _ => simp [field] at present

theorem field_setField_ne (distinct : other ≠ name) (document value : JsonDocument) :
    (document.setField name value).field other = document.field other := by
  cases document with
  | object fields => exact lookup_store_ne distinct value fields
  | _ => rfl

theorem valueAt_pair (document : JsonDocument) (outer inner : String) :
    document.valueAt [outer, inner] = (document.field outer).bind (·.field inner) := by
  cases outerField : document.field outer <;> simp [valueAt, outerField]

theorem valueAt_setInner_self {inner : String}
    (present : (document.valueAt [outer, inner]).isSome = true) (value : JsonDocument) :
    (document.setInner outer inner value).valueAt [outer, inner] = some value := by
  rw [valueAt_pair] at present ⊢
  cases outerField : document.field outer with
  | none => simp [outerField] at present
  | some child =>
    have outerPresent : (document.field outer).isSome = true := by simp [outerField]
    rw [outerField, Option.bind_some] at present
    simp [setInner, outerField, field_setField_self outerPresent, field_setField_self present]

theorem valueAt_setInner_ne (distinct : other ≠ outer) (document : JsonDocument)
    (inner otherInner : String) (value : JsonDocument) :
    (document.setInner outer inner value).valueAt [other, otherInner] =
      document.valueAt [other, otherInner] := by
  rw [valueAt_pair, valueAt_pair]
  unfold setInner
  split
  · rw [field_setField_ne distinct]
  · rfl

end JsonDocument
