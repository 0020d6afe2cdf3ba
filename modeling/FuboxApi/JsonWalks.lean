import FuboxApi.JsonDocument

/-!
# Walks over documents

A walk goes through a document in order and keeps the place where it is. It may rewrite every text,
or replace the value of a field, which is then not entered.
-/

structure JsonWalk (π ε : Type) where
  text : π → String → String × List ε
  /-- What stands for the value of a field that is not entered, and what the field shows. -/
  field : π → String → JsonDocument → Option JsonDocument × List ε
  key : π → String → π
  index : π → Nat → π

namespace JsonWalk

variable {π ρ ε δ κ : Type}

def entered : Option JsonDocument × List ε → JsonDocument × List ε → JsonDocument × List ε
  | (some replacement, findings), _ => (replacement, findings)
  | (none, findings), inside => (inside.1, findings ++ inside.2)

mutual

def value (walk : JsonWalk π ε) (place : π) : JsonDocument → JsonDocument × List ε
  | .string text => (.string (walk.text place text).1, (walk.text place text).2)
  | .array items => (.array (walk.items place 0 items).1, (walk.items place 0 items).2)
  | .object fields => (.object (walk.fields place fields).1, (walk.fields place fields).2)
  | scalar => (scalar, [])

def items (walk : JsonWalk π ε) (place : π) (position : Nat) :
    List JsonDocument → List JsonDocument × List ε
  | [] => ([], [])
  | item :: rest =>
    let first := walk.value (walk.index place position) item
    let others := walk.items place (position + 1) rest
    (first.1 :: others.1, first.2 ++ others.2)

def fields (walk : JsonWalk π ε) (place : π) :
    List (String × JsonDocument) → List (String × JsonDocument) × List ε
  | [] => ([], [])
  | (name, item) :: rest =>
    let first := entered (walk.field place name item) (walk.value (walk.key place name) item)
    let others := walk.fields place rest
    ((name, first.1) :: others.1, first.2 ++ others.2)

end

/-- Lists every text with its place, outside the fields that are not entered. -/
def located (key : π → String → π) (index : π → Nat → π) (enters : String → Bool) :
    JsonWalk π (π × String) where
  text := fun place text => (text, [(place, text)])
  field := fun _ name item => (if enters name then none else some item, [])
  key := key
  index := index

def stringWalk : JsonWalk Unit String where
  text := fun _ text => (text, [text])
  field := fun _ _ _ => (none, [])
  key := fun _ _ => ()
  index := fun _ _ => ()

/-- The text values of a document. -/
def strings (document : JsonDocument) : List String :=
  (stringWalk.value () document).2

/-! ### Walks that find the same -/

/-- Two walks whose findings amount to the same at every text and at every field, at places that
correspond. -/
structure Agree (same : π → ρ → Prop) (first : JsonWalk π ε) (second : JsonWalk ρ δ)
    (left : ε → List κ) (right : δ → List κ) : Prop where
  key : ∀ place other name, same place other → same (first.key place name) (second.key other name)
  index : ∀ place other position, same place other →
    same (first.index place position) (second.index other position)
  text : ∀ place other text, same place other →
    (first.text place text).2.flatMap left = (second.text other text).2.flatMap right
  field : ∀ place other name item, same place other →
    (first.value (first.key place name) item).2.flatMap left =
        (second.value (second.key other name) item).2.flatMap right →
      (entered (first.field place name item)
          (first.value (first.key place name) item)).2.flatMap left =
        (entered (second.field other name item)
          (second.value (second.key other name) item)).2.flatMap right

variable {first : JsonWalk π ε}

section

variable {same : π → ρ → Prop} {second : JsonWalk ρ δ} {left : ε → List κ} {right : δ → List κ}

mutual

theorem Agree.flatMap_value (agree : Agree same first second left right) {place : π} {other : ρ}
    (here : same place other) : (document : JsonDocument) →
      (first.value place document).2.flatMap left = (second.value other document).2.flatMap right
  | .string text => agree.text place other text here
  | .array items => agree.flatMap_items here 0 items
  | .object fields => agree.flatMap_fields here fields
  | .null | .bool _ | .integer _ | .decimal _ _ => rfl

theorem Agree.flatMap_items (agree : Agree same first second left right) {place : π} {other : ρ}
    (here : same place other) (position : Nat) : (items : List JsonDocument) →
      (first.items place position items).2.flatMap left =
        (second.items other position items).2.flatMap right
  | [] => rfl
  | item :: rest => by
    simp only [items, List.flatMap_append]
    rw [agree.flatMap_value (agree.index place other position here) item,
      agree.flatMap_items here _ rest]

theorem Agree.flatMap_fields (agree : Agree same first second left right) {place : π} {other : ρ}
    (here : same place other) : (fields : List (String × JsonDocument)) →
      (first.fields place fields).2.flatMap left = (second.fields other fields).2.flatMap right
  | [] => rfl
  | (name, item) :: rest => by
    have inside := agree.flatMap_value (agree.key place other name here) item
    simp only [fields, List.flatMap_append]
    rw [agree.field place other name item here inside, agree.flatMap_fields here rest]

end

end

/-! ### A walk over what another walk has written -/

def followedBy (first : JsonWalk π ε) (second : JsonWalk π δ) : JsonWalk π δ where
  text := fun place text => second.text place (first.text place text).1
  field := fun place name item =>
    match (first.field place name item).1 with
    | some replacement =>
      let again := entered (second.field place name replacement)
        (second.value (second.key place name) replacement)
      (some again.1, again.2)
    | none => second.field place name (first.value (first.key place name) item).1
  key := second.key
  index := second.index

variable {second : JsonWalk π δ}

theorem followedBy_field_of_entered {place : π} {name : String} {item : JsonDocument}
    (entered : (first.field place name item).1 = none) :
    (first.followedBy second).field place name item =
      second.field place name (first.value (first.key place name) item).1 := by
  simp only [followedBy, entered]

theorem followedBy_field_of_replaced {place : π} {name : String} {item replacement : JsonDocument}
    (replaced : (first.field place name item).1 = some replacement) :
    (first.followedBy second).field place name item =
      (some (entered (second.field place name replacement)
          (second.value (second.key place name) replacement)).1,
        (entered (second.field place name replacement)
          (second.value (second.key place name) replacement)).2) := by
  simp only [followedBy, replaced]

mutual

theorem followedBy_value (key : first.key = second.key) (index : first.index = second.index)
    (place : π) : (document : JsonDocument) → (first.followedBy second).value place document =
        second.value place (first.value place document).1
  | .string _ => rfl
  | .array items => by
    simp only [value]
    rw [followedBy_items key index place 0 items]
  | .object fields => by
    simp only [value]
    rw [followedBy_fields key index place fields]
  | .null | .bool _ | .integer _ | .decimal _ _ => rfl

theorem followedBy_items (key : first.key = second.key) (index : first.index = second.index)
    (place : π) (position : Nat) : (items : List JsonDocument) →
      (first.followedBy second).items place position items =
        second.items place position (first.items place position items).1
  | [] => rfl
  | item :: rest => by
    have same : (first.followedBy second).index = second.index := rfl
    simp only [items]
    rw [followedBy_value key index _ item, followedBy_items key index place _ rest, same, index]

theorem followedBy_fields (key : first.key = second.key) (index : first.index = second.index)
    (place : π) : (fields : List (String × JsonDocument)) →
      (first.followedBy second).fields place fields =
        second.fields place (first.fields place fields).1
  | [] => rfl
  | (name, item) :: rest => by
    have same : (first.followedBy second).key = second.key := rfl
    simp only [fields]
    rw [followedBy_value key index _ item, followedBy_fields key index place rest, same, ← key]
    rcases decision : first.field place name item with ⟨none | replacement, shown⟩
    · rw [followedBy_field_of_entered (by rw [decision])]
      rfl
    · rw [followedBy_field_of_replaced (by rw [decision]), ← key]
      rfl

end

end JsonWalk
