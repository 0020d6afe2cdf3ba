import FuboxApi.JsonWalks
import FuboxApi.RustText
import FuboxApi.TextRewriting

/-!
# Redaction of the provider key

The answer of a provider may repeat the key that it was called with. Every text value loses the key,
and a field with a telling name is replaced if the key stands anywhere in its value; field names are
passed on as they are.
-/

namespace FuboxApi.ProviderSecretRedaction

open RustText TextRewriting

def redactedProviderSecret : String :=
  "[REDACTED]"

def isSensitiveJsonKey (key : String) : Bool :=
  let normalized := key.toList.map fun character =>
    if character = '-' ∨ character = ' ' then '_' else character.toLower
  ["authorization", "key", "token"].any (fun name => normalized = name.toList) ||
    ["_key", "_token"].any (fun ending => ending.toList.isSuffixOf normalized) ||
      ["api_key", "apikey", "secret", "credential"].any
        fun part => decide (part.toList <:+: normalized)

section

variable (value : JsonDocument) (providerKey : List Char)

def valueContainsProviderSecret : Bool :=
  (JsonWalk.strings value).any fun text => decide (providerKey <:+: text.toList)

/-- A field whose value is replaced as a whole. -/
def isReplaced (name : String) (value : JsonDocument) : Bool :=
  isSensitiveJsonKey name && valueContainsProviderSecret value providerKey

def redactText (text : String) : String :=
  .ofList (rewrite (replacing id providerKey redactedProviderSecret.toList) none 0 text.toList)

def redactingWalk : JsonWalk Unit Empty where
  text := fun _ text => (redactText providerKey text, [])
  field := fun _ name value =>
    (if isReplaced providerKey name value then some (.string redactedProviderSecret) else none, [])
  key := fun _ _ => ()
  index := fun _ _ => ()

def redactProviderSecretInValue : JsonDocument :=
  ((redactingWalk providerKey).value () value).1

def redactProviderSecretValue (providerKey : Option String) : JsonDocument :=
  match (providerKey.map fun key => trim key.toList).filter (fun key => !key.isEmpty) with
  | none => value
  | some providerKey => redactProviderSecretInValue value providerKey

/-! ### Where the key can be read -/

/-- Lists the text values and the names of the fields. -/
def textWalk : JsonWalk Unit String where
  text := fun _ text => (text, [text])
  field := fun _ name _ => (none, [name])
  key := fun _ _ => ()
  index := fun _ _ => ()

def texts : List String :=
  (textWalk.value () value).2

/-- Lists the names of the fields outside the replaced ones. -/
def keptNameWalk : JsonWalk Unit String where
  text := fun _ text => (text, [])
  field := fun _ name value =>
    (if isReplaced providerKey name value then some value else none, [name])
  key := fun _ _ => ()
  index := fun _ _ => ()

def keptNames : List String :=
  ((keptNameWalk providerKey).value () value).2

end

variable {providerKey : List Char}

def showing (providerKey : List Char) (text : String) : List String :=
  if providerKey <:+: text.toList then [text] else []

theorem not_infix_redactText (apart : Apart providerKey redactedProviderSecret.toList)
    (text : String) : ¬ providerKey <:+: (redactText providerKey text).toList := by
  rw [← List.map_id redactedProviderSecret.toList] at apart
  have removed := @not_infix_replacing _ _ _ text.toList none _ _ _ _ apart 0
  rwa [List.map_id, ← @String.toList_ofList (rewrite _ none 0 text.toList)] at removed

theorem agree_keptNames (apart : Apart providerKey redactedProviderSecret.toList) :
    JsonWalk.Agree Eq ((redactingWalk providerKey).followedBy textWalk) (keptNameWalk providerKey)
      (showing providerKey) (showing providerKey) where
  key := fun _ _ _ _ => rfl
  index := fun _ _ _ _ => rfl
  text := fun _ _ text _ => by
    change [redactText providerKey text].flatMap (showing providerKey) = []
    rw [List.flatMap_singleton, showing, if_neg (not_infix_redactText apart text)]
  field := fun place _ name item _ inside => by
    by_cases replaced : isReplaced providerKey name item = true
    · have instead : ((redactingWalk providerKey).field place name item).1 =
          some (.string redactedProviderSecret) := if_pos replaced
      have kept : (keptNameWalk providerKey).field place name item = (some item, [name]) := by
        simp only [keptNameWalk, if_pos replaced]
      have marker : showing providerKey redactedProviderSecret = [] := if_neg apart.notInside
      rw [JsonWalk.followedBy_field_of_replaced instead, kept]
      change [name, redactedProviderSecret].flatMap (showing providerKey) =
        [name].flatMap (showing providerKey)
      rw [List.flatMap_cons, List.flatMap_singleton, List.flatMap_singleton, marker,
        List.append_nil]
    · have goesIn : ((redactingWalk providerKey).field place name item).1 = none :=
        if_neg replaced
      have kept : (keptNameWalk providerKey).field place name item = (none, [name]) := by
        simp only [keptNameWalk, if_neg replaced]
      rw [JsonWalk.followedBy_field_of_entered goesIn, kept]
      change ([name] ++ _).flatMap _ = ([name] ++ _).flatMap _
      rw [List.flatMap_append, List.flatMap_append, inside]

theorem flatMap_showing_eq_nil_iff (found : List String) :
    found.flatMap (showing providerKey) = [] ↔ ∀ text ∈ found, ¬ providerKey <:+: text.toList := by
  rw [List.flatMap_eq_nil_iff]
  refine forall₂_congr fun text _ => ?_
  simp [showing]

/-- The key stays hidden exactly if it stands in no name of a field that is passed on. -/
theorem provider_key_hidden_iff (value : JsonDocument) (providerKey : String)
    (apart : Apart (trim providerKey.toList) redactedProviderSecret.toList) :
    (∀ text ∈ texts (redactProviderSecretValue value (some providerKey)),
        ¬ trim providerKey.toList <:+: text.toList) ↔
      ∀ name ∈ keptNames value (trim providerKey.toList),
        ¬ trim providerKey.toList <:+: name.toList := by
  have nonempty : (trim providerKey.toList).isEmpty = false := by
    refine List.isEmpty_eq_false_iff.mpr fun empty => apart.notInside ?_
    rw [empty]
    exact List.nil_infix
  have redacted : redactProviderSecretValue value (some providerKey) =
      redactProviderSecretInValue value (trim providerKey.toList) := by
    simp [redactProviderSecretValue, Option.filter, nonempty]
  have read : texts (redactProviderSecretValue value (some providerKey)) =
      (((redactingWalk (trim providerKey.toList)).followedBy textWalk).value () value).2 := by
    rw [@JsonWalk.followedBy_value _ _ _ (redactingWalk _) textWalk rfl rfl, redacted]
    rfl
  rw [← flatMap_showing_eq_nil_iff, ← flatMap_showing_eq_nil_iff, read,
    (agree_keptNames apart).flatMap_value rfl, keptNames]

theorem provider_key_hidden_iff_error :
    Apart (trim "sk-live-1 ".toList) redactedProviderSecret.toList ∧
      ∀ text ∈ texts (redactProviderSecretValue
          (.object [("error", .string "unknown key sk-live-1")]) (some "sk-live-1 ")),
        ¬ trim "sk-live-1 ".toList <:+: text.toList :=
  ⟨by decide, (provider_key_hidden_iff _ "sk-live-1 " (by decide)).mpr (by decide)⟩

theorem provider_key_shown_by_field_name :
    Apart (trim "sk-live-1".toList) redactedProviderSecret.toList ∧
      ∃ text ∈ texts (redactProviderSecretValue
          (.object [("sk-live-1", .string "revoked")]) (some "sk-live-1")),
        trim "sk-live-1".toList <:+: text.toList := by
  decide

end FuboxApi.ProviderSecretRedaction
