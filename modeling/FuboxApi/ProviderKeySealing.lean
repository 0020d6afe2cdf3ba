import FuboxApi.RustText

/-!
# Sealed provider keys

The identifiers of tenant, provider, key and master key are written into the associated data, each
behind its label and with its length, so that a secret opens in its own context alone. The cipher is
a parameter.
-/

namespace FuboxApi.ProviderKeySealing

open CheckedFold

inductive ProviderKeyCryptoError where
  | invalidMasterKeyLength (expected actual : Nat)
  | emptyMasterKeyId
  | emptySecret
  | emptyContextField (field : String)
  | unsupportedVersion (version : UInt8)
  | encryptionFailed
  | decryptionFailed
  | invalidUtf8

/-- Authenticated encryption under a key and a nonce, with associated data. -/
structure Aead (Ciphertext : Type) where
  encrypt (key nonce aad message : Bytes) : Option Ciphertext
  decrypt (key nonce aad : Bytes) (ciphertext : Ciphertext) : Option Bytes

/-- What is encrypted decrypts under its own key and associated data, and under no others. -/
structure Aead.Ideal {Ciphertext : Type} (aead : Aead Ciphertext) : Prop where
  decrypts {key nonce aad message ciphertext} :
    aead.encrypt key nonce aad message = some ciphertext →
      aead.decrypt key nonce aad ciphertext = some message
  authentic {key nonce aad message ciphertext otherKey otherAad opened} :
    aead.encrypt key nonce aad message = some ciphertext →
      aead.decrypt otherKey nonce otherAad ciphertext = some opened →
        otherKey = key ∧ otherAad = aad

structure ProviderKeySecret where
  secret : String
  nonempty : secret ≠ ""

def ProviderKeySecret.new (secret : String) : Except ProviderKeyCryptoError ProviderKeySecret :=
  if nonempty : secret ≠ "" then .ok ⟨secret, nonempty⟩ else .error .emptySecret

def asBytes (text : String) : Bytes :=
  text.toByteArray.data.toList

def trimText (text : String) : String :=
  String.ofList (RustText.trim text.toList)

/-- `to_be_bytes` of a length as `u32`. -/
def u32Bytes (length : Nat) : Bytes :=
  [length / 2 ^ 24, length / 2 ^ 16, length / 2 ^ 8, length].map UInt8.ofNat

def field (label : String) (value : Bytes) : Bytes :=
  u32Bytes (asBytes label).length ++ asBytes label ++ (u32Bytes value.length ++ value)

def requiredContextField (name raw : String) : Except ProviderKeyCryptoError String := do
  ensure (trimText raw ≠ "") (.emptyContextField name)
  return trimText raw

@[ext]
structure ProviderKeyIds where
  tenantId : String
  providerId : String
  providerKeyId : String
deriving DecidableEq

def contextAad (ids : ProviderKeyIds) : Bytes :=
  field "domain" (asBytes "ai-gateway:provider-key:context:v1") ++
    (field "tenant_id" (asBytes ids.tenantId) ++ (field "provider_id" (asBytes ids.providerId) ++
        field "provider_key_id" (asBytes ids.providerKeyId)))

def providerKeyContext (ids : ProviderKeyIds) : Except ProviderKeyCryptoError Bytes := do
  let tenantId ← requiredContextField "tenant_id" ids.tenantId
  let providerId ← requiredContextField "provider_id" ids.providerId
  let providerKeyId ← requiredContextField "provider_key_id" ids.providerKeyId
  return contextAad ⟨tenantId, providerId, providerKeyId⟩

def encryptionAad (version : UInt8) (masterKeyId : String) (context : Bytes) : Bytes :=
  field "domain" (asBytes "ai-gateway:provider-key:seal:v1") ++
    (field "algorithm" (asBytes "aes-256-gcm") ++ (field "version" [version] ++
        (field "master_key_id" (asBytes masterKeyId) ++ field "context" context)))

structure SealedProviderKey (Ciphertext : Type) where
  version : UInt8
  masterKeyId : String
  nonce : Bytes
  ciphertext : Ciphertext

def checkMasterKey (masterKey : Bytes) : Except ProviderKeyCryptoError Unit :=
  ensure (masterKey.length = 32) (.invalidMasterKeyLength 32 masterKey.length)

variable {Ciphertext : Type} (aead : Aead Ciphertext)

def sealProviderKey (nonce masterKey : Bytes) (masterKeyId : String) (context : Bytes)
    (secret : ProviderKeySecret) :
    Except ProviderKeyCryptoError (SealedProviderKey Ciphertext) := do
  checkMasterKey masterKey
  ensure (trimText masterKeyId ≠ "") .emptyMasterKeyId
  let aad := encryptionAad 1 (trimText masterKeyId) context
  let ciphertext ← okOr .encryptionFailed (aead.encrypt masterKey nonce aad (asBytes secret.secret))
  return ⟨1, trimText masterKeyId, nonce, ciphertext⟩

def openProviderKey (masterKey context : Bytes) (sealedKey : SealedProviderKey Ciphertext) :
    Except ProviderKeyCryptoError ProviderKeySecret := do
  ensure (sealedKey.version = 1) (.unsupportedVersion sealedKey.version)
  checkMasterKey masterKey
  let aad := encryptionAad sealedKey.version sealedKey.masterKeyId context
  let plaintext ← okOr .decryptionFailed
    (aead.decrypt masterKey sealedKey.nonce aad sealedKey.ciphertext)
  let secret ← okOr .invalidUtf8 (String.fromUTF8? ⟨plaintext.toArray⟩)
  ProviderKeySecret.new secret

/-- Sealing and opening with the identifiers that make the context. -/
def sealFor (nonce masterKey : Bytes) (masterKeyId : String) (ids : ProviderKeyIds)
    (secret : ProviderKeySecret) :
    Except ProviderKeyCryptoError (SealedProviderKey Ciphertext) := do
  let context ← providerKeyContext ids
  sealProviderKey aead nonce masterKey masterKeyId context secret

def openFor (masterKey : Bytes) (ids : ProviderKeyIds) (sealedKey : SealedProviderKey Ciphertext) :
    Except ProviderKeyCryptoError ProviderKeySecret := do
  let context ← providerKeyContext ids
  openProviderKey aead masterKey context sealedKey

/-! ## The associated data tells its fields apart -/

theorem asBytes_inj {first second : String} (same : asBytes first = asBytes second) :
    first = second :=
  String.toByteArray_inj.mp (ByteArray.ext (Array.toList_inj.mp same))

theorem u32Bytes_inj {first second : Nat} (firstShort : first < 2 ^ 32)
    (secondShort : second < 2 ^ 32) (same : u32Bytes first = u32Bytes second) : first = second := by
  have bytes := congrArg (List.map UInt8.toNat) same
  simp only [u32Bytes, List.map_cons, List.map_nil, UInt8.toNat_ofNat', List.cons.injEq] at bytes
  omega

theorem field_append_inj {label : String} {value other rest otherRest : Bytes}
    (valueShort : value.length < 2 ^ 32) (otherShort : other.length < 2 ^ 32)
    (same : field label value ++ rest = field label other ++ otherRest) :
    value = other ∧ rest = otherRest := by
  simp only [field, List.append_assoc, List.append_cancel_left_eq] at same
  obtain ⟨lengths, values⟩ := List.append_inj same rfl
  exact List.append_inj values (u32Bytes_inj valueShort otherShort lengths)

/-- The last field needs no length to end it. -/
theorem field_inj {label : String} {value other : Bytes}
    (same : field label value = field label other) : value = other := by
  simp only [field, List.append_assoc, List.append_cancel_left_eq] at same
  exact (List.append_inj same rfl).2

abbrev Short (text : String) : Prop :=
  (asBytes text).length < 2 ^ 32

namespace ProviderKeyIds

def trimmed (ids : ProviderKeyIds) : ProviderKeyIds :=
  ⟨trimText ids.tenantId, trimText ids.providerId, trimText ids.providerKeyId⟩

abbrev AllShort (ids : ProviderKeyIds) : Prop :=
  Short ids.tenantId ∧ Short ids.providerId ∧ Short ids.providerKeyId

end ProviderKeyIds

theorem contextAad_inj {ids others : ProviderKeyIds} (short : ids.AllShort)
    (otherShort : others.AllShort) (same : contextAad ids = contextAad others) : ids = others := by
  have fields := List.append_cancel_left same
  obtain ⟨tenant, fields⟩ := field_append_inj short.1 otherShort.1 fields
  obtain ⟨provider, fields⟩ := field_append_inj short.2.1 otherShort.2.1 fields
  exact ProviderKeyIds.ext (asBytes_inj tenant) (asBytes_inj provider)
    (asBytes_inj (field_inj fields))

theorem encryptionAad_inj {version : UInt8} {masterKeyId otherId : String}
    {context other : Bytes} (short : Short masterKeyId) (otherShort : Short otherId)
    (same : encryptionAad version masterKeyId context = encryptionAad version otherId other) :
    masterKeyId = otherId ∧ context = other := by
  have fields := List.append_cancel_left (List.append_cancel_left (List.append_cancel_left same))
  obtain ⟨idEq, fields⟩ := field_append_inj short otherShort fields
  exact ⟨asBytes_inj idEq, field_inj fields⟩

theorem providerKeyContext_eq_ok {ids : ProviderKeyIds} {context : Bytes}
    (made : providerKeyContext ids = .ok context) : context = contextAad ids.trimmed := by
  obtain ⟨tenantId, tenant, made⟩ := bind_eq_ok.mp made
  obtain ⟨providerId, provider, made⟩ := bind_eq_ok.mp made
  obtain ⟨providerKeyId, key, made⟩ := bind_eq_ok.mp made
  obtain ⟨_, _, tenant⟩ := bind_eq_ok.mp tenant
  obtain ⟨_, _, provider⟩ := bind_eq_ok.mp provider
  obtain ⟨_, _, key⟩ := bind_eq_ok.mp key
  cases tenant
  cases provider
  cases key
  exact (Except.ok.inj made).symm

theorem providerKeyContext_congr {ids others : ProviderKeyIds}
    (same : ids.trimmed = others.trimmed) : providerKeyContext ids = providerKeyContext others := by
  obtain ⟨tenant, provider, key⟩ := ProviderKeyIds.ext_iff.mp same
  simp only [ProviderKeyIds.trimmed] at tenant provider key
  simp only [providerKeyContext, requiredContextField, tenant, provider, key]

theorem fromUTF8?_asBytes (text : String) :
    String.fromUTF8? ⟨(asBytes text).toArray⟩ = some text := by
  exact dif_pos text.isValidUTF8

/-- For every key, master key identifier, context and secret that were sealed, and every key,
identifier and context of an opening, with an ideal cipher: the secret comes back if the keys, the
identifiers and the trimmed context are the same, and opening fails otherwise. -/
theorem sealed_key_opens_in_own_context (ideal : aead.Ideal)
    (nonce masterKey openingKey : Bytes) (masterKeyId openingKeyId : String)
    (ids openingIds : ProviderKeyIds) (secret : ProviderKeySecret)
    (short : Short (trimText masterKeyId) ∧ Short openingKeyId ∧ ids.trimmed.AllShort ∧
      openingIds.trimmed.AllShort) (sealedKey : SealedProviderKey Ciphertext)
    (sealedIn : sealFor aead nonce masterKey masterKeyId ids secret = .ok sealedKey) :
    (openingKey = masterKey ∧ openingKeyId = trimText masterKeyId ∧
        openingIds.trimmed = ids.trimmed →
      openFor aead openingKey openingIds { sealedKey with masterKeyId := openingKeyId } =
        .ok secret) ∧ (¬ (openingKey = masterKey ∧ openingKeyId = trimText masterKeyId ∧
          openingIds.trimmed = ids.trimmed) → ∃ error, openFor aead openingKey openingIds
          { sealedKey with masterKeyId := openingKeyId } = .error error) := by
  obtain ⟨context, made, sealedIn⟩ := bind_eq_ok.mp sealedIn
  obtain ⟨_, keyChecked, sealedIn⟩ := bind_eq_ok.mp sealedIn
  obtain ⟨_, _, sealedIn⟩ := bind_eq_ok.mp sealedIn
  obtain ⟨ciphertext, encrypted, sealedIn⟩ := bind_eq_ok.mp sealedIn
  obtain rfl := Except.ok.inj sealedIn
  have encrypted := okOr_eq_ok.mp encrypted
  constructor
  · rintro ⟨rfl, rfl, idsEq⟩
    refine bind_eq_ok.mpr ⟨context, (providerKeyContext_congr idsEq).trans made, ?_⟩
    refine bind_eq_ok.mpr ⟨(), ensure_eq_ok.mpr rfl, bind_eq_ok.mpr ⟨_, keyChecked, ?_⟩⟩
    refine bind_eq_ok.mpr ⟨_, okOr_eq_ok.mpr (ideal.decrypts encrypted), ?_⟩
    exact bind_eq_ok.mpr ⟨_, okOr_eq_ok.mpr (fromUTF8?_asBytes _), dif_pos secret.nonempty⟩
  · intro differs
    cases opened : openFor aead openingKey openingIds
        { (⟨1, trimText masterKeyId, nonce, ciphertext⟩ : SealedProviderKey Ciphertext) with
          masterKeyId := openingKeyId } with
    | error error => exact ⟨error, rfl⟩
    | ok result =>
      obtain ⟨otherContext, otherMade, opened⟩ := bind_eq_ok.mp opened
      obtain ⟨_, _, opened⟩ := bind_eq_ok.mp opened
      obtain ⟨_, _, opened⟩ := bind_eq_ok.mp opened
      obtain ⟨plaintext, decrypted, _⟩ := bind_eq_ok.mp opened
      obtain ⟨keyEq, aadEq⟩ := ideal.authentic encrypted (okOr_eq_ok.mp decrypted)
      obtain ⟨idEq, contextEq⟩ := encryptionAad_inj short.2.1 short.1 aadEq
      rw [providerKeyContext_eq_ok made, providerKeyContext_eq_ok otherMade] at contextEq
      exact absurd ⟨keyEq, idEq, contextAad_inj short.2.2.2 short.2.2.1 contextEq⟩ differs

/-- A cipher that keeps what it was given. -/
def recordingAead : Aead (Bytes × Bytes × Bytes) where
  encrypt key _ aad message := some (key, aad, message)
  decrypt key _ aad ciphertext :=
    if ciphertext.1 = key ∧ ciphertext.2.1 = aad then some ciphertext.2.2 else none

theorem recordingAead_ideal : recordingAead.Ideal where
  decrypts := by
    rintro key nonce aad message _ ⟨⟩
    simp [recordingAead]
  authentic := by
    rintro key nonce aad message _ otherKey otherAad opened ⟨⟩ decrypted
    obtain ⟨⟨keyEq, aadEq⟩, _⟩ := Option.ite_none_right_eq_some.mp decrypted
    exact ⟨keyEq.symm, aadEq.symm⟩

def exampleKey : Bytes :=
  List.replicate 32 7

def exampleSecret : ProviderKeySecret :=
  ⟨"upstream", by decide⟩

/-- A key of provider 1 opens again, and not as a key of provider 2. -/
theorem sealed_key_opens_for_one_provider :
    ∃ sealedKey, sealFor recordingAead [] exampleKey "master" ⟨"tenant", "1", "key"⟩
        exampleSecret = .ok sealedKey ∧ openFor recordingAead exampleKey ⟨"tenant", " 1", "key"⟩
        { sealedKey with masterKeyId := "master" } = .ok exampleSecret ∧
      ∃ error, openFor recordingAead exampleKey ⟨"tenant", "2", "key"⟩
        { sealedKey with masterKeyId := "master" } = .error error := by
  have opens := fun openingIds => sealed_key_opens_in_own_context recordingAead recordingAead_ideal
    [] exampleKey exampleKey "master" "master" ⟨"tenant", "1", "key"⟩ openingIds exampleSecret
  refine ⟨_, rfl, ?_, ?_⟩
  · exact (opens _ (by decide +kernel) _ rfl).1 (by decide +kernel)
  · exact (opens _ (by decide +kernel) _ rfl).2 (by decide +kernel)

end FuboxApi.ProviderKeySealing
