import FuboxApi.IpAddresses
import FuboxApi.JsonDocument
import FuboxApi.RustText

/-!
# Allowlists of client addresses

The address of a client is that of its connection or, if that comes from a trusted proxy, one that a
header names. It is compared with the allowlists of the key, its profile and the request overrides.
-/

namespace FuboxApi.IpAllowlists

open IpAddresses RustText CheckedFold JsonDocument

structure GatewayApiError where
  status : Nat
  errorType : String
  code : String
  message : String
  param : Option String
  owner : String
  stage : String
  retryable : Option Bool
deriving DecidableEq

def apiKeyIpForbidden : GatewayApiError where
  status := 403
  errorType := "permission_error"
  code := "api_key_ip_forbidden"
  message := "API key is not allowed from this IP address"
  param := some "authorization"
  owner := "policy"
  stage := "auth"
  retryable := some false

def invalidForwardedClientIpHeader (header : String) : GatewayApiError where
  status := 400
  errorType := "invalid_request_error"
  code := "invalid_forwarded_client_ip"
  message := header ++ " header must contain valid IP address values"
  param := some header
  owner := "client"
  stage := "auth"
  retryable := some false

/-! ## Entries -/

/-- The comparison of the first bits of two addresses, in both crates. -/
def samePrefix (network client : Bytes) (prefixLen : Nat) : Bool :=
  let fullBytes := prefixLen / 8
  let remainingBits := prefixLen % 8
  if network.take fullBytes ≠ client.take fullBytes then false
  else if remainingBits = 0 then true
  else
    let mask : UInt8 := 255 <<< UInt8.ofNat (8 - remainingBits)
    network.getD fullBytes 0 &&& mask = client.getD fullBytes 0 &&& mask

def prefixMatches (network client : Bytes) (prefixLen maxPrefixLen : Nat) : Bool :=
  if maxPrefixLen < prefixLen then false else samePrefix network client prefixLen

def cidrMatches (network prefixLen : List Char) (clientIp : IpAddr) : Bool :=
  match parseIpAddr network, parseUnsigned 8 prefixLen with
  | some (.v4 network), some prefixLen =>
    match clientIp with
    | .v4 client => prefixMatches network.octets client.octets prefixLen 32
    | .v6 _ => false
  | some (.v6 network), some prefixLen =>
    match clientIp with
    | .v6 client => prefixMatches network.octets client.octets prefixLen 128
    | .v4 _ => false
  | _, _ => false

def ipAllowlistEntryMatches (entry : String) (clientIp : IpAddr) : Bool :=
  let entry := trim entry.toList
  if entry.isEmpty then false
  else
    match splitOnce '/' entry with
    | some (network, prefixLen) => cidrMatches (trim network) (trim prefixLen) clientIp
    | none => parseIpAddr entry = some clientIp

def ipAllowlistAllows (allowlist : JsonDocument) (clientIp : IpAddr) : Bool :=
  match allowlist.asArray with
  | none => false
  | some entries =>
    if entries.isEmpty then true
    else (entries.filterMap asStr).any (ipAllowlistEntryMatches · clientIp)

/-- The addresses are of one family and agree in their first bits. -/
def Agrees (bits : Nat) : (network client : IpAddr) → Prop
  | .v4 network, .v4 client => bits ≤ 32 ∧ InBlock 32 (network.toNat, bits) client.toNat
  | .v6 network, .v6 client => bits ≤ 128 ∧ InBlock 128 (network.toNat, bits) client.toNat
  | _, _ => False

/-- A trimmed entry is the address of the client, or a network address and behind a slash the
number of bits in which the client agrees with it. -/
def Denotes (client : IpAddr) (text : List Char) : Prop :=
  ('/' ∉ text ∧ parseIpAddr text = some client) ∨
    ∃ front back network bits, ('/' ∉ front ∧ text = front ++ '/' :: back) ∧
      parseIpAddr (trim front) = some network ∧ parseUnsigned 8 (trim back) = some bits ∧
        Agrees bits network client

variable {network client : Bytes} {bits : Nat} {clientIp : IpAddr}

theorem and_mask_eq_iff {first second : UInt8} (positive : 0 < bits) (small : bits < 8) :
    (first &&& 255 <<< UInt8.ofNat (8 - bits) = second &&& 255 <<< UInt8.ofNat (8 - bits)) ↔
      first.toNat / 2 ^ (8 - bits) = second.toNat / 2 ^ (8 - bits) := by
  have maskEq : ∀ bits < 8, 0 < bits →
      ((255 : UInt8) <<< UInt8.ofNat (8 - bits)).toNat = (2 ^ bits - 1) * 2 ^ (8 - bits) := by
    decide
  have high (byte : UInt8) : (byte &&& 255 <<< UInt8.ofNat (8 - bits)).toNat =
      byte.toNat / 2 ^ (8 - bits) * 2 ^ (8 - bits) := by
    rw [UInt8.toNat_and, maskEq bits small positive, land_highMask]
    rw [Nat.sub_add_cancel small.le]
    exact byte.toNat_lt
  rw [← UInt8.toNat_inj, high, high]
  exact Nat.mul_left_inj (by positivity)

theorem ofBytes_cons_div_low (byte : UInt8) (rest : Bytes) (small : bits ≤ 8) :
    ofBytes (byte :: rest) / 2 ^ (8 * (rest.length + 1) - bits) = byte.toNat / 2 ^ (8 - bits) := by
  have exponent : 8 * (rest.length + 1) - bits = 8 * rest.length + (8 - bits) := by omega
  rw [exponent, pow_add, ← Nat.div_div_eq_div_mul, ofBytes, Nat.add_comm,
    Nat.add_mul_div_right _ _ (by positivity), Nat.div_eq_of_lt (ofBytes_lt rest), Nat.zero_add]

theorem ofBytes_cons_div_high (byte : UInt8) (rest : Bytes) (fits : bits ≤ 8 * rest.length) :
    ofBytes (byte :: rest) / 2 ^ (8 * rest.length - bits) =
      byte.toNat * 2 ^ bits + ofBytes rest / 2 ^ (8 * rest.length - bits) ∧
      ofBytes rest / 2 ^ (8 * rest.length - bits) < 2 ^ bits := by
  have split : 2 ^ (8 * rest.length) = 2 ^ bits * 2 ^ (8 * rest.length - bits) := by
    rw [← pow_add, Nat.add_sub_cancel' fits]
  refine ⟨?_, Nat.div_lt_of_lt_mul ?_⟩
  · rw [ofBytes, split, ← Nat.mul_assoc, Nat.add_comm, Nat.add_mul_div_right _ _ (by positivity),
      Nat.add_comm]
  · rw [Nat.mul_comm, ← split]
    exact ofBytes_lt rest

theorem samePrefix_iff (sameLength : network.length = client.length)
    (fits : bits ≤ 8 * network.length) : samePrefix network client bits = true ↔
      InBlock (8 * network.length) (ofBytes network, bits) (ofBytes client) := by
  induction network generalizing client bits with
  | nil =>
    obtain rfl := List.eq_nil_of_length_eq_zero sameLength.symm
    simp [samePrefix, InBlock]
  | cons first rest ih =>
    obtain ⟨second, others, rfl⟩ := List.exists_cons_of_length_eq_add_one sameLength.symm
    have restLength : rest.length = others.length := by simpa using sameLength
    rw [InBlock, List.length_cons]
    rcases Nat.lt_or_ge bits 8 with small | large
    · -- the bits are within the first byte
      rw [ofBytes_cons_div_low first rest small.le, restLength,
        ofBytes_cons_div_low second others small.le]
      simp only [samePrefix, Nat.div_eq_of_lt small, Nat.mod_eq_of_lt small, List.take_zero,
        ne_eq, not_true_eq_false, if_false, List.getD_cons_zero]
      split
      · next zero =>
        simp [zero, Nat.div_eq_of_lt first.toNat_lt, Nat.div_eq_of_lt second.toNat_lt]
      · next nonzero =>
        rw [decide_eq_true_iff, and_mask_eq_iff (Nat.pos_of_ne_zero nonzero) small]
        exact eq_comm
    · obtain ⟨more, rfl⟩ := Nat.exists_eq_add_of_le large
      rw [List.length_cons] at fits
      have fitsRest : more ≤ 8 * rest.length := by omega
      have exponent : 8 * (rest.length + 1) - (8 + more) = 8 * rest.length - more := by omega
      have shifted : samePrefix (first :: rest) (second :: others) (8 + more) = true ↔
          first = second ∧ samePrefix rest others more = true := by
        have bytes : (8 + more) / 8 = more / 8 + 1 := by omega
        simp only [samePrefix, bytes, Nat.add_mod_left, List.take_succ_cons, List.getD_cons_succ]
        by_cases same : first = second <;> simp [same]
      obtain ⟨firstDiv, firstLt⟩ := ofBytes_cons_div_high first rest fitsRest
      obtain ⟨secondDiv, secondLt⟩ := ofBytes_cons_div_high second others (restLength ▸ fitsRest)
      rw [← restLength] at secondDiv secondLt
      rw [exponent, firstDiv, secondDiv, shifted, ih restLength fitsRest, InBlock]
      constructor
      · rintro ⟨rfl, same⟩
        rw [same]
      · intro same
        have quotients := congrArg (· / 2 ^ more) same
        have remainders := congrArg (· % 2 ^ more) same
        simp only [Nat.mul_add_mod_self_right, Nat.mod_eq_of_lt firstLt,
          Nat.mod_eq_of_lt secondLt] at remainders
        simp only [Nat.mul_comm _ (2 ^ more), Nat.mul_add_div (Nat.two_pow_pos more),
          Nat.div_eq_of_lt firstLt, Nat.div_eq_of_lt secondLt, Nat.add_zero] at quotients
        exact ⟨(UInt8.toNat_inj.mp quotients).symm, remainders⟩

theorem prefixMatches_iff {width : Nat} (networkLength : 8 * network.length = width)
    (clientLength : network.length = client.length) :
    prefixMatches network client bits width = true ↔
      bits ≤ width ∧ InBlock width (ofBytes network, bits) (ofBytes client) := by
  subst networkLength
  unfold prefixMatches
  split
  · next tooLong => simp [Nat.not_le.mpr tooLong]
  · next fits =>
    rw [Nat.not_lt] at fits
    rw [samePrefix_iff clientLength fits, and_iff_right fits]

theorem cidrMatches_iff {network prefixLen : List Char} :
    cidrMatches network prefixLen clientIp = true ↔
      ∃ networkIp bits, parseIpAddr network = some networkIp ∧
        parseUnsigned 8 prefixLen = some bits ∧ Agrees bits networkIp clientIp := by
  have agreesV4 (network client : Ipv4Addr) (bits : Nat) : Agrees bits (.v4 network) (.v4 client) ↔
      prefixMatches network.octets client.octets bits 32 = true := by
    rw [@prefixMatches_iff network.octets client.octets bits 32 rfl rfl, network.ofBytes_octets,
      client.ofBytes_octets]
    rfl
  have agreesV6 (network client : Ipv6Addr) (bits : Nat) : Agrees bits (.v6 network) (.v6 client) ↔
      prefixMatches network.octets client.octets bits 128 = true := by
    rw [@prefixMatches_iff network.octets client.octets bits 128 rfl rfl, network.ofBytes_octets,
      client.ofBytes_octets]
    rfl
  unfold cidrMatches
  cases parseIpAddr network with
  | none => simp
  | some networkIp =>
    cases parseUnsigned 8 prefixLen with
    | none => cases networkIp <;> simp
    | some bits =>
      cases networkIp with
      | v4 network =>
        cases clientIp with
        | v4 client => simp [agreesV4]
        | v6 client => simp [Agrees]
      | v6 network =>
        cases clientIp with
        | v4 client => simp [Agrees]
        | v6 client => simp [agreesV6]

theorem ipAllowlistEntryMatches_iff {entry : String} :
    ipAllowlistEntryMatches entry clientIp = true ↔ Denotes clientIp (trim entry.toList) := by
  unfold ipAllowlistEntryMatches
  generalize trim entry.toList = text
  simp only [Denotes, ← splitOnce_eq_some_iff]
  rw [← splitOnce_eq_none_iff]
  cases text with
  | nil => simp [splitOnce, parseIpAddr_nil]
  | cons char rest =>
    cases splitOnce '/' (char :: rest) with
    | none => simp
    | some split => simp [cidrMatches_iff, Prod.ext_iff]

/-- An allowlist admits an address exactly if it is an empty array, or an array with an entry that
stands for the address. -/
theorem ip_allowlist_allows_iff (allowlist : JsonDocument) (clientIp : IpAddr) :
    ipAllowlistAllows allowlist clientIp = true ↔ ∃ entries, allowlist = .array entries ∧
        (entries = [] ∨ ∃ entry, .string entry ∈ entries ∧
          Denotes clientIp (trim entry.toList)) := by
  unfold ipAllowlistAllows
  cases allowlist with
  | array entries =>
    have strings : ∀ text, text ∈ entries.filterMap asStr ↔ .string text ∈ entries := by
      intro text
      rw [List.mem_filterMap]
      constructor
      · rintro ⟨item, member, read⟩
        cases item <;> cases read
        exact member
      · exact fun member => ⟨_, member, rfl⟩
    simp only [asArray, array.injEq, exists_eq_left', List.isEmpty_iff]
    split
    · next empty => simp [empty]
    · next nonempty =>
      rw [List.any_eq_true, or_iff_right nonempty]
      simp only [strings, ipAllowlistEntryMatches_iff]
  | null | bool | integer | decimal | string | object => simp [asArray]

/-! ## Request overrides -/

def enforceIpAllowlist (allowlist : JsonDocument) (clientIp : IpAddr) :
    Except GatewayApiError Unit :=
  if ipAllowlistAllows allowlist clientIp then .ok () else .error apiKeyIpForbidden

variable (policy : List (String × JsonDocument))

def isProfileIpAllowlistPolicy : Bool :=
  (((lookup "type" policy).or (lookup "kind" policy)).bind asStr).any fun policyType =>
    eqIgnoreAsciiCase policyType "profile_ip_allowlist" ||
      eqIgnoreAsciiCase policyType "ip_allowlist"

inductive ProfileIpAllowlistPolicy where
  | notConfigured
  | configured (allowlist : JsonDocument)
  | malformed

def policyFields : JsonDocument → Option (List (String × JsonDocument))
  | .object policy => if isProfileIpAllowlistPolicy policy then some policy else none
  | _ => none

def policyAllowlist : Option JsonDocument :=
  (lookup "ip_allowlist" policy).or (lookup "entries" policy)

/-- The loop over the overrides ends with the first one that is read as an allowlist. -/
def profileIpAllowlistPolicy (requestOverrides : JsonDocument) : ProfileIpAllowlistPolicy :=
  match requestOverrides.asArray with
  | none => .notConfigured
  | some overrides =>
    match overrides.findSome? policyFields with
    | none => .notConfigured
    | some policy =>
      match policyAllowlist policy with
      | some allowlist => .configured allowlist
      | none => .malformed

def enforceProfileIpAllowlist (requestOverrides : JsonDocument) (clientIp : IpAddr) :
    Except GatewayApiError Unit :=
  match profileIpAllowlistPolicy requestOverrides with
  | .notConfigured => .ok ()
  | .configured allowlist => enforceIpAllowlist allowlist clientIp
  | .malformed => .error apiKeyIpForbidden

def isEmptyJsonArray (value : JsonDocument) : Bool :=
  value.asArray.any List.isEmpty

def enforceAuthIpAllowlists (keyAllowlist : JsonDocument)
    (profileAllowlist profileRequestOverrides : Option JsonDocument) (clientIp : IpAddr) :
    Except GatewayApiError Unit := do
  enforceIpAllowlist keyAllowlist clientIp
  profileAllowlist.elim (.ok ()) fun allowlist =>
    if isEmptyJsonArray allowlist then .ok () else enforceIpAllowlist allowlist clientIp
  profileRequestOverrides.elim (.ok ()) (enforceProfileIpAllowlist · clientIp)

def NamesIpAllowlist : Prop :=
  ∃ name ∈ ["type", "kind"], ∃ text, lookup name policy = some (.string text) ∧
    (eqIgnoreAsciiCase text "profile_ip_allowlist" = true ∨
      eqIgnoreAsciiCase text "ip_allowlist" = true)

/-- The override has a list, and the list admits the address. -/
def Admits (clientIp : IpAddr) : Prop :=
  ∃ allowlist, policyAllowlist policy = some allowlist ∧ ipAllowlistAllows allowlist clientIp = true

/-- Authentication accepts an address only if every override that names an allowlist admits it. -/
def EnforcesOverrides (overrides : List JsonDocument) : Prop :=
  ∀ keyAllowlist profileAllowlist clientIp,
    enforceAuthIpAllowlists keyAllowlist profileAllowlist (some (.array overrides)) clientIp =
      .ok () →
    ∀ policy, .object policy ∈ overrides → NamesIpAllowlist policy → Admits policy clientIp

theorem enforceIpAllowlist_eq_ok {allowlist : JsonDocument} :
    enforceIpAllowlist allowlist clientIp = .ok () ↔
      ipAllowlistAllows allowlist clientIp = true := by
  simp [enforceIpAllowlist]

theorem enforceProfileIpAllowlist_eq_ok {overrides : List JsonDocument} :
    enforceProfileIpAllowlist (.array overrides) clientIp = .ok () ↔
      ∀ policy ∈ overrides.findSome? policyFields, Admits policy clientIp := by
  simp only [enforceProfileIpAllowlist, profileIpAllowlistPolicy, asArray, Option.mem_def]
  cases overrides.findSome? policyFields with
  | none => simp
  | some policy =>
    cases list : policyAllowlist policy with
    | none => simp [Admits, list]
    | some allowlist => simp [Admits, list, enforceIpAllowlist_eq_ok]

/-- Every override that names an allowlist is enforced exactly if it admits every address that the
first override which is read admits. -/
theorem ip_allowlist_overrides_enforced_iff (overrides : List JsonDocument) :
    EnforcesOverrides overrides ↔
      ∀ policy, .object policy ∈ overrides → NamesIpAllowlist policy → ∀ clientIp,
        (∀ first ∈ overrides.findSome? policyFields, Admits first clientIp) →
          Admits policy clientIp := by
  constructor
  · intro enforces policy member names clientIp first
    refine enforces (.array []) none clientIp ?_ policy member names
    exact bind_eq_ok.mpr ⟨(), rfl, enforceProfileIpAllowlist_eq_ok.mpr first⟩
  · intro included keyAllowlist profileAllowlist clientIp accepted policy member names
    obtain ⟨_, _, accepted⟩ := bind_eq_ok.mp accepted
    obtain ⟨_, _, accepted⟩ := bind_eq_ok.mp accepted
    exact included policy member names clientIp (enforceProfileIpAllowlist_eq_ok.mp accepted)

/-- An override for addresses of one network, behind one that admits all addresses. -/
def shadowedOverrides : List JsonDocument :=
  [.object [("type", .string "ip_allowlist"), ("ip_allowlist", .array [])],
    .object [("type", .string "ip_allowlist"), ("ip_allowlist", .array [.string "10.0.0.0/8"])]]

theorem second_ip_allowlist_ignored : ¬ EnforcesOverrides shadowedOverrides ∧
    enforceAuthIpAllowlists (.array []) none (some (.array shadowedOverrides))
      (.v4 ⟨192, 0, 2, 1⟩) = .ok () := by
  have accepted : enforceAuthIpAllowlists (.array []) none (some (.array shadowedOverrides))
      (.v4 ⟨192, 0, 2, 1⟩) = .ok () := rfl
  refine ⟨fun enforces => ?_, accepted⟩
  obtain ⟨allowlist, given, allows⟩ := enforces _ _ _ accepted
    [("type", .string "ip_allowlist"), ("ip_allowlist", .array [.string "10.0.0.0/8"])]
    (by simp [shadowedOverrides])
    ⟨"type", by simp, "ip_allowlist", rfl, .inr (by decide)⟩
  cases given
  exact absurd allows (by decide +kernel)

/-! ## The address of the client -/

structure HeaderValue where
  bytes : Bytes

/-- The text of a value, if all its bytes are visible ASCII characters or tabs. -/
def HeaderValue.toStr (value : HeaderValue) : Option (List Char) :=
  if value.bytes.all (fun byte => (32 ≤ byte && byte < 127) || byte = 9) then
    some (value.bytes.map fun byte => Char.ofNat byte.toNat)
  else none

structure HeaderMap where
  xForwardedFor : List HeaderValue
  xRealIp : List HeaderValue

inductive IpAllowlistEntry where
  | single (address : IpAddr)
  | cidr (network : IpAddr) (prefixLen : Nat)

def validPrefixLen : (network : IpAddr) → (prefixLen : Nat) → Bool
  | .v4 _, prefixLen => prefixLen ≤ 32
  | .v6 _, prefixLen => prefixLen ≤ 128

def IpAllowlistEntry.isMatch : IpAllowlistEntry → (clientIp : IpAddr) → Bool
  | single allowedIp, clientIp => allowedIp = clientIp
  | cidr (.v4 network) prefixLen, .v4 client =>
    samePrefix network.octets client.octets prefixLen
  | cidr (.v6 network) prefixLen, .v6 client =>
    samePrefix network.octets client.octets prefixLen
  | cidr _ _, _ => false

def parseIpAllowlistEntry (entry : String) : Option IpAllowlistEntry :=
  let entry := trim entry.toList
  if entry.isEmpty then none
  else
    match splitOnce '/' entry with
    | some (network, prefixLen) => do
        let network ← parseIpAddr (trim network)
        let prefixLen ← parseUnsigned 8 (trim prefixLen)
        if validPrefixLen network prefixLen then some (.cidr network prefixLen) else none
    | none => (parseIpAddr entry).map .single

def ipAllowlistContains (entries : List String) (clientIp : IpAddr) : Bool :=
  entries.any fun entry => (parseIpAllowlistEntry entry).any (·.isMatch clientIp)

/-- One part of the header: the first address is kept. -/
def forwardedPart (firstIp : Option IpAddr) (part : List Char) :
    Except GatewayApiError (Option IpAddr) :=
  let part := trim part
  if part.isEmpty then .error (invalidForwardedClientIpHeader "x-forwarded-for")
  else do
    let ip ← okOr (invalidForwardedClientIpHeader "x-forwarded-for") (parseIpAddr part)
    return firstIp.or (some ip)

def forwardedValue (firstIp : Option IpAddr) (value : HeaderValue) :
    Except GatewayApiError (Option IpAddr) := do
  let text ← okOr (invalidForwardedClientIpHeader "x-forwarded-for") value.toStr
  (text.splitOn ',').foldlM forwardedPart firstIp

def xForwardedForClientIp (headers : HeaderMap) : Except GatewayApiError IpAddr := do
  let firstIp ← headers.xForwardedFor.foldlM forwardedValue none
  okOr (invalidForwardedClientIpHeader "x-forwarded-for") firstIp

def xRealIpClientIp (headers : HeaderMap) : Except GatewayApiError IpAddr :=
  match headers.xRealIp with
  | [value] => do
      let text ← okOr (invalidForwardedClientIpHeader "x-real-ip") value.toStr
      if (trim text).isEmpty then .error (invalidForwardedClientIpHeader "x-real-ip")
      else okOr (invalidForwardedClientIpHeader "x-real-ip") (parseIpAddr (trim text))
  | _ => .error (invalidForwardedClientIpHeader "x-real-ip")

def clientIpForAuth (headers : HeaderMap) (peerIp : IpAddr) (trustedProxyAllowlist : List String) :
    Except GatewayApiError IpAddr :=
  if trustedProxyAllowlist.isEmpty || !ipAllowlistContains trustedProxyAllowlist peerIp then
    .ok peerIp
  else if !headers.xForwardedFor.isEmpty then xForwardedForClientIp headers
  else if !headers.xRealIp.isEmpty then xRealIpClientIp headers
  else .ok peerIp

/-- The texts between the commas of a value. -/
def HeaderValue.parts (value : HeaderValue) : List (List Char) :=
  value.toStr.elim [] (List.splitOn ',')

def HeaderValue.MadeOfAddresses (value : HeaderValue) : Prop :=
  value.toStr.isSome = true ∧ ∀ part ∈ value.parts, (parseIpAddr (trim part)).isSome = true

def leftmost (values : List HeaderValue) : Option IpAddr :=
  (values.flatMap HeaderValue.parts).head?.bind fun part => parseIpAddr (trim part)

/-- What a proxy sends for the values that the client has sent: it adds the address of the client
as a value of its own, or behind a comma to the last value. -/
inductive Forwards (trueIp : IpAddr) : (supplied sent : List HeaderValue) → Prop
  | ownValue {supplied : List HeaderValue} {added : HeaderValue} {text : List Char}
      (read : added.toStr = some text) (noComma : ',' ∉ text)
      (parsed : parseIpAddr (trim text) = some trueIp) :
      Forwards trueIp supplied (supplied ++ [added])
  | lastValue {earlier : List HeaderValue} {last added : HeaderValue} {text : List Char}
      (read : added.toStr = some text) (noComma : ',' ∉ text)
      (parsed : parseIpAddr (trim text) = some trueIp) :
      Forwards trueIp (earlier ++ [last]) (earlier ++ [⟨last.bytes ++ 0x2C :: added.bytes⟩])

theorem foldlM_forwardedPart {parts : List (List Char)}
    (addresses : ∀ part ∈ parts, (parseIpAddr (trim part)).isSome = true)
    (firstIp : Option IpAddr) : parts.foldlM forwardedPart firstIp =
      .ok (firstIp.or (parts.head?.bind fun part => parseIpAddr (trim part))) := by
  induction parts generalizing firstIp with
  | nil => simp [pure, Except.pure]
  | cons part rest ih =>
    obtain ⟨isSome, restAddresses⟩ := List.forall_mem_cons.mp addresses
    obtain ⟨ip, parsed⟩ := Option.isSome_iff_exists.mp isSome
    have nonempty : (trim part).isEmpty = false := by
      rw [List.isEmpty_eq_false_iff]
      intro empty
      rw [empty, parseIpAddr_nil] at parsed
      cases parsed
    have kept : forwardedPart firstIp part = .ok (firstIp.or (some ip)) := by
      simp [forwardedPart, nonempty, parsed, okOr, pure, Except.pure, bind, Except.bind]
    rw [List.foldlM_cons, kept]
    refine (ih restAddresses _).trans ?_
    cases firstIp <;> simp [parsed]

theorem foldlM_forwardedValue {values : List HeaderValue}
    (texts : ∀ value ∈ values, value.toStr.isSome = true) (firstIp : Option IpAddr) :
    values.foldlM forwardedValue firstIp =
      (values.flatMap HeaderValue.parts).foldlM forwardedPart firstIp := by
  induction values generalizing firstIp with
  | nil => rfl
  | cons value rest ih =>
    obtain ⟨isSome, restTexts⟩ := List.forall_mem_cons.mp texts
    obtain ⟨text, read⟩ := Option.isSome_iff_exists.mp isSome
    have one : forwardedValue firstIp value = value.parts.foldlM forwardedPart firstIp := by
      rw [forwardedValue, HeaderValue.parts, read]
      rfl
    rw [List.foldlM_cons, List.flatMap_cons, List.foldlM_append, one]
    exact congrArg _ (funext fun ip => ih restTexts ip)

variable {trueIp proxyIp : IpAddr} {trustedProxyAllowlist : List String}
  {supplied sent values realIp : List HeaderValue}

theorem clientIpForAuth_of_addresses
    (trusted : ipAllowlistContains trustedProxyAllowlist proxyIp = true) (nonempty : values ≠ [])
    (addresses : ∀ value ∈ values, value.MadeOfAddresses) :
    clientIpForAuth ⟨values, realIp⟩ proxyIp trustedProxyAllowlist =
      okOr (invalidForwardedClientIpHeader "x-forwarded-for") (leftmost values) := by
  have entries : trustedProxyAllowlist.isEmpty = false := by
    rw [List.isEmpty_eq_false_iff]
    rintro rfl
    cases trusted
  have parts : ∀ part ∈ values.flatMap HeaderValue.parts,
      (parseIpAddr (trim part)).isSome = true := by
    intro part member
    obtain ⟨value, valueMem, partMem⟩ := List.mem_flatMap.mp member
    exact (addresses value valueMem).2 part partMem
  simp only [clientIpForAuth, entries, trusted, List.isEmpty_eq_false_iff.mpr nonempty,
    Bool.not_true, Bool.or_self, Bool.false_eq_true, if_false, Bool.not_false, if_true,
    xForwardedForClientIp, foldlM_forwardedValue fun value member => (addresses value member).1,
    foldlM_forwardedPart parts]
  rfl

theorem toStr_append_comma {last added : HeaderValue} {lastText text : List Char}
    (lastRead : last.toStr = some lastText) (read : added.toStr = some text) :
    (⟨last.bytes ++ 0x2C :: added.bytes⟩ : HeaderValue).toStr = some (lastText ++ ',' :: text) := by
  obtain ⟨lastVisible, lastSame⟩ := Option.ite_none_right_eq_some.mp lastRead
  obtain ⟨visible, same⟩ := Option.ite_none_right_eq_some.mp read
  have comma : ((32 : UInt8) ≤ 0x2C && (0x2C : UInt8) < 127 || decide ((0x2C : UInt8) = 9)) =
      true := by
    decide
  rw [HeaderValue.toStr, List.all_append, List.all_cons, lastVisible, visible, comma,
    List.map_append, List.map_cons, Option.some.inj lastSame, Option.some.inj same]
  rfl

/-- A proxy adds one part behind those of the client. -/
theorem Forwards.parts_eq (forwards : Forwards trueIp supplied sent)
    (addresses : ∀ value ∈ supplied, value.MadeOfAddresses) :
    (∀ value ∈ sent, value.MadeOfAddresses) ∧ ∃ text, parseIpAddr (trim text) = some trueIp ∧
      sent.flatMap HeaderValue.parts = supplied.flatMap HeaderValue.parts ++ [text] := by
  cases forwards with
  | @ownValue _ added text read noComma parsed =>
    have parts : added.parts = [text] := by
      rw [HeaderValue.parts, read]
      exact DecimalText.splitOn_eq_singleton noComma
    refine ⟨?_, text, parsed, by simp [parts]⟩
    simp only [List.mem_append, List.mem_singleton]
    rintro value (earlier | rfl)
    · exact addresses value earlier
    · exact ⟨by simp [read], by simp [parts, parsed]⟩
  | @lastValue earlier last added text read noComma parsed =>
    obtain ⟨lastSome, lastAddresses⟩ := addresses last (by simp)
    obtain ⟨lastText, lastRead⟩ := Option.isSome_iff_exists.mp lastSome
    have joined := toStr_append_comma lastRead read
    have parts : (⟨last.bytes ++ 0x2C :: added.bytes⟩ : HeaderValue).parts =
        last.parts ++ [text] := by
      rw [HeaderValue.parts, joined, HeaderValue.parts, lastRead]
      refine (List.splitOnP_append_cons _ _ (by simp)).trans ?_
      exact congrArg _ (DecimalText.splitOn_eq_singleton noComma)
    refine ⟨?_, text, parsed, by simp [parts]⟩
    simp only [List.mem_append, List.mem_singleton]
    rintro value (before | rfl)
    · exact addresses value (by simp [before])
    · refine ⟨by simp [joined], ?_⟩
      rw [parts]
      simpa [or_imp, forall_and, parsed] using lastAddresses

theorem clientIpForAuth_forwarded
    (trusted : ipAllowlistContains trustedProxyAllowlist proxyIp = true)
    (addresses : ∀ value ∈ supplied, value.MadeOfAddresses)
    (forwards : Forwards trueIp supplied sent) :
    clientIpForAuth ⟨sent, realIp⟩ proxyIp trustedProxyAllowlist =
      .ok ((leftmost supplied).getD trueIp) := by
  obtain ⟨sentAddresses, text, parsed, parts⟩ := forwards.parts_eq addresses
  have nonempty : sent ≠ [] := by
    rintro rfl
    simp at parts
  have first : leftmost sent = some ((leftmost supplied).getD trueIp) := by
    rw [leftmost, parts, leftmost]
    cases suppliedParts : supplied.flatMap HeaderValue.parts with
    | nil => simp [parsed]
    | cons part rest =>
      have member : part ∈ supplied.flatMap HeaderValue.parts := by simp [suppliedParts]
      obtain ⟨value, valueMem, partMem⟩ := List.mem_flatMap.mp member
      obtain ⟨ip, read⟩ := Option.isSome_iff_exists.mp ((addresses value valueMem).2 part partMem)
      simp [read]
  rw [clientIpForAuth_of_addresses trusted nonempty sentAddresses, first]
  rfl

/-- Behind a trusted proxy, the address of the client is the one without what the client has
supplied exactly if the client has supplied nothing or its own address first. -/
theorem client_ip_independent_iff (trustedProxyAllowlist : List String) (proxyIp trueIp : IpAddr)
    (trusted : ipAllowlistContains trustedProxyAllowlist proxyIp = true)
    (supplied sent plain realIp : List HeaderValue)
    (addresses : ∀ value ∈ supplied, value.MadeOfAddresses)
    (forwards : Forwards trueIp supplied sent) (alone : Forwards trueIp [] plain) :
    clientIpForAuth ⟨sent, realIp⟩ proxyIp trustedProxyAllowlist =
        clientIpForAuth ⟨plain, realIp⟩ proxyIp trustedProxyAllowlist ↔
      ∀ ip ∈ leftmost supplied, ip = trueIp := by
  rw [clientIpForAuth_forwarded trusted addresses forwards,
    clientIpForAuth_forwarded trusted (by simp) alone]
  cases leftmost supplied <;> simp [leftmost]

def visibleText (text : String) : HeaderValue :=
  ⟨text.toList.map fun char => UInt8.ofNat char.toNat⟩

theorem forwards_ownValue (supplied : List HeaderValue) :
    Forwards (.v4 ⟨192, 0, 2, 1⟩) supplied (supplied ++ [visibleText "192.0.2.1"]) :=
  .ownValue (by decide +kernel) (by decide +kernel : ',' ∉ "192.0.2.1".toList) (by decide +kernel)

/-- A client at 192.0.2.1 that claims to be at 10.0.0.7, behind the proxy 10.1.1.1. -/
theorem forged_client_ip_used : ipAllowlistContains ["10.1.0.0/16"] (.v4 ⟨10, 1, 1, 1⟩) = true ∧
      (visibleText "10.0.0.7").MadeOfAddresses ∧
      Forwards (.v4 ⟨192, 0, 2, 1⟩) [visibleText "10.0.0.7"]
        [visibleText "10.0.0.7", visibleText "192.0.2.1"] ∧
      clientIpForAuth ⟨[visibleText "10.0.0.7", visibleText "192.0.2.1"], []⟩ (.v4 ⟨10, 1, 1, 1⟩)
        ["10.1.0.0/16"] = .ok (.v4 ⟨10, 0, 0, 7⟩) ∧
      clientIpForAuth ⟨[visibleText "192.0.2.1"], []⟩ (.v4 ⟨10, 1, 1, 1⟩) ["10.1.0.0/16"] =
        .ok (.v4 ⟨192, 0, 2, 1⟩) := by
  exact ⟨by decide +kernel, ⟨by decide +kernel, by decide +kernel⟩,
    forwards_ownValue [visibleText "10.0.0.7"], by decide +kernel, by decide +kernel⟩

/-- A client that supplies its own address and then another one. -/
theorem client_ip_independent_iff_ownFirst : (visibleText "192.0.2.1, 10.0.0.7").MadeOfAddresses ∧
      clientIpForAuth ⟨[visibleText "192.0.2.1, 10.0.0.7", visibleText "192.0.2.1"], []⟩
          (.v4 ⟨10, 1, 1, 1⟩) ["10.1.0.0/16"] =
        clientIpForAuth ⟨[visibleText "192.0.2.1"], []⟩ (.v4 ⟨10, 1, 1, 1⟩) ["10.1.0.0/16"] := by
  have addresses : (visibleText "192.0.2.1, 10.0.0.7").MadeOfAddresses :=
    ⟨by decide +kernel, by decide +kernel⟩
  exact ⟨addresses, (client_ip_independent_iff ["10.1.0.0/16"] _ _ (by decide +kernel)
    [visibleText "192.0.2.1, 10.0.0.7"] _ _ [] (by simpa using addresses) (forwards_ownValue _)
    (forwards_ownValue [])).mpr (by decide +kernel)⟩

end FuboxApi.IpAllowlists
