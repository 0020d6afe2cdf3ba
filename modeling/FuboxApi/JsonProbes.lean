import FuboxApi.StreamProtocols

/-!
# What the scanners of an event find in a JSON text

The scanners look for a key in the bytes of an event without parsing them. The texts of JSON are
described by their grammar, with the members of all objects in order; a member is what is written.
-/

namespace FuboxApi.JsonProbes

def IsWs (text : Bytes) : Prop :=
  ∀ byte ∈ text, byte ∈ [0x20, 0x09, 0x0A, 0x0D]

/-- What stands between the quotation marks of a string. -/
inductive Spelling : Bytes → Prop
  | nil : Spelling []
  | plain {byte rest} : byte ≠ quotationMark → byte ≠ reverseSolidus → 0x20 ≤ byte →
      Spelling rest → Spelling (byte :: rest)
  | escape {byte rest} : byte ∈ asciiBytes "\"\\/bfnrtu" → Spelling rest →
      Spelling (reverseSolidus :: byte :: rest)

def quoted (spelling : Bytes) : Bytes :=
  quotationMark :: (spelling ++ [quotationMark])

/-- A literal or a number, which is told by its first byte. -/
def IsScalar (text : Bytes) : Prop :=
  text ∈ ["true", "false", "null"].map asciiBytes ∨
    ∃ first rest, text = first :: rest ∧ first ∈ asciiBytes "-0123456789" ∧
      ∀ byte ∈ rest, byte ∈ asciiBytes "-+.eE0123456789"

inductive Bracket where
  | array
  | object

def Bracket.opening : Bracket → UInt8
  | array => 0x5B
  | object => 0x7B

def Bracket.closing : Bracket → UInt8
  | array => 0x5D
  | object => 0x7D

/-- A separator with white space on both sides. -/
def IsSeparator (byte : UInt8) (text : Bytes) : Prop :=
  ∃ before after, IsWs before ∧ IsWs after ∧ text = before ++ byte :: after

@[ext]
structure JsonMember where
  key : Bytes
  value : Bytes

/-- The texts of values, and with a bracket those of the elements inside it, with the members
that they have. -/
inductive Written : Option Bracket → Bytes → List JsonMember → Prop
  | scalar {text} : IsScalar text → Written none text []
  | string {spelling} : Spelling spelling → Written none (quoted spelling) []
  | empty (bracket : Bracket) {space} : IsWs space →
      Written none (bracket.opening :: (space ++ [bracket.closing])) []
  | brackets {bracket before text after members} : IsWs before → IsWs after →
      Written (some bracket) text members →
      Written none (bracket.opening :: (before ++ (text ++ (after ++ [bracket.closing])))) members
  | item {text members} : Written none text members → Written (some .array) text members
  | member {key separator text members} : Spelling key → IsSeparator colon separator →
      Written none text members →
      Written (some .object) (quoted key ++ (separator ++ text)) (⟨key, text⟩ :: members)
  | comma {bracket first separator second firstMembers secondMembers} :
      Written (some bracket) first firstMembers → IsSeparator 0x2C separator →
      Written (some bracket) second secondMembers →
      Written (some bracket) (first ++ (separator ++ second)) (firstMembers ++ secondMembers)

def IsJson (text : Bytes) (members : List JsonMember) : Prop :=
  ∃ before value after, IsWs before ∧ IsWs after ∧ Written none value members ∧
    text = before ++ (value ++ after)

def nullText : Bytes :=
  asciiBytes "null"

/-- The first byte tells that a value is no string and whether it is null. -/
def ToldByFirst (text : Bytes) : Prop :=
  ∃ first rest, text = first :: rest ∧ first ≠ quotationMark ∧
    RustText.isAsciiWhitespace first = false ∧
    (first ∈ asciiBytes "\x7b[tf-0123456789" ↔ text ≠ nullText)

theorem toldByFirst_cons {first : UInt8} (starts : first ∈ asciiBytes "\x7b[-0123456789")
    (rest : Bytes) : ToldByFirst (first :: rest) := by
  have facts : ∀ first ∈ asciiBytes "\x7b[-0123456789", first ≠ quotationMark ∧
      RustText.isAsciiWhitespace first = false ∧ first ∈ asciiBytes "\x7b[tf-0123456789" ∧
      first ≠ 0x6E := by decide +kernel
  obtain ⟨unquoted, solid, marked, notN⟩ := facts first starts
  exact ⟨first, rest, rfl, unquoted, solid,
    iff_of_true marked fun isNull => notN (List.cons.inj isNull).1⟩

theorem Written.head {text : Bytes} {members : List JsonMember}
    (written : Written none text members) :
    (∃ spelling, Spelling spelling ∧ text = quoted spelling) ∨ ToldByFirst text := by
  cases written with
  | string spelled => exact .inl ⟨_, spelled, rfl⟩
  | empty bracket | brackets => exact .inr (toldByFirst_cons (by cases ‹Bracket› <;> decide) _)
  | scalar isScalar =>
    rcases isScalar with literal | ⟨first, rest, rfl, number, -⟩
    · simp only [List.map_cons, List.map_nil, List.mem_cons, List.not_mem_nil, or_false] at literal
      rcases literal with rfl | rfl | rfl <;> exact .inr ⟨_, _, rfl, by decide⟩
    · exact .inr (toldByFirst_cons (List.mem_cons_of_mem _ (List.mem_cons_of_mem _ number)) rest)

/-! ## Strings and white space -/

section

variable {key text rest spelling : Bytes} {decides judge : Bytes → Option Bool}
  {members : List JsonMember}

theorem jsonStringMatches_spelling {expected : Bytes} (spelled : Spelling spelling)
    (plain : reverseSolidus ∉ expected) (rest : Bytes) (index : Nat) (isMatch : Bool)
    (within : isMatch → index ≤ expected.length) :
    jsonStringMatches expected index isMatch (spelling ++ quotationMark :: rest) =
      some (isMatch && expected.drop index = spelling, rest) := by
  induction spelled generalizing index isMatch with
  | nil =>
    have distinct : quotationMark ≠ reverseSolidus := by decide
    rw [List.nil_append, jsonStringMatches.eq_def]
    simp [distinct]
    grind
  | @plain byte tail byteNe byteNe' _ _ ih =>
    rw [List.cons_append, jsonStringMatches.eq_def]
    simp only [byteNe', byteNe, if_false]
    by_cases inside : index < expected.length
    · rw [ih _ _ fun _ => inside, List.drop_eq_getElem_cons inside, List.getElem?_eq_getElem inside]
      simp only [Option.some.injEq, List.cons.injEq, Bool.and_assoc, Bool.decide_and]
    · have past := Nat.le_of_not_lt inside
      rw [ih _ _ (by simp [past])]
      simp [past, List.drop_eq_nil_of_le past]
  | @escape byte tail _ _ ih =>
    have escaped : expected.drop index ≠ reverseSolidus :: byte :: tail :=
      fun dropped => plain (List.mem_of_mem_drop (dropped ▸ List.mem_cons_self))
    rw [List.cons_append, List.cons_append, jsonStringMatches.eq_def]
    simp [ih, escaped]

theorem jsonStringIsClosed_spelling (spelled : Spelling spelling) :
    jsonStringIsClosed (spelling ++ quotationMark :: rest) = true := by
  induction spelled with
  | nil =>
    rw [List.nil_append, jsonStringIsClosed.eq_def]
    simp [show quotationMark ≠ reverseSolidus by decide]
  | plain byteNe byteNe' _ _ ih =>
    rw [List.cons_append, jsonStringIsClosed.eq_def]
    simp [byteNe', ih]
  | escape _ _ ih =>
    rw [List.cons_append, jsonStringIsClosed.eq_def]
    simp [ih]

theorem scanForKey_quoted (spelled : Spelling spelling) (plain : reverseSolidus ∉ key) :
    scanForKey key decides (quoted spelling ++ rest) =
      (if spelling = key then decides rest else none).getD (scanForKey key decides rest) := by
  have matched := jsonStringMatches_spelling spelled plain rest 0 true fun _ => Nat.zero_le _
  rw [quoted, List.cons_append, List.append_assoc, scanForKey, if_pos rfl]
  split
  · next missing => simp [matched] at missing
  · next keyMatches stringEnd found =>
    simp [matched] at found
    simp [← found.1, ← found.2, eq_comm]

theorem scanForKey_cons {byte : UInt8} (unquoted : byte ≠ quotationMark) :
    scanForKey key decides (byte :: rest) = scanForKey key decides rest := by
  rw [scanForKey, if_neg unquoted]

theorem scanForKey_skip (unquoted : quotationMark ∉ text) :
    scanForKey key decides (text ++ rest) = scanForKey key decides rest := by
  induction text with
  | nil => rfl
  | cons byte text ih =>
    simp only [List.mem_cons, not_or] at unquoted
    rw [List.cons_append, scanForKey_cons (Ne.symm unquoted.1), ih unquoted.2]

theorem IsScalar.unquoted (isScalar : IsScalar text) : quotationMark ∉ text := by
  rcases isScalar with literal | ⟨first, rest, rfl, number, digits⟩
  · revert text
    decide
  · simp only [List.mem_cons, not_or]
    exact ⟨fun isFirst => absurd (isFirst ▸ number) (by decide),
      fun mem => absurd (digits _ mem) (by decide)⟩

theorem IsWs.scanForKey_append (isWs : IsWs text) :
    scanForKey key decides (text ++ rest) = scanForKey key decides rest :=
  scanForKey_skip fun mem => absurd (isWs _ mem) (by decide)

theorem IsWs.skipJsonWs_append (isWs : IsWs text) :
    skipJsonWs (text ++ rest) = skipJsonWs rest := by
  have white : ∀ byte : UInt8, byte ∈ [0x20, 0x09, 0x0A, 0x0D] →
      RustText.isAsciiWhitespace byte = true := by decide +kernel
  exact List.dropWhile_append_of_pos fun byte mem => white byte (isWs byte mem)

theorem IsWs.behindColon_append (isWs : IsWs text) :
    behindColon (text ++ rest) = behindColon rest := by
  rw [behindColon, isWs.skipJsonWs_append, ← behindColon]

/-- A value never begins with white space. -/
theorem Written.skipJsonWs_append (written : Written none text members) :
    skipJsonWs (text ++ rest) = text ++ rest := by
  obtain ⟨spelling, -, rfl⟩ | ⟨first, others, rfl, -, solid, -⟩ := written.head
  · rfl
  · simp [skipJsonWs, solid]

theorem IsSeparator.scanForKey_append {byte : UInt8} (isSeparator : IsSeparator byte text)
    (unquoted : byte ≠ quotationMark) :
    scanForKey key decides (text ++ rest) = scanForKey key decides rest := by
  obtain ⟨before, after, beforeWs, afterWs, rfl⟩ := isSeparator
  rw [List.append_assoc, beforeWs.scanForKey_append, List.cons_append, scanForKey_cons unquoted,
    afterWs.scanForKey_append]

/-! ## Scanning a text -/

/-- What a scanner makes of a key depends only on the value behind it, if there is one. -/
structure Judges (decides judge : Bytes → Option Bool) : Prop where
  skips {input} : behindColon input = none → decides input = none
  reads {input text members rest} : Written none text members →
    behindColon input = some (text ++ rest) → decides input = judge text

def JsonMember.verdict (key : Bytes) (judge : Bytes → Option Bool) (member : JsonMember) :
    Option Bool :=
  if member.key = key then judge member.value else none

theorem scanForKey_written {bracket : Option Bracket} (written : Written bracket text members)
    (judges : Judges decides judge) (plain : reverseSolidus ∉ key) (rest : Bytes)
    (ends : behindColon rest = none) : scanForKey key decides (text ++ rest) =
      (members.findSome? (·.verdict key judge)).getD (scanForKey key decides rest) := by
  induction written generalizing rest with
  | scalar isScalar => exact scanForKey_skip isScalar.unquoted
  | string spelled =>
    rw [scanForKey_quoted spelled plain, judges.skips ends, ite_self]
    rfl
  | empty bracket isWs =>
    cases bracket <;> rw [List.cons_append, scanForKey_cons (by decide), List.append_assoc,
      isWs.scanForKey_append] <;> exact scanForKey_cons (by decide)
  | @brackets bracket before text after members beforeWs afterWs _ ih =>
    have opening : bracket.opening ≠ quotationMark := by cases bracket <;> decide
    have closing : bracket.closing ≠ quotationMark := by cases bracket <;> decide
    have closes : behindColon (after ++ bracket.closing :: rest) = none := by
      rw [afterWs.behindColon_append]
      cases bracket <;> rfl
    simp only [List.cons_append, List.append_assoc, List.nil_append]
    rw [scanForKey_cons opening, beforeWs.scanForKey_append, ih _ closes,
      afterWs.scanForKey_append, scanForKey_cons closing]
  | item _ ih => exact ih rest ends
  | @member spelling separator text members spelled separates written ih =>
    have behind : behindColon (separator ++ (text ++ rest)) = some (text ++ rest) := by
      obtain ⟨before, after, beforeWs, afterWs, rfl⟩ := separates
      rw [List.append_assoc, beforeWs.behindColon_append]
      exact congrArg some (afterWs.skipJsonWs_append.trans written.skipJsonWs_append)
    rw [List.append_assoc, List.append_assoc, scanForKey_quoted spelled plain,
      judges.reads written behind, separates.scanForKey_append (by decide), ih rest ends,
      List.findSome?_cons]
    cases verdict : JsonMember.verdict key judge ⟨spelling, text⟩ <;>
      simp_all [JsonMember.verdict]
  | @comma bracket first separator second _ _ _ separates _ firstIh secondIh =>
    have behind : behindColon (separator ++ (second ++ rest)) = none := by
      obtain ⟨before, after, beforeWs, -, rfl⟩ := separates
      rw [List.append_assoc, beforeWs.behindColon_append]
      rfl
    rw [List.append_assoc, List.append_assoc, firstIh _ behind,
      separates.scanForKey_append (by decide), secondIh rest ends, List.findSome?_append,
      Option.getD_or]

theorem scanForKey_json (isJson : IsJson text members) (judges : Judges decides judge)
    (plain : reverseSolidus ∉ key) :
    scanForKey key decides text = (members.findSome? (·.verdict key judge)).getD false := by
  obtain ⟨before, value, after, beforeWs, afterWs, written, rfl⟩ := isJson
  have ends : behindColon after = none := by
    rw [← List.append_nil after, afterWs.behindColon_append]
    rfl
  rw [beforeWs.scanForKey_append, scanForKey_written written judges plain after ends,
    ← List.append_nil after, afterWs.scanForKey_append, scanForKey]

theorem judges_stringValue {value : Bytes} (plain : reverseSolidus ∉ value) :
    Judges (stringValueDecides value)
      fun text => if text = quoted value then some true else none where
  skips {input} unvalued := by rw [stringValueDecides, unvalued]
  reads {input text members rest} written valued := by
    rw [stringValueDecides, valued]
    obtain ⟨spelling, spelled, rfl⟩ | ⟨first, others, rfl, unquoted, -⟩ := written.head
    · have matched := jsonStringMatches_spelling spelled plain rest 0 true fun _ => Nat.zero_le _
      by_cases same : value = spelling <;> simp_all [quoted, eq_comm]
    · simp [quoted, unquoted]

theorem judges_nonNull : Judges nonNullValueDecides fun text => some (text ≠ nullText) where
  skips {input} unvalued := by rw [nonNullValueDecides, unvalued, Option.map_none]
  reads {input text members rest} written valued := by
    rw [nonNullValueDecides, valued, Option.map_some]
    obtain ⟨spelling, spelled, rfl⟩ | ⟨first, others, rfl, unquoted, -, marked⟩ := written.head
    · have closed : jsonStringIsClosed (spelling ++ quotationMark :: rest) = true :=
        jsonStringIsClosed_spelling spelled
      have notNull : quoted spelling ≠ nullText :=
        fun isNull => absurd (List.cons.inj isNull).1 (by decide)
      simp_all [quoted, jsonValueIsNonNull]
    · simp [jsonValueIsNonNull, unquoted, marked]

/-- The scanner for a string goes on after a member that it does not accept. -/
theorem scanForKey_stringValue_iff {value : Bytes} (isJson : IsJson text members)
    (plainKey : reverseSolidus ∉ key) (plainValue : reverseSolidus ∉ value) :
    scanForKey key (stringValueDecides value) text = true ↔ ⟨key, quoted value⟩ ∈ members := by
  rw [scanForKey_json isJson (judges_stringValue plainValue) plainKey]
  clear isJson
  induction members with
  | nil => simp
  | cons member members ih =>
    have same : ⟨key, quoted value⟩ = member ↔ member.key = key ∧ member.value = quoted value := by
      rw [eq_comm, JsonMember.ext_iff]
    by_cases isKey : member.key = key <;> by_cases isValue : member.value = quoted value <;>
      simp_all [JsonMember.verdict]

/-- The scanner for a value tells about the first member with the key alone. -/
theorem scanForKey_nonNullValue_iff (isJson : IsJson text members)
    (plainKey : reverseSolidus ∉ key) :
    scanForKey key nonNullValueDecides text = true ↔
      ∃ member, members.find? (·.key = key) = some member ∧ member.value ≠ nullText := by
  rw [scanForKey_json isJson judges_nonNull plainKey]
  clear isJson
  induction members with
  | nil => simp
  | cons member members ih => by_cases isKey : member.key = key <;> simp_all [JsonMember.verdict]

end

/-- Some member has the key and the string, as they are decoded. -/
def HasString (unescape : Bytes → Bytes) (key value : Bytes) (members : List JsonMember) : Prop :=
  ∃ member ∈ members, unescape member.key = key ∧
    ∃ spelling, member.value = quoted spelling ∧ unescape spelling = value

/-- Some member has the key, as it is decoded, and is not null. -/
def HasNonNull (unescape : Bytes → Bytes) (key : Bytes) (members : List JsonMember) : Prop :=
  ∃ member ∈ members, unescape member.key = key ∧ member.value ≠ nullText

/-- For every JSON text and every key and value without escapes: the two scanners find what stands
in the text if and only if a key with the value that stands there also stands there without escapes,
and, where a member with the key is not null, the first one that spells the key without escapes is
not. -/
theorem probes_agree_with_json_iff (unescape : Bytes → Bytes)
    (unescapes : ∀ spelling, reverseSolidus ∉ spelling → unescape spelling = spelling)
    (text key value : Bytes) (members : List JsonMember) (isJson : IsJson text members)
    (plainKey : reverseSolidus ∉ key) (plainValue : reverseSolidus ∉ value) :
    ((scanForKey key (stringValueDecides value) text = true ↔
        HasString unescape key value members) ∧
      (scanForKey key nonNullValueDecides text = true ↔ HasNonNull unescape key members)) ↔
    (HasString unescape key value members → ⟨key, quoted value⟩ ∈ members) ∧
      (HasNonNull unescape key members →
        ∃ member, members.find? (·.key = key) = some member ∧ member.value ≠ nullText) := by
  rw [scanForKey_stringValue_iff isJson plainKey plainValue,
    scanForKey_nonNullValue_iff isJson plainKey]
  -- What is spelled without escapes is what it decodes to, so only one direction can fail.
  have spelled (mem : ⟨key, quoted value⟩ ∈ members) : HasString unescape key value members :=
    ⟨_, mem, unescapes _ plainKey, value, rfl, unescapes _ plainValue⟩
  have found : (∃ member, members.find? (·.key = key) = some member ∧ member.value ≠ nullText) →
      HasNonNull unescape key members := by
    rintro ⟨member, isFirst, notNull⟩
    have isKey : member.key = key := by simpa using List.find?_some isFirst
    exact ⟨member, List.mem_of_find?_eq_some isFirst, isKey ▸ unescapes _ (isKey ▸ plainKey),
      notNull⟩
  exact and_congr ⟨Iff.mpr, fun plainly => ⟨spelled, plainly⟩⟩
    ⟨Iff.mpr, fun first => ⟨found, first⟩⟩

/-! ## Texts without white space -/

def memberText (key value : Bytes) : Bytes :=
  quoted key ++ ([colon] ++ value)

def pairText (first second : Bytes) : Bytes :=
  first ++ ([0x2C] ++ second)

def objectText (elements : Bytes) : Bytes :=
  0x7B :: (elements ++ [0x7D])

section

variable {key text first second : Bytes} {members firstMembers secondMembers : List JsonMember}

theorem Spelling.of_plain (plain : ∀ byte ∈ text,
    byte ≠ quotationMark ∧ byte ≠ reverseSolidus ∧ 0x20 ≤ byte) : Spelling text := by
  induction text with
  | nil => exact .nil
  | cons byte rest ih =>
    obtain ⟨⟨unquoted, unescaped, visible⟩, plain⟩ := List.forall_mem_cons.mp plain
    exact .plain unquoted unescaped visible (ih plain)

theorem isSeparator_singleton (byte : UInt8) : IsSeparator byte [byte] :=
  ⟨[], [], nofun, nofun, rfl⟩

theorem Written.memberText (spelled : Spelling key) (written : Written none text members) :
    Written (some .object) (memberText key text) (⟨key, text⟩ :: members) :=
  .member spelled (isSeparator_singleton colon) written

theorem Written.pairText (writtenFirst : Written (some .object) first firstMembers)
    (writtenSecond : Written (some .object) second secondMembers) :
    Written (some .object) (pairText first second) (firstMembers ++ secondMembers) :=
  .comma writtenFirst (isSeparator_singleton 0x2C) writtenSecond

theorem Written.objectText (written : Written (some .object) text members) :
    Written none (objectText text) members :=
  have noWs : IsWs [] := nofun
  .brackets noWs noWs written

theorem Written.isJson (written : Written none text members) : IsJson text members :=
  ⟨[], text, [], nofun, nofun, written, by simp⟩

end

/-- The text `\x7b"k":0,"m":"k"\x7d`. -/
def innerText : Bytes :=
  objectText (pairText (memberText [0x6B] [0x30]) (memberText [0x6D] (quoted [0x6B])))

/-- The text `\x7b"k":null,"m":\x7b"k":0,"m":"k"\x7d\x7d`. -/
def nullFirst : Bytes :=
  objectText (pairText (memberText [0x6B] nullText) (memberText [0x6D] innerText))

def nullFirstMembers : List JsonMember :=
  [⟨[0x6B], nullText⟩, ⟨[0x6D], innerText⟩, ⟨[0x6B], [0x30]⟩, ⟨[0x6D], quoted [0x6B]⟩]

theorem isJson_nullFirst : IsJson nullFirst nullFirstMembers := by
  have k : Spelling [0x6B] := .of_plain (by decide +kernel)
  have m : Spelling [0x6D] := .of_plain (by decide +kernel)
  have isNull : IsScalar nullText := .inl (by simp [nullText])
  have isZero : IsScalar [0x30] := .inr ⟨0x30, [], rfl, by decide, nofun⟩
  have inner : Written none innerText _ :=
    ((Written.scalar isZero).memberText k |>.pairText ((Written.string k).memberText m)).objectText
  exact ((Written.scalar isNull).memberText k |>.pairText (inner.memberText m)).objectText.isJson

/-- The scanner sees the first of two members with the key alone. -/
theorem null_hides_later_value :
    IsJson nullFirst nullFirstMembers ∧ ⟨[0x6B], [0x30]⟩ ∈ nullFirstMembers ∧
      [0x30] ≠ nullText ∧ jsonKeyHasNonNullValue nullFirst "k" = false :=
  ⟨isJson_nullFirst, by simp [nullFirstMembers], by decide +kernel, by decide +kernel⟩

/-- For the other key both scanners find what stands in the text. -/
theorem probes_agree_with_json_iff_outer :
    scanForKey [0x6D] (stringValueDecides [0x6B]) nullFirst = true ∧
      scanForKey [0x6D] nonNullValueDecides nullFirst = true := by
  have isString : ⟨[0x6D], quoted [0x6B]⟩ ∈ nullFirstMembers := by simp [nullFirstMembers]
  have notNull : innerText ≠ nullText := by decide +kernel
  obtain ⟨stringIff, nonNullIff⟩ := (probes_agree_with_json_iff id (fun _ _ => rfl) nullFirst
    [0x6D] [0x6B] nullFirstMembers isJson_nullFirst (by decide) (by decide)).mpr
      ⟨fun _ => isString, fun _ => ⟨⟨[0x6D], innerText⟩, rfl, notNull⟩⟩
  exact ⟨stringIff.mpr ⟨_, isString, rfl, [0x6B], rfl, rfl⟩,
    nonNullIff.mpr ⟨⟨[0x6D], innerText⟩, by simp [nullFirstMembers], rfl, notNull⟩⟩

end FuboxApi.JsonProbes
