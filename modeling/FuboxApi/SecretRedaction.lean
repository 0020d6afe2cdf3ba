import FuboxApi.RustText
import FuboxApi.TextRewriting

/-!
# Redaction of secrets in a text

A text is rewritten three times: the values of assignments to telling names, then tokens with a
known beginning, then email addresses. Positions are counted in characters; where the source
compares lengths in bytes, the bytes are counted.
-/

namespace FuboxApi.SecretRedaction

open TextRewriting

/-- Stands for every secret that is taken out. -/
def redactedSecret : List Char :=
  "[REDACTED]".toList

def secretTokenPrefixes : List String :=
  ["sk-", "sk_", "vk_", "dev_test_key_", "AIza", "xoxb-", "ghp_", "github_pat_"]

def byteLength (text : List Char) : Nat :=
  (text.map Char.utf8Size).sum

def isQuote (character : Char) : Bool :=
  character = Char.ofNat 0x22 || character = Char.ofNat 0x27

def isAsciiWhitespace (character : Char) : Bool :=
  [' ', '\t', '\n', Char.ofNat 0x0c, '\r'].contains character

/-! ### Telling names -/

inductive SensitiveValueKind where
  | authorization
  | cookie
  | generic
deriving DecidableEq

/-- Names are compared without quotes around them, in lower case and with underscores. -/
def normalizeSensitiveName (name : List Char) : List Char :=
  let isMargin (character : Char) :=
    RustText.isWhitespace character || isQuote character || character = Char.ofNat 0x60
  ((name.dropWhile isMargin).rdropWhile isMargin).map fun character =>
    if character = '-' ∨ character = '.' ∨ character = ' ' then '_' else character.toLower

/-- One of the names, alone or behind an underscore. -/
def isNamed (names : List String) (normalized : List Char) : Bool :=
  names.any fun name => normalized = name.toList || ('_' :: name.toList).isSuffixOf normalized

def isExplicitlyNonSensitiveKeyName : List Char → Bool :=
  isNamed ["model_key", "cache_key", "public_key", "public_key_id"]

/-- What a name says about its value; names of public keys say nothing. -/
def sensitiveValueKind (name : List Char) : Option SensitiveValueKind :=
  let normalized := normalizeSensitiveName name
  if normalized.isEmpty then none
  else if isExplicitlyNonSensitiveKeyName normalized then none
  else if isNamed ["authorization"] normalized then some .authorization
  else if isNamed ["cookie", "set_cookie"] normalized then some .cookie
  else if isNamed ["key", "token"] normalized ||
      ["api_key", "apikey", "secret", "password", "credential"].any
        fun part => decide (part.toList <:+: normalized) then some .generic
  else none

/-! ### Credentials -/

/-- How much of a text a scheme takes with the blanks behind it, of which there must be one. -/
def authSchemeLen (scheme : String) (rest : List Char) : Option Nat :=
  let length := scheme.toList.length
  if (rest.take length).map Char.toLower = scheme.toList.map Char.toLower then
    let spaces := ((rest.drop length).takeWhile isAsciiWhitespace).length
    if 0 < spaces then some (length + spaces) else none
  else none

def bearerSchemeLen : List Char → Option Nat :=
  authSchemeLen "Bearer"

def basicSchemeLen : List Char → Option Nat :=
  authSchemeLen "Basic"

def isSecretDelimiter (character : Char) : Bool :=
  RustText.isWhitespace character || isQuote character ||
    [',', ';', ':', '(', ')', '[', ']', '{', '}'].contains character

/-- A token ends at a blank, a quote or a bracket. -/
def secretTokenLen (rest : List Char) : Nat :=
  (rest.takeWhile fun character => !isSecretDelimiter character).length

def startsWithSecretToken (rest : List Char) : Bool :=
  secretTokenPrefixes.any fun start => start.toList.isPrefixOf rest

/-! ### Assignments -/

/-- How many characters stand before the quote that closes; a backslash escapes the next one. -/
def findClosingQuote (quote : Char) : (escaped : Bool) → List Char → Option Nat
  | _, [] => none
  | true, _ :: rest => (findClosingQuote quote false rest).map (· + 1)
  | false, character :: rest =>
    if character = '\\' then (findClosingQuote quote true rest).map (· + 1)
    else if character = quote then some 0
    else (findClosingQuote quote false rest).map (· + 1)

/-- How many characters stand before the separator; the offset is in bytes. -/
def unquotedKeyLen : (offset : Nat) → List Char → Option Nat
  | _, [] => none
  | offset, character :: rest =>
    if 96 < offset then none
    else if character = ':' ∨ character = '=' then some 0
    else if isQuote character ||
        ['\r', '\n', ',', ';', ')', ']', '}'].contains character then none
    else (unquotedKeyLen (offset + character.utf8Size) rest).map (· + 1)

/-- The key and the position behind it. -/
def readAssignmentKey : List Char → Option (List Char × Nat)
  | [] => none
  | first :: content =>
    if isQuote first then
      (findClosingQuote first false content).map fun length =>
        (content.take length, length + 2)
    else
      (unquotedKeyLen 0 (first :: content)).bind fun length =>
        let key := RustText.trim ((first :: content).take length)
        if key.isEmpty then none else some (key, length)

/-- Where the value of an assignment begins, and where reading goes on behind it. -/
structure SensitiveAssignment where
  valueStart : Nat
  nextIndex : Nat
  closingQuote : Option Char

def tokenValueEnd (rest : List Char) : Nat :=
  (rest.takeWhile fun character => !(RustText.isWhitespace character || isQuote character ||
    [',', ';', '&', ')', ']', '}'].contains character)).length

/-- A cookie has blanks and semicolons in its value. -/
def lineishValueEnd (rest : List Char) : Nat :=
  (rest.takeWhile fun character => !(['\r', '\n', ',', '}', ']'].contains character)).length

def authorizationValueEnd (rest : List Char) : Nat :=
  match (bearerSchemeLen rest).or (basicSchemeLen rest) with
  | some afterScheme => afterScheme + tokenValueEnd (rest.drop afterScheme)
  | none => tokenValueEnd rest

def unquotedSensitiveValueEnd (rest : List Char) : SensitiveValueKind → Nat
  | .authorization => authorizationValueEnd rest
  | .cookie => lineishValueEnd rest
  | .generic => tokenValueEnd rest

/-- A quoted value that is never closed goes to the end of the text. -/
def readAssignmentValue (valueStart : Nat) (kind : SensitiveValueKind) :
    List Char → Option SensitiveAssignment
  | [] => none
  | first :: content =>
    if isQuote first then
      some ((findClosingQuote first false content).elim
        ⟨valueStart + 1, valueStart + 1 + content.length, none⟩
        fun length => ⟨valueStart + 1, valueStart + 1 + length + 1, some first⟩)
    else
      some ⟨valueStart, valueStart + unquotedSensitiveValueEnd (first :: content) kind, none⟩

def isAssignmentKeyBoundary (previous : Option Char) : Bool :=
  previous.all fun character =>
    RustText.isWhitespace character || [',', ';', '{', '[', '('].contains character

def skipAsciiWhitespace (text : List Char) (index : Nat) : Nat :=
  index + ((text.drop index).takeWhile isAsciiWhitespace).length

/-- The key, its kind and the value of an assignment that begins here. -/
def sensitiveAssignmentMatchAt (previous : Option Char) (rest : List Char) :
    Option (List Char × SensitiveValueKind × SensitiveAssignment) :=
  if isAssignmentKeyBoundary previous then
    (readAssignmentKey rest).bind fun (key, afterKey) =>
      (sensitiveValueKind key).bind fun kind =>
        let separator := skipAsciiWhitespace rest afterKey
        if rest[separator]? = some ':' ∨ rest[separator]? = some '=' then
          let valueStart := skipAsciiWhitespace rest (separator + 1)
          (readAssignmentValue valueStart kind (rest.drop valueStart)).map
            fun assignment => (key, kind, assignment)
        else none
  else none

def sensitiveAssignmentAt (previous : Option Char) (rest : List Char) :
    Option SensitiveAssignment :=
  (sensitiveAssignmentMatchAt previous rest).map fun found => found.2.2

def assignmentRule : Rule Char (List Char) := fun previous rest =>
  (sensitiveAssignmentAt previous rest).map fun redaction =>
    (rest.take redaction.valueStart ++ redactedSecret ++ redaction.closingQuote.toList,
      redaction.nextIndex)

def redactSensitiveAssignments : List Char → List Char :=
  rewrite assignmentRule none 0

/-! ### Tokens -/

def tokenRule : Rule Char (List Char) := fun _ rest =>
  match (bearerSchemeLen rest).or (basicSchemeLen rest) with
  | some schemeLen =>
    some (rest.take schemeLen ++ redactedSecret, schemeLen + secretTokenLen (rest.drop schemeLen))
  | none =>
    if startsWithSecretToken rest then some (redactedSecret, secretTokenLen rest) else none

def redactSecretTokens : List Char → List Char :=
  rewrite tokenRule none 0

/-! ### Email addresses -/

def isEmailLocalCharacter (character : Char) : Bool :=
  character.isAlphanum || ['.', '_', '%', '+', '-'].contains character

def isEmailDomainCharacter (character : Char) : Bool :=
  character.isAlphanum || ['.', '-'].contains character

/-- Labels between dots, of which the last has two letters or more and nothing else. -/
def isValidEmailDomain (domain : List Char) : Bool :=
  let labels := domain.splitOn '.'
  let topLevelDomain := labels.getLast?.getD []
  3 ≤ domain.length && domain.contains '.' && 2 ≤ topLevelDomain.length &&
    topLevelDomain.all Char.isAlpha && labels.dropLast.all fun label =>
        !label.isEmpty && label.head? ≠ some '-' && label.getLast? ≠ some '-' &&
          label.all fun character => character.isAlphanum || character = '-'

/-- The length of an address that begins here and that neither side continues. -/
def emailAddressLenAt (previous : Option Char) (rest : List Char) : Option Nat :=
  let mailbox := rest.takeWhile (· ≠ '@')
  let domainStart := mailbox.length + 1
  let domain := ((rest.drop domainStart).takeWhile isEmailDomainCharacter).rdropWhile
    fun character => character = '.' || character = '-'
  let next := rest[domainStart + domain.length]?
  if previous.all (!isEmailLocalCharacter ·) && rest.contains '@' &&
      0 < mailbox.length && byteLength mailbox ≤ 128 && mailbox.all isEmailLocalCharacter &&
      isValidEmailDomain domain &&
      next.all (fun character => !(character.isAlphanum || character = '-')) then
    some (domainStart + domain.length)
  else none

def emailRule : Rule Char (List Char) := fun previous rest =>
  (emailAddressLenAt previous rest).map fun length => (redactedSecret, length)

def redactEmailAddresses : List Char → List Char :=
  rewrite emailRule none 0

def redactSecrets (input : List Char) : List Char :=
  redactEmailAddresses (redactSecretTokens (redactSensitiveAssignments input))

/-! ### The marker is written and kept -/

variable {previous : Option Char} {text rest output : List Char} {length : Nat}

theorem redactedSecret_infix_of_assignmentRule
    (found : assignmentRule previous rest = some (output, length)) :
    redactedSecret <:+: output := by
  obtain ⟨redaction, -, written⟩ := Option.map_eq_some_iff.mp found
  rw [Prod.mk.injEq] at written
  exact ⟨_, _, written.1⟩

theorem tokenRule_cases (found : tokenRule previous rest = some (output, length)) :
    (∃ schemeLen, (bearerSchemeLen rest).or (basicSchemeLen rest) = some schemeLen ∧
        output = rest.take schemeLen ++ redactedSecret ∧
          length = schemeLen + secretTokenLen (rest.drop schemeLen)) ∨
      startsWithSecretToken rest = true ∧ output = redactedSecret ∧
        length = secretTokenLen rest := by
  unfold tokenRule at found
  split at found
  · next schemeLen scheme =>
    simp only [Option.some.injEq, Prod.mk.injEq] at found
    exact .inl ⟨schemeLen, scheme, found.1.symm, found.2.symm⟩
  · split at found
    · next starts =>
      simp only [Option.some.injEq, Prod.mk.injEq] at found
      exact .inr ⟨starts, found.1.symm, found.2.symm⟩
    · cases found

theorem redactedSecret_infix_of_tokenRule
    (found : tokenRule previous rest = some (output, length)) : redactedSecret <:+: output := by
  rcases tokenRule_cases found with ⟨schemeLen, -, rfl, -⟩ | ⟨-, rfl, -⟩
  · exact (List.suffix_append _ _).isInfix
  · exact List.infix_rfl

theorem redactedSecret_infix_of_emailRule
    (found : emailRule previous rest = some (output, length)) : redactedSecret <:+: output := by
  obtain ⟨_, -, written⟩ := Option.map_eq_some_iff.mp found
  rw [Prod.mk.injEq] at written
  exact written.1 ▸ List.infix_rfl

theorem take_length_takeWhile (accepts : Char → Bool) (text : List Char) :
    text.take (text.takeWhile accepts).length = text.takeWhile accepts :=
  (List.prefix_iff_eq_take.mp (List.takeWhile_prefix accepts)).symm

theorem authSchemeLen_clear {scheme : String} (plain : '[' ∉ scheme.toList.map Char.toLower)
    (found : authSchemeLen scheme rest = some length) : 0 < length ∧ '[' ∉ rest.take length := by
  simp only [authSchemeLen] at found
  split_ifs at found with same spaces
  obtain rfl := Option.some.inj found
  refine ⟨by omega, ?_⟩
  rw [List.take_add, List.mem_append, not_or, take_length_takeWhile]
  refine ⟨fun opens => plain ?_, fun opens => ?_⟩
  · rw [← same]
    exact List.mem_map.mpr ⟨'[', opens, by decide⟩
  · exact absurd (List.mem_takeWhile_imp opens) (by decide)

theorem not_mem_take_secretTokenLen (rest : List Char) : '[' ∉ rest.take (secretTokenLen rest) := by
  rw [secretTokenLen, take_length_takeWhile]
  intro opens
  exact absurd (List.mem_takeWhile_imp opens) (by decide)

theorem secretTokenLen_pos (starts : startsWithSecretToken rest = true) :
    0 < secretTokenLen rest := by
  obtain ⟨start, known, begins⟩ := List.any_eq_true.mp starts
  have solid : secretTokenPrefixes.all (fun start =>
      start.toList.head?.any fun character => !isSecretDelimiter character) = true := by decide
  obtain ⟨first, head, passes⟩ :=
    (Option.any_eq_true _ _).mp (List.all_eq_true.mp solid start known)
  obtain ⟨behind, rfl⟩ := List.isPrefixOf_iff_prefix.mp begins
  obtain ⟨later, split⟩ := List.head?_eq_some_iff.mp head
  simp [secretTokenLen, split, passes]

theorem tokenRule_clear (found : tokenRule previous rest = some (output, length)) :
    0 < length ∧ '[' ∉ rest.take length := by
  rcases tokenRule_cases found with ⟨schemeLen, scheme, -, rfl⟩ | ⟨starts, -, rfl⟩
  · have clear : 0 < schemeLen ∧ '[' ∉ rest.take schemeLen := by
      rcases Option.or_eq_some_iff.mp scheme with bearer | ⟨-, basic⟩
      · exact authSchemeLen_clear (by decide) bearer
      · exact authSchemeLen_clear (by decide) basic
    rw [List.take_add, List.mem_append, not_or]
    exact ⟨by omega, clear.2, not_mem_take_secretTokenLen _⟩
  · exact ⟨secretTokenLen_pos starts, not_mem_take_secretTokenLen rest⟩

theorem emailRule_clear (found : emailRule previous rest = some (output, length)) :
    0 < length ∧ '[' ∉ rest.take length := by
  obtain ⟨_, address, written⟩ := Option.map_eq_some_iff.mp found
  obtain ⟨-, rfl⟩ := written
  simp only [emailAddressLenAt, Bool.and_eq_true, Option.ite_none_right_eq_some] at address
  obtain ⟨⟨⟨⟨⟨⟨⟨-, atSign⟩, -⟩, -⟩, plain⟩, -⟩, -⟩, found⟩ := address
  obtain ⟨mailbox, after, rfl, before⟩ :=
    List.eq_append_cons_of_mem (List.contains_iff_mem.mp atSign)
  have cut : (mailbox ++ '@' :: after).takeWhile (· ≠ '@') = mailbox := by
    rw [List.takeWhile_append_of_pos (fun character inside => by
        rw [decide_eq_true_iff]
        rintro rfl
        exact before inside)]
    simp
  have behind : (mailbox ++ '@' :: after).drop (mailbox.length + 1) = after := by
    simp
  rw [cut] at plain found
  rw [behind] at found
  obtain rfl := Option.some.inj found
  refine ⟨by omega, ?_⟩
  rw [Nat.add_assoc, List.take_length_add_append, Nat.add_comm 1, List.take_succ_cons,
    ← List.prefix_iff_eq_take.mp ((List.rdropWhile_prefix _ _).trans (List.takeWhile_prefix _)),
    List.mem_append, List.mem_cons, not_or, not_or]
  refine ⟨fun opens => ?_, by decide, fun opens => ?_⟩
  · exact absurd (List.all_eq_true.mp plain _ opens) (by decide)
  · have inDomain := (List.rdropWhile_prefix _ _).subset opens
    exact absurd (List.mem_takeWhile_imp inDomain) (by decide)

theorem tokenRule_through {piece : List Char} (nonempty : piece ≠ [])
    (ending : piece <:+ "REDACTED]".toList) : tokenRule previous (piece ++ rest) = none := by
  have letters : "REDACTED]".toList = ['R', 'E', 'D', 'A', 'C', 'T', 'E', 'D', ']'] := by decide
  have listed := (List.mem_tails _ _).mpr ending
  simp only [letters, List.tails, List.mem_cons, nonempty, List.not_mem_nil, or_false] at listed
  rcases listed with rfl | rfl | rfl | rfl | rfl | rfl | rfl | rfl | rfl <;> rfl

theorem emailRule_through {piece : List Char} (nonempty : piece ≠ [])
    (ending : piece <:+ "REDACTED]".toList) : emailRule previous (piece ++ rest) = none := by
  have last : ']' ∈ piece := by
    obtain ⟨front, whole⟩ := ending
    have same := congrArg List.getLast? whole
    rw [List.getLast?_append_of_ne_nil _ nonempty] at same
    exact List.mem_of_getLast? same
  have inside : (piece ++ rest).takeWhile (· ≠ '@') = piece ++ rest.takeWhile (· ≠ '@') := by
    refine List.takeWhile_append_of_pos fun character member => decide_eq_true ?_
    rintro rfl
    exact absurd (ending.subset member) (by decide)
  have refused : (piece ++ rest.takeWhile (· ≠ '@')).all isEmailLocalCharacter = false := by
    rw [List.all_eq_false]
    exact ⟨']', List.mem_append_left _ last, by decide⟩
  simp only [emailRule, emailAddressLenAt, inside, refused, Bool.and_false, Bool.false_and,
    Bool.false_eq_true, if_false, Option.map_none]

theorem redactedSecret_infix_redactSecretTokens (kept : redactedSecret <:+: text) :
    redactedSecret <:+: redactSecretTokens text := by
  exact infix_rewrite_of_infix (fun _ _ _ _ => tokenRule_clear)
    (fun _ _ _ nonempty ending => tokenRule_through nonempty ending) kept

theorem redactedSecret_infix_redactEmailAddresses (kept : redactedSecret <:+: text) :
    redactedSecret <:+: redactEmailAddresses text := by
  exact infix_rewrite_of_infix (fun _ _ _ _ => emailRule_clear)
    (fun _ _ _ nonempty ending => emailRule_through nonempty ending) kept

theorem redactSecrets_of_unmatched (assignments : Unmatched assignmentRule none text)
    (tokens : Unmatched tokenRule none text) (addresses : Unmatched emailRule none text) :
    redactSecrets text = text := by
  rw [redactSecrets, redactSensitiveAssignments, rewrite_of_unmatched assignments,
    redactSecretTokens, rewrite_of_unmatched tokens, redactEmailAddresses,
    rewrite_of_unmatched addresses]

/-- A text without the marker is left as it is exactly if none of the three rules matches. -/
theorem redactSecrets_eq_self_iff (unmarked : ¬ redactedSecret <:+: text) :
    redactSecrets text = text ↔ Unmatched assignmentRule none text ∧ Unmatched tokenRule none text ∧
        Unmatched emailRule none text := by
  constructor
  · intro same
    rw [redactSecrets] at same
    have assignments : Unmatched assignmentRule none text := by
      by_contra matched
      have written := infix_rewrite_of_matched
        (fun _ _ _ _ => redactedSecret_infix_of_assignmentRule) matched
      exact unmarked (same ▸ redactedSecret_infix_redactEmailAddresses
        (redactedSecret_infix_redactSecretTokens written))
    rw [redactSensitiveAssignments, rewrite_of_unmatched assignments] at same
    have tokens : Unmatched tokenRule none text := by
      by_contra matched
      have written := infix_rewrite_of_matched
        (fun _ _ _ _ => redactedSecret_infix_of_tokenRule) matched
      exact unmarked (same ▸ redactedSecret_infix_redactEmailAddresses written)
    rw [redactSecretTokens, rewrite_of_unmatched tokens] at same
    refine ⟨assignments, tokens, ?_⟩
    by_contra matched
    have written := infix_rewrite_of_matched
      (fun _ _ _ _ => redactedSecret_infix_of_emailRule) matched
    exact unmarked (same ▸ written)
  · rintro ⟨assignments, tokens, addresses⟩
    exact redactSecrets_of_unmatched assignments tokens addresses

end FuboxApi.SecretRedaction
