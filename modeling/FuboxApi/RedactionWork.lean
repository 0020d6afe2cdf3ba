import FuboxApi.SecretRedaction

/-!
# What redaction examines

The pass over email addresses looks for an at sign up to the end of the text from every position
where an address could begin, and only then compares the distance with its limit.
-/

namespace FuboxApi.SecretRedaction

open TextRewriting

/-- What a pass examines, if its rule examines so many characters at a position. -/
def passWork (rule : Rule Char (List Char)) (examined : Option Char → List Char → Nat) :
    (previous : Option Char) → (skipped : Nat) → List Char → Nat
  | _, _, [] => 0
  | _, skipped + 1, symbol :: rest => passWork rule examined (some symbol) skipped rest
  | previous, 0, symbol :: rest =>
    let skipped := (rule previous (symbol :: rest)).elim 0 fun found => found.2 - 1
    examined previous (symbol :: rest) + passWork rule examined (some symbol) skipped rest

/-- The characters that `find` examines for an at sign, where an address could begin. -/
def atSignSearch (previous : Option Char) (rest : List Char) : Nat :=
  if previous.all (!isEmailLocalCharacter ·) then
    min ((rest.takeWhile (· ≠ '@')).length + 1) rest.length
  else 0

/-- The searches for an at sign, and whatever else the three passes examine. -/
def redactionWork (others : List Char → Nat) (input : List Char) : Nat :=
  others input + passWork emailRule atSignSearch none 0
    (redactSecretTokens (redactSensitiveAssignments input))

section

variable {previous : Option Char} {rest : List Char} {n : Nat}

theorem rules_comma : assignmentRule previous (',' :: rest) = none ∧
    tokenRule previous (',' :: rest) = none := by
  constructor
  · simp [assignmentRule, sensitiveAssignmentAt, sensitiveAssignmentMatchAt, readAssignmentKey,
      unquotedKeyLen, isQuote]
  · simp [tokenRule, bearerSchemeLen, basicSchemeLen, authSchemeLen, startsWithSecretToken,
      secretTokenPrefixes]

theorem unmatched_replicate {rule : Rule Char (List Char)}
    (passes : ∀ previous rest, rule previous (',' :: rest) = none) (previous : Option Char) :
    Unmatched rule previous (List.replicate n ',') := by
  induction n generalizing previous with
  | zero => trivial
  | succ n ih => exact ⟨passes previous _, ih (some ',')⟩

theorem emailRule_replicate : emailRule previous (List.replicate n ',') = none := by
  simp [emailRule, emailAddressLenAt]

/-- Every search goes through all the commas that are left. -/
theorem atSignSearch_replicate (boundary : previous.all (!isEmailLocalCharacter ·) = true) :
    atSignSearch previous (List.replicate n ',') = n := by
  simp [atSignSearch, boundary]

theorem passWork_replicate (boundary : previous.all (!isEmailLocalCharacter ·) = true) :
    2 * passWork emailRule atSignSearch previous 0 (List.replicate n ',') = n * (n + 1) := by
  induction n generalizing previous with
  | zero => rfl
  | succ n ih =>
    have unmatched : emailRule previous (',' :: List.replicate n ',') = none :=
      @emailRule_replicate previous (n + 1)
    have searched : atSignSearch previous (',' :: List.replicate n ',') = n + 1 :=
      @atSignSearch_replicate previous (n + 1) boundary
    have later := @ih (some ',') (by decide)
    rw [List.replicate_succ, passWork, unmatched, searched, Option.elim_none, Nat.mul_add, later]
    ring

theorem lt_redactionWork_replicate (others : List Char → Nat) (factor : Nat) :
    factor * ((List.replicate (2 * factor + 1) ',').length + 1) <
      redactionWork others (List.replicate (2 * factor + 1) ',') := by
  have examined := @passWork_replicate none (2 * factor + 1) rfl
  rw [redactionWork, redactSensitiveAssignments,
    rewrite_of_unmatched (unmatched_replicate (fun _ _ => rules_comma.1) none),
    redactSecretTokens, rewrite_of_unmatched (unmatched_replicate (fun _ _ => rules_comma.2) none),
    List.length_replicate]
  nlinarith

end

/-- Whatever else the passes examine: for no constant is the work of redaction within it times the
length of the text and one more. -/
theorem redaction_work_not_linear (others : List Char → Nat) (factor : Nat) :
    ∃ text, factor * (text.length + 1) < redactionWork others text :=
  ⟨_, lt_redactionWork_replicate others factor⟩

/-- The searches alone, on commas. -/
theorem commas_exceed_every_linear_bound : ¬ ∃ factor, ∀ n,
    redactionWork (fun _ => 0) (List.replicate n ',') ≤ factor * (n + 1) := by
  rintro ⟨factor, bound⟩
  have exceeds := lt_redactionWork_replicate (fun _ => 0) factor
  rw [List.length_replicate] at exceeds
  exact absurd (bound _) (Nat.not_le.mpr exceeds)

end FuboxApi.SecretRedaction
