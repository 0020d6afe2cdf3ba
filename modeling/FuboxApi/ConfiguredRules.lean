import FuboxApi.PromptProtection

/-!
# Configured prompt protection rules

All rules look at the text as it came, and each one that matches masks its matches in what the rules
before it have left. Only the first matches in the beginning of a text are masked, and only the
first hits are kept.
-/

namespace FuboxApi.ConfiguredRules

open JsonWalk PromptProtection SecretRedaction TextRewriting

inductive PatternKind where
  | literal
  | contains
  | regex
deriving DecidableEq

inductive ConfiguredScope where
  | any
  | text
  | jsonPathPrefix (start : String)

/-- A rule as the configuration is read; a compiled expression is known by the ranges of
characters that it finds in a text. -/
structure ConfiguredRule where
  name : String
  action : PromptProtectionAction
  scope : ConfiguredScope
  patternKind : PatternKind
  pattern : String
  caseSensitive : Bool
  compiledRegex : Option (List Char → List (Nat × Nat))
  patternNonempty : pattern.toList ≠ []

def maxConfiguredRuleScanBytes : Nat :=
  64 * 1024

def maxConfiguredRuleMatchesPerValue : Nat :=
  16

/-- A place is inside the scope of itself and of every place above it. -/
def configuredRuleScopeMatches (scope : ConfiguredScope) (candidate : String) : Bool :=
  match scope with
  | .any => true
  | .text => candidate = "text"
  | .jsonPathPrefix start =>
    candidate = start ||
      (start.toList ++ ['.']).isPrefixOf candidate.toList ||
        (start.toList ++ ['[']).isPrefixOf candidate.toList

/-! ### Matches -/

/-- The longest beginning of a text that has at most a number of bytes. -/
def boundedScan : (maxBytes : Nat) → List Char → List Char
  | _, [] => []
  | maxBytes, character :: rest =>
    if character.utf8Size ≤ maxBytes then
      character :: boundedScan (maxBytes - character.utf8Size) rest
    else []

section

variable (input : List Char) (rule : ConfiguredRule) (rules : List ConfiguredRule)
  (value : JsonDocument)

def ConfiguredRule.fold (character : Char) : Char :=
  if rule.caseSensitive then character else character.toLower

def ConfiguredRule.foldedPattern : List Char :=
  rule.pattern.toList.map rule.fold

/-- The whole text matches, or nothing does. -/
def literalMatchRanges : List (Nat × Nat) :=
  if byteLength input ≤ maxConfiguredRuleScanBytes ∧
      input.map rule.fold = rule.foldedPattern then [(0, input.length)]
  else []

/-- Finds the range of a pattern that begins here, in a text of some length. -/
def rangeRule (total : Nat) (pattern : List Char) : Rule Char (Nat × Nat) := fun _ rest =>
  let start := total - rest.length
  if pattern.isPrefixOf rest then some ((start, start + pattern.length), pattern.length) else none

/-- All matches from left to right that do not overlap. -/
def substringRanges (haystack pattern : List Char) : List (Nat × Nat) :=
  scan (rangeRule haystack.length pattern) none 0 haystack

def collectSubstringRanges (haystack pattern : List Char) : List (Nat × Nat) :=
  (substringRanges haystack pattern).take maxConfiguredRuleMatchesPerValue

/-- A pattern that crosses the end of the scanned part is not found. -/
def containsMatchRanges : List (Nat × Nat) :=
  collectSubstringRanges ((boundedScan maxConfiguredRuleScanBytes input).map rule.fold)
    rule.foldedPattern

def regexMatchRanges : List (Nat × Nat) :=
  rule.compiledRegex.elim [] fun findIter =>
    ((findIter (boundedScan maxConfiguredRuleScanBytes input)).take
      maxConfiguredRuleMatchesPerValue).filter fun range => range.1 < range.2

def configuredRuleMatchRanges : List (Nat × Nat) :=
  match rule.patternKind with
  | .literal => literalMatchRanges input rule
  | .contains => containsMatchRanges input rule
  | .regex => regexMatchRanges input rule

/-- Ranges that overlap an earlier one or reach beyond the text are passed over. -/
def maskRanges (input : List Char) : (lastIndex : Nat) → List (Nat × Nat) → List Char
  | lastIndex, [] => input.drop lastIndex
  | lastIndex, (start, stop) :: ranges =>
    if start < lastIndex ∨ input.length < stop then maskRanges input lastIndex ranges
    else (input.take start).drop lastIndex ++ redactedSecret ++ maskRanges input stop ranges

def maskConfiguredRuleMatches : List Char :=
  maskRanges input 0 (configuredRuleMatchRanges input rule)

/-! ### Hits -/

structure ConfiguredHit where
  ruleName : String
  action : PromptProtectionAction
  scope : String
  patternKind : PatternKind

def ConfiguredHit.key (hit : ConfiguredHit) : String × String :=
  (hit.scope, hit.ruleName)

def configuredHit (scope : String) (rule : ConfiguredRule) : ConfiguredHit :=
  ⟨rule.name, rule.action, scope, rule.patternKind⟩

/-- Of the hits for one rule name and place, the first is kept. -/
def pushConfiguredHit (hits : List ConfiguredHit) (hit : ConfiguredHit) : List ConfiguredHit :=
  if hit.key ∈ hits.map ConfiguredHit.key then hits
  else if maxPromptProtectionHits ≤ hits.length then hits
  else hits ++ [hit]

def configuredActionForHits (hits : List ConfiguredHit) : PromptProtectionAction :=
  if ∃ hit ∈ hits, hit.action = .reject then .reject
  else if hits.isEmpty then .allow
  else .mask

/-! ### Payloads -/

/-- The rules whose turn comes at a text, in their order. -/
def matchingRules (scope : String) (input : List Char) (rules : List ConfiguredRule) :
    List ConfiguredRule :=
  rules.filter fun rule => configuredRuleScopeMatches rule.scope scope &&
    !(configuredRuleMatchRanges input rule).isEmpty

/-- Rules match the text as it came, and mask it one after the other. -/
def applyConfiguredRulesToString (scope input : String) : String × List ConfiguredHit :=
  let matching := matchingRules scope input.toList rules
  (.ofList (matching.foldl maskConfiguredRuleMatches input.toList),
    matching.map (configuredHit scope))

def isPublicIdentifierJsonKey (key : String) : Bool :=
  ["model_key", "cache_key", "public_key_id"].any fun name =>
    normalizeSensitiveName key.toList = name.toList

def configuredWalk : JsonWalk String ConfiguredHit where
  text := applyConfiguredRulesToString rules
  field := fun _ key value => (if isPublicIdentifierJsonKey key then some value else none, [])
  key := jsonKeyScope
  index := jsonIndexScope

structure ConfiguredResult where
  action : PromptProtectionAction
  hits : List ConfiguredHit
  safeJson : JsonDocument

def applyPromptProtectionRuleSetToJson (rules : List ConfiguredRule) : ConfiguredResult :=
  let walked := (configuredWalk rules).value "$" value
  let hits := walked.2.foldl pushConfiguredHit []
  ⟨configuredActionForHits hits, hits, walked.1⟩

/-! ### Which hits are kept -/

def scannedTexts : List (String × String) :=
  ((located jsonKeyScope jsonIndexScope fun key => !isPublicIdentifierJsonKey key).value "$"
    value).2

def matchesAt (found : String × String) : List ConfiguredHit :=
  (matchingRules found.1 found.2.toList rules).map (configuredHit found.1)

/-- The matches of all rules, in the order of the payload and of the rules. -/
def configuredMatches : List ConfiguredHit :=
  (scannedTexts value).flatMap (matchesAt rules)

def firstByKey : List ConfiguredHit → List ConfiguredHit
  | [] => []
  | hit :: rest => hit :: (firstByKey rest).filter fun other => other.key ≠ hit.key

/-- A reject rule is the first to match for its name and place, among the first of those. -/
def RejectKept (found : List ConfiguredHit) : Prop :=
  ∃ hit ∈ (firstByKey found).take maxPromptProtectionHits, hit.action = .reject

instance (found : List ConfiguredHit) : Decidable (RejectKept found) :=
  inferInstanceAs (Decidable (∃ hit ∈ (firstByKey _).take _, _))

end

variable {rules : List ConfiguredRule} {value : JsonDocument} {found hits : List ConfiguredHit}

theorem agree_configuredWalk (rules : List ConfiguredRule) : Agree Eq (configuredWalk rules)
      (located jsonKeyScope jsonIndexScope fun key => !isPublicIdentifierJsonKey key)
      (fun hit => [hit]) (matchesAt rules) where
  key := fun _ _ _ same => same ▸ rfl
  index := fun _ _ _ same => same ▸ rfl
  text := fun scope _ text same => by
    subst same
    rw [List.flatMap_singleton']
    exact (List.append_nil _).symm
  field := fun scope _ name item same inside => by
    subst same
    rw [List.flatMap_singleton'] at inside ⊢
    cases exempt : isPublicIdentifierJsonKey name with
    | true => simp [configuredWalk, located, exempt, entered]
    | false => simpa [configuredWalk, located, exempt, entered] using inside

theorem findings_configuredWalk :
    ((configuredWalk rules).value "$" value).2 = configuredMatches rules value := by
  have same := (agree_configuredWalk rules).flatMap_value (Eq.refl "$") value
  rwa [List.flatMap_singleton'] at same

theorem foldl_pushConfiguredHit : found.foldl pushConfiguredHit hits =
    hits ++ ((firstByKey found).filter fun hit => hit.key ∉ hits.map ConfiguredHit.key).take
      (maxPromptProtectionHits - hits.length) := by
  induction found generalizing hits with
  | nil => simp [firstByKey]
  | cons hit rest ih =>
    rw [List.foldl_cons, ih, pushConfiguredHit, firstByKey]
    split_ifs with known full
    · rw [List.filter_cons_of_neg (by simpa using known), List.filter_filter]
      congr 2
      refine List.filter_congr fun other _ => ?_
      have apart : other.key ∉ hits.map ConfiguredHit.key → other.key ≠ hit.key :=
        fun fresh same => fresh (same ▸ known)
      simpa using apart
    · simp [Nat.sub_eq_zero_of_le full]
    · have room : maxPromptProtectionHits - hits.length =
          maxPromptProtectionHits - (hits ++ [hit]).length + 1 := by
        rw [List.length_append, List.length_singleton]
        omega
      rw [List.filter_cons_of_pos (by simpa using known), List.filter_filter, room,
        List.take_succ_cons, List.append_assoc, List.singleton_append]
      congr 3
      refine List.filter_congr fun other _ => ?_
      simp [not_or]

theorem hits_eq_take_firstByKey : (applyPromptProtectionRuleSetToJson value rules).hits =
    (firstByKey (configuredMatches rules value)).take maxPromptProtectionHits := by
  rw [applyPromptProtectionRuleSetToJson, findings_configuredWalk, foldl_pushConfiguredHit]
  simp

theorem action_eq_reject_iff : (applyPromptProtectionRuleSetToJson value rules).action = .reject ↔
      RejectKept (configuredMatches rules value) := by
  have acted : (applyPromptProtectionRuleSetToJson value rules).action =
      configuredActionForHits (applyPromptProtectionRuleSetToJson value rules).hits := rfl
  rw [acted, hits_eq_take_firstByKey, configuredActionForHits, RejectKept]
  split_ifs with reject empty <;> simp [reject]

theorem exists_reject_match_iff :
    (∃ text ∈ scannedTexts value, ∃ rule ∈ rules, rule.action = .reject ∧
        configuredRuleScopeMatches rule.scope text.1 = true ∧
          configuredRuleMatchRanges text.2.toList rule ≠ []) ↔
      ∃ hit ∈ configuredMatches rules value, hit.action = .reject := by
  simp only [configuredMatches, matchesAt, matchingRules, List.mem_flatMap, List.mem_map,
    List.mem_filter, Bool.and_eq_true, Bool.not_eq_true', List.isEmpty_eq_false_iff]
  constructor
  · rintro ⟨text, scanned, rule, configured, reject, inScope, matched⟩
    exact ⟨configuredHit text.1 rule,
      ⟨text, scanned, rule, ⟨configured, inScope, matched⟩, rfl⟩, reject⟩
  · rintro ⟨_, ⟨text, scanned, rule, ⟨configured, inScope, matched⟩, rfl⟩, reject⟩
    exact ⟨text, scanned, rule, configured, reject, inScope, matched⟩

/-- A reject rule that matches rejects the payload exactly if it is not kept out by the hits
before it. -/
theorem matching_reject_rule_rejects_iff (value : JsonDocument) (rules : List ConfiguredRule) :
    ((∃ text ∈ scannedTexts value, ∃ rule ∈ rules, rule.action = .reject ∧
        configuredRuleScopeMatches rule.scope text.1 = true ∧
          configuredRuleMatchRanges text.2.toList rule ≠ []) →
      (applyPromptProtectionRuleSetToJson value rules).action = .reject) ↔
      (∀ hit ∈ configuredMatches rules value, hit.action ≠ .reject) ∨
        RejectKept (configuredMatches rules value) := by
  rw [exists_reject_match_iff, action_eq_reject_iff]
  by_cases matched : ∃ hit ∈ configuredMatches rules value, hit.action = .reject
  · simp only [matched, true_implies]
    obtain ⟨hit, member, reject⟩ := matched
    exact ⟨.inr, fun either => either.resolve_left fun none => none hit member reject⟩
  · simp only [matched, false_implies, true_iff]
    exact .inl fun hit member reject => matched ⟨hit, member, reject⟩

theorem spam_nonempty : "spam".toList ≠ [] := by
  decide

def spamRule (action : PromptProtectionAction) : ConfiguredRule :=
  ⟨"spam", action, .any, .contains, "spam", true, none, spam_nonempty⟩

theorem reject_rule_kept_out_by_name :
    (∃ text ∈ scannedTexts (.string "spam"), ∃ rule ∈ [spamRule .mask, spamRule .reject],
        rule.action = .reject ∧ configuredRuleScopeMatches rule.scope text.1 = true ∧
          configuredRuleMatchRanges text.2.toList rule ≠ []) ∧
      (applyPromptProtectionRuleSetToJson (.string "spam")
        [spamRule .mask, spamRule .reject]).action = .mask := by
  decide

/-! ### Complete masking -/

variable {rule : ConfiguredRule} {text : List Char}

theorem boundedScan_eq_self {maxBytes : Nat} (short : byteLength text ≤ maxBytes) :
    boundedScan maxBytes text = text := by
  induction text generalizing maxBytes with
  | nil => rfl
  | cons character rest ih =>
    simp only [byteLength, List.map_cons, List.sum_cons] at short
    rw [boundedScan, if_pos (by omega), ih (by rw [byteLength]; omega)]

/-- Masking the ranges that are found from here on is the same as rewriting the text from here
on: what stands before is kept from the last masked range on, and the ranges are found at or
behind its end. -/
theorem maskRanges_scan {fold : Char → Char} {pattern : List Char} (nonempty : pattern ≠ [])
    (front rest : List Char) (previous earlier : Option Char) (skipped lastIndex : Nat)
    (place : lastIndex = front.length + skipped ∨ skipped = 0 ∧ lastIndex ≤ front.length) :
    maskRanges (front ++ rest) lastIndex
        (scan (rangeRule (front ++ rest).length pattern) previous skipped (rest.map fold)) =
      front.drop lastIndex ++
        rewrite (replacing fold pattern redactedSecret) earlier skipped rest := by
  have positive := List.length_pos_iff.mpr nonempty
  induction rest generalizing front previous earlier skipped lastIndex with
  | nil => simp [scan, maskRanges, rewrite]
  | cons character rest ih =>
    have moved : front ++ character :: rest = (front ++ [character]) ++ rest := by simp
    have longer : (front ++ [character]).length = front.length + 1 := by simp
    cases skipped with
    | succ skipped =>
      rw [moved, List.map_cons, scan, rewrite,
        ih _ _ (some character) skipped lastIndex (.inl (by omega)),
        List.drop_of_length_le (by omega), List.drop_of_length_le (by omega)]
    | zero =>
      have before : lastIndex ≤ front.length := by omega
      rw [List.map_cons, scan, rewrite]
      by_cases starts : pattern.isPrefixOf (fold character :: rest.map fold) = true
      · have fits := (List.isPrefixOf_iff_prefix.mp starts).length_le
        have start : (front ++ character :: rest).length -
            (fold character :: rest.map fold).length = front.length := by simp
        have inside : ¬ (front.length < lastIndex ∨
            (front ++ character :: rest).length < front.length + pattern.length) := by
          simp only [List.length_append, List.length_cons, List.length_map] at fits ⊢
          omega
        have behind : (front ++ [character]).drop (front.length + pattern.length) = [] :=
          List.drop_of_length_le (by omega)
        simp only [rangeRule, replacing, List.map_cons, starts, if_true, start, maskRanges]
        rw [if_neg inside, List.take_left, moved, ih _ _ (some character) _ _ (.inl (by omega)),
          behind, List.nil_append, List.append_assoc]
      · simp only [rangeRule, replacing, List.map_cons, if_neg starts]
        rw [moved, ih _ _ (some character) 0 lastIndex (.inr (by omega)),
          List.drop_append_of_le_length before, List.append_assoc, List.singleton_append]

section

variable (contains : rule.patternKind = .contains)
  (short : byteLength text ≤ maxConfiguredRuleScanBytes)

include contains short

theorem matchRanges_eq_take : configuredRuleMatchRanges text rule =
      (substringRanges (text.map rule.fold) rule.foldedPattern).take
        maxConfiguredRuleMatchesPerValue := by
  simp only [configuredRuleMatchRanges, contains, containsMatchRanges, boundedScan_eq_self short,
    collectSubstringRanges]

theorem mask_eq_rewrite (few : (substringRanges (text.map rule.fold) rule.foldedPattern).length ≤
      maxConfiguredRuleMatchesPerValue) : maskConfiguredRuleMatches text rule =
      rewrite (replacing rule.fold rule.foldedPattern redactedSecret) none 0 text := by
  have nonempty : rule.foldedPattern ≠ [] := by
    simpa [ConfiguredRule.foldedPattern] using rule.patternNonempty
  rw [maskConfiguredRuleMatches, matchRanges_eq_take contains short, List.take_of_length_le few,
    substringRanges, List.length_map]
  exact maskRanges_scan nonempty [] text none none 0 0 (.inl rfl)

theorem not_infix_of_missed (apart : Apart rule.foldedPattern (redactedSecret.map rule.fold))
    (missed : configuredRuleMatchRanges text rule = []) :
    ¬ rule.foldedPattern <:+: text.map rule.fold := by
  have none : substringRanges (text.map rule.fold) rule.foldedPattern = [] := by
    rw [matchRanges_eq_take contains short] at missed
    exact (List.take_eq_nil_iff.mp missed).resolve_left nofun
  have same := mask_eq_rewrite contains short (by rw [none]; exact Nat.zero_le _)
  rw [maskConfiguredRuleMatches, missed, maskRanges, List.drop_zero] at same
  rw [same]
  exact not_infix_replacing apart 0

end

/-- At its turn every rule sees all of the text and may mask all its matches. -/
def WithinLimits : List ConfiguredRule → List Char → Prop
  | [], _ => True
  | rule :: later, text =>
    byteLength text ≤ maxConfiguredRuleScanBytes ∧
      (substringRanges (text.map rule.fold) rule.foldedPattern).length ≤
        maxConfiguredRuleMatchesPerValue ∧
      WithinLimits later (maskConfiguredRuleMatches text rule)

theorem infix_of_foldl_mask {pattern : List Char} {fold : Char → Char}
    (apart : Apart pattern (redactedSecret.map fold))
    (contains : ∀ rule ∈ rules, rule.patternKind = .contains) (limits : WithinLimits rules text)
    (occurs : pattern <:+: (rules.foldl maskConfiguredRuleMatches text).map fold) :
    pattern <:+: text.map fold := by
  induction rules generalizing text with
  | nil => exact occurs
  | cons rule later ih =>
    obtain ⟨short, few, limits⟩ := limits
    have left := ih (fun other member => contains other (List.mem_cons_of_mem _ member)) limits
      occurs
    rw [mask_eq_rewrite (contains rule List.mem_cons_self) short few] at left
    obtain ⟨_, rest, ending, start, -⟩ :=
      exists_unmatched_of_infix apart (fun _ => output_of_replacing) left
    exact start.isInfix.trans (ending.map fold).isInfix

theorem not_infix_of_mem (contains : ∀ rule ∈ rules, rule.patternKind = .contains)
    (apart : ∀ rule ∈ rules, Apart rule.foldedPattern (redactedSecret.map rule.fold))
    (limits : WithinLimits rules text) (member : rule ∈ rules) : ¬ rule.foldedPattern <:+:
      (rules.foldl maskConfiguredRuleMatches text).map rule.fold := by
  induction rules generalizing text with
  | nil => cases member
  | cons first later ih =>
    obtain ⟨short, few, limits⟩ := limits
    have laterContains := fun other member => contains other (List.mem_cons_of_mem first member)
    rcases List.mem_cons.mp member with rfl | member
    · intro occurs
      have left := infix_of_foldl_mask (apart rule List.mem_cons_self) laterContains limits occurs
      rw [mask_eq_rewrite (contains rule List.mem_cons_self) short few] at left
      exact not_infix_replacing (apart rule List.mem_cons_self) 0 left
    · exact ih laterContains (fun other member => apart other (List.mem_cons_of_mem _ member))
        limits member

/-- Masking is complete if every rule finds all its matches when its turn comes. -/
theorem masking_complete (rules : List ConfiguredRule) (scope input : String)
    (contains : ∀ rule ∈ rules, rule.patternKind = .contains)
    (apart : ∀ rule ∈ rules, Apart rule.foldedPattern (redactedSecret.map rule.fold))
    (short : byteLength input.toList ≤ maxConfiguredRuleScanBytes)
    (limits : WithinLimits (matchingRules scope input.toList rules) input.toList) :
    ∀ rule ∈ rules, configuredRuleScopeMatches rule.scope scope = true → ¬ rule.foldedPattern <:+:
        (applyConfiguredRulesToString rules scope input).1.toList.map rule.fold := by
  intro rule member inScope
  have matching : ∀ other ∈ matchingRules scope input.toList rules, other ∈ rules :=
    fun other turn => (List.mem_filter.mp turn).1
  rw [applyConfiguredRulesToString, String.toList_ofList]
  by_cases missed : configuredRuleMatchRanges input.toList rule = []
  · intro occurs
    have left := infix_of_foldl_mask (apart rule member)
      (fun other turn => contains other (matching other turn)) limits occurs
    exact not_infix_of_missed (contains rule member) short (apart rule member) missed left
  · refine not_infix_of_mem (fun other turn => contains other (matching other turn))
      (fun other turn => apart other (matching other turn)) limits ?_
    simpa [matchingRules, member, inScope] using missed

/-- The second rule finds its match further on, behind the marker that the first one writes. -/
def spamAndEggs : List ConfiguredRule :=
  [spamRule .mask, { spamRule .mask with
    name := "eggs", pattern := "eggs", caseSensitive := false, patternNonempty := by decide }]

theorem masking_complete_spam :
    maskConfiguredRuleMatches "spam, Eggs".toList (spamRule .mask) = "[REDACTED], Eggs".toList ∧
      ∀ rule ∈ spamAndEggs, ¬ rule.foldedPattern <:+:
        (applyConfiguredRulesToString spamAndEggs "text" "spam, Eggs").1.toList.map rule.fold := by
  have inScope : ∀ rule ∈ spamAndEggs, configuredRuleScopeMatches rule.scope "text" = true := by
    decide
  refine ⟨by decide, fun rule member => ?_⟩
  exact masking_complete spamAndEggs "text" "spam, Eggs" (by decide) (by decide) (by decide)
    ⟨by decide, by decide, by decide, by decide, trivial⟩ rule member (inScope rule member)

theorem seventeenth_match_left :
    Apart (spamRule .mask).foldedPattern (redactedSecret.map (spamRule .mask).fold) ∧
      byteLength (List.replicate 17 "spam".toList).flatten ≤ maxConfiguredRuleScanBytes ∧
      configuredRuleScopeMatches (spamRule .mask).scope "text" = true ∧
      (spamRule .mask).foldedPattern <:+: (applyConfiguredRulesToString [spamRule .mask] "text"
          (.ofList (List.replicate 17 "spam".toList).flatten)).1.toList.map
            (spamRule .mask).fold := by
  decide +kernel

/-! ### Default rules before configured rules -/

inductive PromptProtectionRuntimeMode where
  | enforce
  | audit
  | disabled
deriving DecidableEq

structure PromptProtectionRuntimeConfig where
  mode : PromptProtectionRuntimeMode
  defaultRulesEnabled : Bool
  customRuleSet : List ConfiguredRule

structure PromptProtectionRuntimeResult where
  detectedAction : PromptProtectionAction
  effectiveAction : PromptProtectionAction
  safeJson : JsonDocument

/-- Rejecting is stronger than masking. -/
def strongestPromptProtectionAction (left right : PromptProtectionAction) :
    PromptProtectionAction :=
  if left = .reject ∨ right = .reject then .reject
  else if left = .mask ∨ right = .mask then .mask
  else .allow

def effectivePromptProtectionAction (detectedAction : PromptProtectionAction) :
    PromptProtectionRuntimeMode → PromptProtectionAction
  | .enforce => detectedAction
  | .audit | .disabled => .allow

def applyPromptProtectionRuntimeConfigToJson (value : JsonDocument)
    (config : PromptProtectionRuntimeConfig) : PromptProtectionRuntimeResult :=
  if config.mode = .disabled then ⟨.allow, .allow, value⟩
  else
    let defaultResult :=
      if config.defaultRulesEnabled then some (protectPromptJson value) else none
    let configuredInput := (defaultResult.map PromptProtectionResult.safe).getD value
    let configuredResult := applyPromptProtectionRuleSetToJson configuredInput config.customRuleSet
    let detectedAction := strongestPromptProtectionAction
      ((defaultResult.map PromptProtectionResult.action).getD .allow) configuredResult.action
    ⟨detectedAction, effectivePromptProtectionAction detectedAction config.mode,
      configuredResult.safeJson⟩

def strength : PromptProtectionAction → Nat
  | .allow => 0
  | .mask => 1
  | .reject => 2

theorem action_eq_allow_iff : (applyPromptProtectionRuleSetToJson value rules).action = .allow ↔
      configuredMatches rules value = [] := by
  have acted : (applyPromptProtectionRuleSetToJson value rules).action =
      configuredActionForHits (applyPromptProtectionRuleSetToJson value rules).hits := rfl
  rw [acted, configuredActionForHits, ite_reject_eq_allow_iff, hits_eq_take_firstByKey]
  cases configuredMatches rules value with
  | nil => simp [firstByKey]
  | cons hit rest => simp [firstByKey, maxPromptProtectionHits]

theorem strength_strongest_le_iff (before reported after : PromptProtectionAction) :
    strength (strongestPromptProtectionAction .allow before) ≤
        strength (strongestPromptProtectionAction reported after) ↔
      reported = .reject ∨ (before = .reject → after = .reject) ∧
        (before = .allow ∨ reported ≠ .allow ∨ after ≠ .allow) := by
  cases before <;> cases reported <;> cases after <;> decide

/-- What the default rules leave of the texts that the configured rules look at. -/
def remainingTexts (value : JsonDocument) : List (String × String) :=
  ((unreplacedWalk fun key => !isPublicIdentifierJsonKey key).value "$" value).2.map
    fun found => (found.1, leftOf found.2)

theorem scannedTexts_safe : scannedTexts (protectPromptJson value).safe = remainingTexts value := by
  have same := (agree_followedBy_located fun key => !isPublicIdentifierJsonKey key).flatMap_value
    (Eq.refl "$") value
  rw [@followedBy_value _ _ _ protectingWalk (located _ _ _) rfl rfl, List.flatMap_singleton',
    ← List.map_eq_flatMap] at same
  exact same

/-- The default rules take nothing from the configured ones exactly if a text has an injection
phrase, or if two things hold: a rejection is still found in what is left of the texts, and so is
some match unless there was none or the default rules report something themselves. -/
theorem default_rules_keep_strength_iff (value : JsonDocument) (rules : List ConfiguredRule)
    (mode : PromptProtectionRuntimeMode) (enforcing : mode ≠ .disabled) :
    strength (applyPromptProtectionRuntimeConfigToJson value ⟨mode, false, rules⟩).detectedAction ≤
        strength (applyPromptProtectionRuntimeConfigToJson value
          ⟨mode, true, rules⟩).detectedAction ↔
      (∃ text ∈ strings value, hasInjectionPhrase text.toList = true) ∨
        (RejectKept (configuredMatches rules value) →
          RejectKept ((remainingTexts value).flatMap (matchesAt rules))) ∧
        (configuredMatches rules value = [] ∨ ReportsSecret value ∨
          ∃ text ∈ remainingTexts value, matchingRules text.1 text.2.toList rules ≠ []) := by
  have left : (applyPromptProtectionRuleSetToJson (protectPromptJson value).safe rules).action ≠
      .allow ↔ ∃ text ∈ remainingTexts value, matchingRules text.1 text.2.toList rules ≠ [] := by
    rw [Ne, action_eq_allow_iff, configuredMatches, scannedTexts_safe]
    simp [matchesAt]
  rw [← left, ← scannedTexts_safe, ← configuredMatches, ← action_eq_reject_iff,
    ← action_eq_reject_iff, ← action_eq_allow_iff, ← default_action_eq_reject_iff]
  simp only [applyPromptProtectionRuntimeConfigToJson, if_neg enforcing, Bool.false_eq_true,
    if_false, if_true, Option.map_none, Option.map_some, Option.getD_none, Option.getD_some]
  rw [strength_strongest_le_iff]
  by_cases rejected : (protectPromptJson value).action = .reject
  · simp [rejected]
  · rw [default_action_ne_allow_iff rejected]

/-- An address hides a match in the first text and is not reported; the second is left as it is. -/
def spamTwice : JsonDocument :=
  .object [("first", .string "bob@spam.com"), ("second", .string "spam")]

theorem default_rules_keep_strength_iff_spam :
    leftOf (some "bob@spam.com") = "[REDACTED]" ∧ ¬ ReportsSecret spamTwice ∧
      strength (applyPromptProtectionRuntimeConfigToJson spamTwice
          ⟨.enforce, false, [spamRule .reject]⟩).detectedAction ≤
        strength (applyPromptProtectionRuntimeConfigToJson spamTwice
          ⟨.enforce, true, [spamRule .reject]⟩).detectedAction :=
  ⟨by decide, by decide,
    (default_rules_keep_strength_iff spamTwice [spamRule .reject] .enforce nofun).mpr
      (.inr ⟨fun _ => by decide, .inr (.inr (by decide))⟩)⟩

theorem rule_hidden_by_email_redaction :
    (applyPromptProtectionRuntimeConfigToJson (.string "bob@spam.com")
        ⟨.enforce, false, [spamRule .reject]⟩).detectedAction = .reject ∧
      (applyPromptProtectionRuntimeConfigToJson (.string "bob@spam.com")
        ⟨.enforce, true, [spamRule .reject]⟩).detectedAction = .allow := by
  decide

end FuboxApi.ConfiguredRules
