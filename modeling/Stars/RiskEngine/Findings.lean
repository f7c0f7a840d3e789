import Stars.RiskEngine.Rules

namespace Stars
namespace RiskEngine

open PermissionEngine

/-!
# Findings follow the audited right

The rights a finding names are read back from its rule and its text.  The
findings about a row name the audited rights of the row and no others, and
evaluating results one by one gives the findings of the whole scan in the same
order.
-/

/-- A rule that judges each result on its own. -/
def Rowwise (rule : RiskRule) : Prop := ∀ rows, rule rows = rows.flatMap (fun row => rule [row])

theorem rowwise_filterMap (step : EffectivePermission → Option RiskFinding) :
    Rowwise (fun rows => rows.filterMap step) := by
  intro rows
  induction rows with
  | nil => rfl
  | cons row rest ih =>
      rw [List.flatMap_cons, ← ih]
      dsimp only
      cases found : step row with
      | none => rw [List.filterMap_cons_none found, List.filterMap_cons_none found]; rfl
      | some result => rw [List.filterMap_cons_some found, List.filterMap_cons_some found]; rfl

theorem rowwise_flatMap (step : EffectivePermission → List RiskFinding) :
    Rowwise (fun rows => rows.flatMap step) := by
  intro rows
  dsimp only
  apply congrArg (fun step => List.flatMap step rows)
  funext row
  exact (List.flatMap_singleton step row).symm

theorem rowwise_filter_map (keep : EffectivePermission → Bool)
    (step : EffectivePermission → RiskFinding) :
    Rowwise (fun rows => (rows.filter keep).map step) := by
  intro rows
  induction rows with
  | nil => rfl
  | cons row rest ih =>
      rw [List.flatMap_cons, ← ih]
      cases kept : keep row <;> simp [kept]

theorem rowwise_withDefaults (toLowercase : String → String) :
    ∀ rule ∈ (RuleRegistry.withDefaults toLowercase).rules, Rowwise rule := by
  intro rule member
  simp only [RuleRegistry.withDefaults, List.mem_cons, List.not_mem_nil, or_false] at member
  rcases member with rfl | rfl | rfl | rfl | rfl | rfl
  · exact rowwise_filterMap fullControlFinding
  · exact rowwise_filterMap writeAccessFinding
  · exact rowwise_flatMap adminRightsFindings
  · exact rowwise_filterMap broadGroupWriteFinding
  · exact rowwise_filter_map hasDirectAce directUserAceFinding
  · exact rowwise_filter_map (isSensitive toLowercase) (sensitivePathFinding toLowercase)

theorem extendEach_map (rows : List EffectivePermission) (rules : List RiskRule)
    (found : RiskRule → List RiskFinding) :
    extendEach rows rules (rules.map found) = rules.map (fun rule => found rule ++ rule rows) := by
  induction rules with
  | nil => rfl
  | cons rule rest ih => rw [List.map_cons, List.map_cons, extendEach, ih]

/-- After any results, each rule has its findings about exactly these. -/
theorem foldl_add_perRule (registry : RuleRegistry) (rows : List EffectivePermission)
    (found : RiskRule → List RiskFinding) :
    rows.foldl RiskAccumulator.add ⟨registry, registry.rules.map found⟩ =
      ⟨registry, registry.rules.map (fun rule =>
        found rule ++ rows.flatMap (fun row => rule [row]))⟩ := by
  induction rows generalizing found with
  | nil => simp
  | cons row rest ih =>
      rw [List.foldl_cons, RiskAccumulator.add]
      dsimp only
      rw [extendEach_map, ih]
      simp only [List.flatMap_cons, List.append_assoc]

theorem evaluateStreamed_eq {registry : RuleRegistry}
    (rowwise : ∀ rule ∈ registry.rules, Rowwise rule) (rows : List EffectivePermission) :
    registry.evaluateStreamed rows = registry.evaluateAll rows := by
  have start : registry.accumulator = ⟨registry, registry.rules.map (fun _ => [])⟩ := by
    rw [RuleRegistry.accumulator, List.map_const']
  rw [RuleRegistry.evaluateStreamed, start, foldl_add_perRule, RiskAccumulator.finish,
    RuleRegistry.evaluateAll, List.flatMap_def]
  congr 1
  apply List.map_congr_left
  intro rule member
  rw [List.nil_append]
  exact (rowwise rule member rows).symm

/-- The rights a finding about a row names, by its rule and, where the rule has
several wordings, by its text. -/
inductive Names (row : EffectivePermission) (found : RiskFinding) : AccessMask → Prop where
  | fullControl (rule : found.ruleId = "FULL_CONTROL") : Names row found maskFullControl
  | modify (rule : found.ruleId = "WRITE_ACCESS")
      (text : found.description = writeAccessDescription row "Modify") :
      Names row found maskModify
  | write (rule : found.ruleId = "WRITE_ACCESS")
      (text : found.description = writeAccessDescription row "Write") :
      Names row found maskWrite
  | partialWrite (mask : AccessMask) (rule : found.ruleId = "PARTIAL_WRITE")
      (text : found.description = partialWriteDescription row (contentWriteBitNames mask)) :
      Names row found (mask &&& contentWriteBits)
  | permissionChange (rule : found.ruleId = "PERMISSION_CHANGE") : Names row found fileWriteDac
  | ownerChange (rule : found.ruleId = "OWNER_CHANGE") : Names row found fileWriteOwner
  | deleteRight (rule : found.ruleId = "DELETE_RIGHT") : Names row found fileDelete
  | deleteChildRight (rule : found.ruleId = "DELETE_CHILD_RIGHT") : Names row found fileDeleteChild

/-- The rules about a part of Full Control. -/
def partialRightRules : List String :=
  ["WRITE_ACCESS", "PARTIAL_WRITE", "PERMISSION_CHANGE", "OWNER_CHANGE", "DELETE_RIGHT",
    "DELETE_CHILD_RIGHT"]

/-- The rules with a single wording, and what they name. -/
def ruleRights : List (String × AccessMask) :=
  [("FULL_CONTROL", maskFullControl), ("PERMISSION_CHANGE", fileWriteDac),
    ("OWNER_CHANGE", fileWriteOwner), ("DELETE_RIGHT", fileDelete),
    ("DELETE_CHILD_RIGHT", fileDeleteChild)]

/-- The rules whose text says what is named. -/
def writeRules : List String := ["WRITE_ACCESS", "PARTIAL_WRITE"]

/-- The rights that the partial findings are about. -/
def auditedBits : List AccessMask :=
  [fileWriteData, fileAppendData, fileWriteDac, fileWriteOwner, fileDelete, fileDeleteChild]

theorem contains_iff {mask level : AccessMask} :
    contains mask level = true ↔ mask &&& level = level := by
  rw [contains, decide_eq_true_eq]

/-- A single bit that a mask meets is contained in it. -/
theorem contains_of_meets {mask bit : AccessMask} (place : Nat)
    (single : bit = BitVec.twoPow 32 place) (meets : mask &&& bit ≠ 0#32) : contains mask bit = true := by
  rw [contains_iff]
  rw [single, BitVec.and_twoPow] at meets ⊢
  split at meets
  · rename_i set
    rw [if_pos set]
  · exact absurd rfl meets

theorem contains_audited {mask bit : AccessMask} (audited : bit ∈ auditedBits)
    (meets : mask &&& bit ≠ 0#32) : contains mask bit = true := by
  simp only [auditedBits, List.mem_cons, List.not_mem_nil, or_false] at audited
  rcases audited with rfl | rfl | rfl | rfl | rfl | rfl
  · exact contains_of_meets 1 (by decide) meets
  · exact contains_of_meets 2 (by decide) meets
  · exact contains_of_meets 18 (by decide) meets
  · exact contains_of_meets 19 (by decide) meets
  · exact contains_of_meets 16 (by decide) meets
  · exact contains_of_meets 6 (by decide) meets

theorem contains_trans {mask level part : AccessMask} (outer : contains mask level = true)
    (inner : contains level part = true) : contains mask part = true := by
  rw [contains_iff] at outer inner ⊢
  calc
    mask &&& part = mask &&& (level &&& part) := by rw [inner]
    _ = mask &&& level &&& part := (BitVec.and_assoc mask level part).symm
    _ = part := by rw [outer, inner]

theorem wrapped_injective {before after first second : String}
    (same : before ++ first ++ after = before ++ second ++ after) : first = second := by
  apply String.toList_injective
  have letters := congrArg String.toList same
  rw [String.toList_append, String.toList_append, String.toList_append, String.toList_append]
    at letters
  exact List.append_cancel_left (List.append_cancel_right letters)

theorem writeAccessDescription_injective {row : EffectivePermission} {first second : String}
    (same : writeAccessDescription row first = writeAccessDescription row second) :
    first = second := by
  have parts : ∀ level, writeAccessDescription row level =
      ("'" ++ subject row ++ "' " ++ (AuditedRight.of row).has ++ " ") ++ level ++
        (" access — " ++ (AuditedRight.of row).can ++ " create or modify files" ++
          (AuditedRight.of row).note) := by
    intro level
    simp only [writeAccessDescription, toString, String.append_assoc]
  rw [parts, parts] at same
  exact wrapped_injective same

theorem partialWriteDescription_injective {row : EffectivePermission} {first second : String}
    (same : partialWriteDescription row first = partialWriteDescription row second) :
    first = second := by
  have parts : ∀ bits, partialWriteDescription row bits =
      ("'" ++ subject row ++ "' " ++ (AuditedRight.of row).can ++
        " write file content via special permissions (") ++ bits ++
        (") " ++ ("without the full Write composite" ++ (AuditedRight.of row).note)) := by
    intro bits
    simp only [partialWriteDescription, toString, String.append_assoc]
  rw [parts, parts] at same
  exact wrapped_injective same

/-- The names listed for two flags. -/
private def flagNames (data append : Bool) : String :=
  Text.join " + "
    ((if data then ["FILE_WRITE_DATA"] else []) ++ (if append then ["FILE_APPEND_DATA"] else []))

private theorem flagNames_injective : ∀ data append data' append' : Bool,
    flagNames data append = flagNames data' append' → data = data' ∧ append = append' := by
  decide

theorem and_audited (mask : AccessMask) {bit : AccessMask} (audited : bit ∈ auditedBits) :
    mask &&& bit = if mask &&& bit ≠ 0#32 then bit else 0#32 := by
  by_cases meets : mask &&& bit ≠ 0#32
  · rw [if_pos meets]
    exact contains_iff.mp (contains_audited audited meets)
  · rw [if_neg meets]
    exact not_not.mp meets

/-- The listed names determine the content-write bits of a mask. -/
theorem contentWriteBitNames_injective {first second : AccessMask}
    (same : contentWriteBitNames first = contentWriteBitNames second) :
    first &&& contentWriteBits = second &&& contentWriteBits := by
  have flags : ∀ mask : AccessMask, contentWriteBitNames mask =
      flagNames (mask &&& fileWriteData ≠ 0#32) (mask &&& fileAppendData ≠ 0#32) := by
    intro mask
    simp only [contentWriteBitNames, flagNames, decide_eq_true_eq]
  rw [flags, flags] at same
  rcases flagNames_injective _ _ _ _ same with ⟨data, append⟩
  have data' := decide_eq_decide.mp data
  have append' := decide_eq_decide.mp append
  have parts : ∀ mask : AccessMask, mask &&& contentWriteBits =
      (mask &&& fileWriteData) ||| (mask &&& fileAppendData) :=
    fun mask => BitVec.and_or_distrib_left
  have dataBit : fileWriteData ∈ auditedBits := by decide
  have appendBit : fileAppendData ∈ auditedBits := by decide
  rw [parts, parts, and_audited first dataBit, and_audited first appendBit,
    and_audited second dataBit, and_audited second appendBit]
  simp only [data', append']

/-! ## What each rule reports -/

@[simp]
theorem mask_of (row : EffectivePermission) :
    (AuditedRight.of row).mask = row.effectiveUpperBound := by
  rw [AuditedRight.of]
  split <;> rfl

@[simp]
theorem finding_incomplete (row : EffectivePermission) (ruleId : String) (severity : RiskSeverity)
    (description : String) :
    (finding row ruleId severity description).incomplete = row.isIncomplete := rfl

theorem fullControlFinding_spec {row : EffectivePermission} {found : RiskFinding}
    (reported : fullControlFinding row = some found) :
    contains row.effectiveUpperBound maskFullControl = true ∧ found.ruleId = "FULL_CONTROL" ∧
      found.incomplete = row.isIncomplete := by
  rw [fullControlFinding] at reported
  simp only [mask_of, Bool.not_eq_eq_eq_not, Bool.not_true] at reported
  split at reported
  · cases reported
  · rename_i held
    cases reported
    exact ⟨by simpa using held, rfl, rfl⟩

/-- The forms of a finding about write access. -/
inductive WriteFinding (row : EffectivePermission) (found : RiskFinding) : Prop where
  | modify (held : contains row.effectiveUpperBound maskModify = true)
      (text : found = finding row "WRITE_ACCESS" .high (writeAccessDescription row "Modify"))
  | write (held : contains row.effectiveUpperBound maskWrite = true)
      (text : found = finding row "WRITE_ACCESS" .high (writeAccessDescription row "Write"))
  | partialWrite (text : found = finding row "PARTIAL_WRITE" .medium
      (partialWriteDescription row (contentWriteBitNames row.effectiveUpperBound)))

theorem writeAccessFinding_spec {row : EffectivePermission} {found : RiskFinding}
    (reported : writeAccessFinding row = some found) :
    contains row.effectiveUpperBound maskFullControl = false ∧ WriteFinding row found := by
  rw [writeAccessFinding] at reported
  simp only [mask_of] at reported
  split at reported
  · cases reported
  · rename_i notFull
    refine ⟨by simpa using notFull, ?_⟩
    split at reported
    · rename_i composite
      by_cases modify : contains row.effectiveUpperBound maskModify = true
      · rw [if_pos modify] at reported
        exact WriteFinding.modify modify (Option.some.inj reported).symm
      · rw [if_neg modify] at reported
        rw [Bool.or_eq_true] at composite
        exact WriteFinding.write (composite.resolve_left modify) (Option.some.inj reported).symm
    · split at reported
      · exact WriteFinding.partialWrite (Option.some.inj reported).symm
      · cases reported

/-- Below Full Control, every content-write bit leads to a finding that names
it. -/
theorem writeAccessFinding_covers {row : EffectivePermission} {bit : AccessMask}
    (notFull : contains row.effectiveUpperBound maskFullControl = false)
    (content : bit = fileWriteData ∨ bit = fileAppendData)
    (meets : row.effectiveUpperBound &&& bit ≠ 0#32) :
    ∃ found rights, writeAccessFinding row = some found ∧ Names row found rights ∧
      contains rights bit = true := by
  rw [writeAccessFinding]
  simp only [mask_of, notFull, Bool.false_eq_true, if_false]
  by_cases modify : contains row.effectiveUpperBound maskModify = true
  · simp only [modify, Bool.true_or, if_true]
    refine ⟨_, maskModify, rfl, Names.modify rfl rfl, ?_⟩
    rcases content with rfl | rfl <;> decide
  · by_cases write : contains row.effectiveUpperBound maskWrite = true
    · simp only [modify, write, Bool.or_true, if_true, Bool.false_eq_true, if_false]
      refine ⟨_, maskWrite, rfl, Names.write rfl rfl, ?_⟩
      rcases content with rfl | rfl <;> decide
    · have audited : bit ∈ auditedBits := by rcases content with rfl | rfl <;> decide
      have inside : contains contentWriteBits bit = true := by
        rcases content with rfl | rfl <;> decide
      have held := contains_iff.mp (contains_audited audited meets)
      have rights : (row.effectiveUpperBound &&& contentWriteBits) &&& bit = bit := by
        rw [BitVec.and_assoc, contains_iff.mp inside, held]
      have some : row.effectiveUpperBound &&& contentWriteBits ≠ 0#32 := by
        intro none
        rw [none, BitVec.zero_and] at rights
        rw [← rights, BitVec.and_zero] at meets
        exact meets rfl
      simp only [modify, write, Bool.or_false, Bool.false_eq_true, if_false, some, ne_eq,
        not_false_eq_true, if_true]
      exact ⟨_, _, rfl, Names.partialWrite _ rfl rfl, contains_iff.mpr rights⟩

theorem mem_singleRight_iff {row : EffectivePermission} {bit : AccessMask} {ruleId effect : String}
    {severity : RiskSeverity} {found : RiskFinding} :
    found ∈ singleRight row bit ruleId severity effect ↔
      row.effectiveUpperBound &&& bit ≠ 0#32 ∧
        found = finding row ruleId severity
          ("'" ++ subject row ++ "' " ++ (AuditedRight.of row).can ++ " " ++ effect ++
            (AuditedRight.of row).note) := by
  rw [singleRight]
  simp only [mask_of, toString]
  split
  · rename_i meets
    rw [List.mem_singleton]
    simp only [String.append_assoc]
    exact ⟨fun same => ⟨meets, same⟩, fun reported => reported.2⟩
  · rename_i misses
    constructor
    · intro absent
      cases absent
    · intro reported
      exact absurd reported.1 misses

theorem mem_adminRightsFindings_iff {row : EffectivePermission} {found : RiskFinding} :
    found ∈ adminRightsFindings row ↔
      contains row.effectiveUpperBound maskFullControl = false ∧
        (found ∈ permissionChange row ∨ found ∈ ownerChange row ∨ found ∈ deleteRight row ∨
          found ∈ deleteChildRight row) := by
  rw [adminRightsFindings, mask_of]
  cases held : contains row.effectiveUpperBound maskFullControl with
  | true => simp
  | false => simp

theorem broadGroupWriteFinding_spec {row : EffectivePermission} {found : RiskFinding}
    (reported : broadGroupWriteFinding row = some found) :
    found.ruleId = "BROAD_GROUP_WRITE" ∧ found.incomplete = row.isIncomplete := by
  rw [broadGroupWriteFinding] at reported
  dsimp only at reported
  split at reported
  · cases reported
  · rcases Option.map_eq_some_iff.mp reported with ⟨broad, _, rfl⟩
    exact ⟨rfl, rfl⟩

section Row

variable {toLowercase : String → String} {row : EffectivePermission} {found : RiskFinding}
  {rights : AccessMask}

theorem mem_evaluateAll_row_iff :
    found ∈ (RuleRegistry.withDefaults toLowercase).evaluateAll [row] ↔
      fullControlFinding row = some found ∨ writeAccessFinding row = some found ∨
        found ∈ adminRightsFindings row ∨ broadGroupWriteFinding row = some found ∨
        (hasDirectAce row = true ∧ found = directUserAceFinding row) ∨
        (isSensitive toLowercase row = true ∧ found = sensitivePathFinding toLowercase row) := by
  have single : ∀ step : EffectivePermission → Option RiskFinding,
      found ∈ [row].filterMap step ↔ step row = some found := by
    intro step
    simp [List.mem_filterMap]
  have kept : ∀ (keep : EffectivePermission → Bool) (step : EffectivePermission → RiskFinding),
      found ∈ ([row].filter keep).map step ↔ keep row = true ∧ found = step row := by
    intro keep step
    cases held : keep row <;> simp [held]
  simp only [RuleRegistry.evaluateAll, RuleRegistry.withDefaults, List.flatMap_cons,
    List.flatMap_nil, List.mem_append, fullControlRule, writeAccessRule, adminRightsRule,
    broadGroupWriteRule, directUserAceRule, sensitivePathRule, single, kept, List.append_nil]

/-- A scan's findings are those of its rows. -/
theorem mem_evaluateAll_iff {registry : RuleRegistry}
    (rowwise : ∀ rule ∈ registry.rules, Rowwise rule) {rows : List EffectivePermission} :
    found ∈ registry.evaluateAll rows ↔ ∃ row ∈ rows, found ∈ registry.evaluateAll [row] := by
  simp only [RuleRegistry.evaluateAll, List.mem_flatMap]
  constructor
  · intro reported
    rcases reported with ⟨rule, member, listed⟩
    rw [rowwise rule member, List.mem_flatMap] at listed
    rcases listed with ⟨row, rowMem, listed⟩
    exact ⟨row, rowMem, rule, member, listed⟩
  · intro reported
    rcases reported with ⟨row, rowMem, rule, member, listed⟩
    refine ⟨rule, member, ?_⟩
    rw [rowwise rule member, List.mem_flatMap]
    exact ⟨row, rowMem, listed⟩

/-- Apart from the rules with several wordings, the rule alone decides what is
named. -/
theorem Names.rule_or_write (names : Names row found rights) :
    (found.ruleId, rights) ∈ ruleRights ∨ found.ruleId ∈ writeRules := by
  cases names with
  | fullControl rule => rw [rule]; decide
  | modify rule => rw [rule]; decide
  | write rule => rw [rule]; decide
  | partialWrite mask rule => rw [rule]; exact Or.inr (by decide)
  | permissionChange rule => rw [rule]; decide
  | ownerChange rule => rw [rule]; decide
  | deleteRight rule => rw [rule]; decide
  | deleteChildRight rule => rw [rule]; decide

theorem names_fullControl (rule : found.ruleId = "FULL_CONTROL") (names : Names row found rights) :
    rights = maskFullControl := by
  have named := names.rule_or_write
  rw [rule] at named
  simpa [ruleRights, writeRules] using named

/-- A finding of another rule names no right. -/
theorem not_names_of_ruleId
    (other : found.ruleId ∈ ["BROAD_GROUP_WRITE", "DIRECT_USER_ACE", "SENSITIVE_PATH"]) :
    ¬ Names row found rights := by
  intro names
  have named := names.rule_or_write
  simp only [List.mem_cons, List.not_mem_nil, or_false] at other
  rcases other with rule | rule | rule <;> rw [rule] at named <;>
    simp [ruleRights, writeRules] at named

theorem names_singleRight {bit : AccessMask} {ruleId effect : String} {severity : RiskSeverity}
    (listed : (ruleId, bit) ∈ ruleRights)
    (reported : found ∈ singleRight row bit ruleId severity effect)
    (names : Names row found rights) : rights = bit := by
  have named := names.rule_or_write
  have rule : found.ruleId = ruleId := by
    rw [(mem_singleRight_iff.mp reported).2]
    rfl
  rw [rule] at named
  simp only [ruleRights, List.mem_cons, Prod.mk.injEq, List.not_mem_nil, or_false] at listed
  rcases listed with ⟨rfl, rfl⟩ | ⟨rfl, rfl⟩ | ⟨rfl, rfl⟩ | ⟨rfl, rfl⟩ | ⟨rfl, rfl⟩ <;>
    simpa [ruleRights, writeRules] using named

theorem names_writeAccess (rule : found.ruleId = "WRITE_ACCESS") (names : Names row found rights) :
    (found.description = writeAccessDescription row "Modify" ∧ rights = maskModify) ∨
      (found.description = writeAccessDescription row "Write" ∧ rights = maskWrite) := by
  cases names with
  | modify _ text => exact Or.inl ⟨text, rfl⟩
  | write _ text => exact Or.inr ⟨text, rfl⟩
  | fullControl other | partialWrite _ other | permissionChange other | ownerChange other
  | deleteRight other | deleteChildRight other => exact absurd (rule.symm.trans other) (by decide)

theorem names_partialWrite (rule : found.ruleId = "PARTIAL_WRITE")
    (names : Names row found rights) :
    ∃ mask, found.description = partialWriteDescription row (contentWriteBitNames mask) ∧
      rights = mask &&& contentWriteBits := by
  cases names with
  | partialWrite mask _ text => exact ⟨mask, text, rfl⟩
  | fullControl other | modify other | write other | permissionChange other | ownerChange other
  | deleteRight other | deleteChildRight other => exact absurd (rule.symm.trans other) (by decide)

theorem names_writeFinding (form : WriteFinding row found) (names : Names row found rights) :
    contains row.effectiveUpperBound rights = true := by
  cases form with
  | modify held text =>
      subst text
      rcases names_writeAccess rfl names with ⟨_, rfl⟩ | ⟨_, rfl⟩
      · exact held
      · exact contains_trans held (by decide)
  | write held text =>
      subst text
      rcases names_writeAccess rfl names with ⟨same, _⟩ | ⟨_, rfl⟩
      · exact absurd (writeAccessDescription_injective same) (by decide)
      · exact held
  | partialWrite text =>
      subst text
      rcases names_partialWrite rfl names with ⟨mask, same, rfl⟩
      have bits := contentWriteBitNames_injective (partialWriteDescription_injective same)
      rw [← bits, contains_iff, ← BitVec.and_assoc, BitVec.and_self]

/-! ## The findings about a row -/

/-- No finding names a right outside the audited one. -/
theorem names_within
    (reported : found ∈ (RuleRegistry.withDefaults toLowercase).evaluateAll [row])
    (names : Names row found rights) : contains row.effectiveUpperBound rights = true := by
  rcases mem_evaluateAll_row_iff.mp reported with full | write | admin | broad | direct | sensitive
  · rcases fullControlFinding_spec full with ⟨held, rule, _⟩
    rw [names_fullControl rule names]
    exact held
  · exact names_writeFinding (writeAccessFinding_spec write).2 names
  · have held : ∀ {bit : AccessMask} {ruleId effect : String} {severity : RiskSeverity},
        (ruleId, bit) ∈ ruleRights → bit ∈ auditedBits →
        found ∈ singleRight row bit ruleId severity effect →
        contains row.effectiveUpperBound rights = true := by
      intro bit ruleId effect severity listed audited single
      rw [names_singleRight listed single names]
      exact contains_audited audited (mem_singleRight_iff.mp single).1
    rcases (mem_adminRightsFindings_iff.mp admin).2 with single | single | single | single
    · exact held (by decide) (by decide) single
    · exact held (by decide) (by decide) single
    · exact held (by decide) (by decide) single
    · exact held (by decide) (by decide) single
  · rcases broadGroupWriteFinding_spec broad with ⟨rule, _⟩
    exact absurd names (not_names_of_ruleId (by rw [rule]; decide))
  · rw [direct.2] at names
    exact absurd names (not_names_of_ruleId (List.mem_cons_of_mem _ List.mem_cons_self))
  · rw [sensitive.2] at names
    exact absurd names (not_names_of_ruleId
      (List.mem_cons_of_mem _ (List.mem_cons_of_mem _ List.mem_cons_self)))

/-- Below Full Control every audited right is named by a finding. -/
theorem named_of_meets {bit : AccessMask}
    (notFull : contains row.effectiveUpperBound maskFullControl = false)
    (audited : bit ∈ auditedBits) (meets : row.effectiveUpperBound &&& bit ≠ 0#32) :
    ∃ found ∈ (RuleRegistry.withDefaults toLowercase).evaluateAll [row],
      ∃ rights, Names row found rights ∧ contains rights bit = true := by
  have admin : ∀ found, (found ∈ permissionChange row ∨ found ∈ ownerChange row ∨
      found ∈ deleteRight row ∨ found ∈ deleteChildRight row) →
      found ∈ (RuleRegistry.withDefaults toLowercase).evaluateAll [row] := by
    intro found single
    apply mem_evaluateAll_row_iff.mpr
    exact Or.inr (Or.inr (Or.inl (mem_adminRightsFindings_iff.mpr ⟨notFull, single⟩)))
  have content : bit = fileWriteData ∨ bit = fileAppendData →
      ∃ found ∈ (RuleRegistry.withDefaults toLowercase).evaluateAll [row],
        ∃ rights, Names row found rights ∧ contains rights bit = true := by
    intro content
    rcases writeAccessFinding_covers notFull content meets with
      ⟨found, rights, reported, names, inside⟩
    exact ⟨found, mem_evaluateAll_row_iff.mpr (Or.inr (Or.inl reported)), rights, names, inside⟩
  simp only [auditedBits, List.mem_cons, List.not_mem_nil, or_false] at audited
  rcases audited with data | append | rfl | rfl | rfl | rfl
  · exact content (Or.inl data)
  · exact content (Or.inr append)
  · refine ⟨_, admin _ (Or.inl (mem_singleRight_iff.mpr ⟨meets, rfl⟩)), fileWriteDac, ?_, by decide⟩
    exact Names.permissionChange rfl
  · refine ⟨_, admin _ (Or.inr (Or.inl (mem_singleRight_iff.mpr ⟨meets, rfl⟩))), fileWriteOwner, ?_,
      by decide⟩
    exact Names.ownerChange rfl
  · refine ⟨_, admin _ (Or.inr (Or.inr (Or.inl (mem_singleRight_iff.mpr ⟨meets, rfl⟩)))),
      fileDelete, ?_, by decide⟩
    exact Names.deleteRight rfl
  · refine ⟨_, admin _ (Or.inr (Or.inr (Or.inr (mem_singleRight_iff.mpr ⟨meets, rfl⟩)))),
      fileDeleteChild, ?_, by decide⟩
    exact Names.deleteChildRight rfl

/-- With Full Control it alone is reported of these rights. -/
theorem fullControl_reported (full : contains row.effectiveUpperBound maskFullControl = true) :
    (∃ found ∈ (RuleRegistry.withDefaults toLowercase).evaluateAll [row],
        found.ruleId = "FULL_CONTROL") ∧
      ∀ found ∈ (RuleRegistry.withDefaults toLowercase).evaluateAll [row],
        found.ruleId ∉ partialRightRules := by
  constructor
  · cases reported : fullControlFinding row with
    | none =>
        rw [fullControlFinding] at reported
        simp [full] at reported
    | some found =>
        refine ⟨found, mem_evaluateAll_row_iff.mpr (Or.inl reported), ?_⟩
        exact (fullControlFinding_spec reported).2.1
  · intro found reported
    rcases mem_evaluateAll_row_iff.mp reported with
      all | write | admin | broad | direct | sensitive
    · rw [(fullControlFinding_spec all).2.1]
      decide
    · have notFull := (writeAccessFinding_spec write).1
      rw [full] at notFull
      contradiction
    · have notFull := (mem_adminRightsFindings_iff.mp admin).1
      rw [full] at notFull
      contradiction
    · rw [(broadGroupWriteFinding_spec broad).1]
      decide
    · rw [direct.2]
      exact (by decide : "DIRECT_USER_ACE" ∉ partialRightRules)
    · rw [sensitive.2]
      exact (by decide : "SENSITIVE_PATH" ∉ partialRightRules)

theorem incomplete_of_reported
    (reported : found ∈ (RuleRegistry.withDefaults toLowercase).evaluateAll [row]) :
    found.incomplete = row.isIncomplete := by
  rcases mem_evaluateAll_row_iff.mp reported with full | write | admin | broad | direct | sensitive
  · exact (fullControlFinding_spec full).2.2
  · cases (writeAccessFinding_spec write).2 with
    | modify _ text | write _ text | partialWrite text => rw [text, finding_incomplete]
  · rcases (mem_adminRightsFindings_iff.mp admin).2 with single | single | single | single <;>
      rw [(mem_singleRight_iff.mp single).2, finding_incomplete]
  · exact (broadGroupWriteFinding_spec broad).2
  · rw [direct.2]
    exact finding_incomplete row _ _ _
  · rw [sensitive.2]
    exact finding_incomplete row _ _ _

end Row

/-- Risk findings follow the audited right.  With Full Control in it, that is
reported and no partial right; otherwise every audited bit of it is named, and
nothing outside it.  A finding is incomplete exactly when its row is.  Results
that arrive one by one lead to the findings of the whole scan, in its order. -/
theorem findings_follow_auditedRight (toLowercase : String → String) :
    (∀ row : EffectivePermission,
      (contains row.effectiveUpperBound maskFullControl = true →
        (∃ found ∈ (RuleRegistry.withDefaults toLowercase).evaluateAll [row],
          found.ruleId = "FULL_CONTROL") ∧
        ∀ found ∈ (RuleRegistry.withDefaults toLowercase).evaluateAll [row],
          found.ruleId ∉ partialRightRules) ∧
      (contains row.effectiveUpperBound maskFullControl = false →
        ∀ bit ∈ auditedBits, row.effectiveUpperBound &&& bit ≠ 0#32 →
          ∃ found ∈ (RuleRegistry.withDefaults toLowercase).evaluateAll [row],
            ∃ rights, Names row found rights ∧ contains rights bit = true) ∧
      (∀ found ∈ (RuleRegistry.withDefaults toLowercase).evaluateAll [row],
        found.incomplete = row.isIncomplete ∧
          ∀ rights, Names row found rights → contains row.effectiveUpperBound rights = true)) ∧
    ∀ rows : List EffectivePermission,
      (∀ found, found ∈ (RuleRegistry.withDefaults toLowercase).evaluateAll rows ↔
        ∃ row ∈ rows, found ∈ (RuleRegistry.withDefaults toLowercase).evaluateAll [row]) ∧
      (RuleRegistry.withDefaults toLowercase).evaluateStreamed rows =
        (RuleRegistry.withDefaults toLowercase).evaluateAll rows := by
  have rowwise := rowwise_withDefaults toLowercase
  refine ⟨?_, fun rows => ⟨fun found => mem_evaluateAll_iff rowwise,
    evaluateStreamed_eq rowwise rows⟩⟩
  intro row
  refine ⟨fullControl_reported, ?_, ?_⟩
  · intro notFull bit audited meets
    exact named_of_meets notFull audited meets
  · intro found reported
    exact ⟨incomplete_of_reported reported, fun rights names => names_within reported names⟩

section Example

private def holding (mask : AccessMask) : EffectivePermission where
  identity := { sid := ⟨"S-1-5-21-1-2-3-1001"⟩ }
  path := "C:\\data"
  ntfsMask := mask
  shareMask := none
  effectiveMask := mask

/-- Append-only access with the right to change permissions: both rights are
named.  Full Control is reported as such. -/
theorem findings_of_appendOnly :
    (∃ found ∈ (RuleRegistry.withDefaults id).evaluateAll [holding 0x40004#32],
        ∃ rights, Names (holding 0x40004#32) found rights ∧
          contains rights fileAppendData = true) ∧
      ((RuleRegistry.withDefaults id).evaluateAll [holding 0x40004#32]).map RiskFinding.ruleId =
        ["PARTIAL_WRITE", "PERMISSION_CHANGE"] ∧
      (∃ found ∈ (RuleRegistry.withDefaults id).evaluateAll [holding 0x1f01ff#32],
        found.ruleId = "FULL_CONTROL") := by
  have rows := (findings_follow_auditedRight id).1
  refine ⟨?_, by decide, ?_⟩
  · exact (rows (holding 0x40004#32)).2.1 (by decide) fileAppendData (by decide)
      (by decide)
  · exact ((rows (holding 0x1f01ff#32)).1 (by decide)).1

end Example

end RiskEngine
end Stars
