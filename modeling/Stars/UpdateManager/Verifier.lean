import Stars.Collections.Fallible
import Stars.UpdateManager.Version

namespace Stars
namespace UpdateManager

open Std

/-!
# Update policy

An update is released for installation when it is meant for this platform and
channel, when its version is higher than the installed one, and when its issue
time lies in the allowed window.  Every update that passes becomes the
installed version against which the next one is checked.
-/

inductive UpdateChannel where
  | stable
  | preview
  | internal
  | offline
deriving DecidableEq

/-- The name of a channel in messages. -/
def UpdateChannel.debug : UpdateChannel → String
  | stable => "Stable"
  | preview => "Preview"
  | internal => "Internal"
  | offline => "Offline"

inductive TargetPlatform where
  | windowsX8664
  | windowsAarch64
deriving DecidableEq

/-- The name of a platform in messages. -/
def TargetPlatform.debug : TargetPlatform → String
  | windowsX8664 => "WindowsX86_64"
  | windowsAarch64 => "WindowsAarch64"

structure UpdateManifest where
  appVersion : String
  channel : UpdateChannel
  platform : TargetPlatform
  issuedAt : String
deriving DecidableEq

/-- The context of a release decision.  Points in time and durations are counted
in nanoseconds. -/
structure UpdatePolicyContext where
  currentVersion : String
  currentPlatform : TargetPlatform
  allowedChannel : UpdateChannel
  allowDowngrade : Bool
  nowUtc : Int
  maxAge : Int
  maxFutureSkew : Int
deriving DecidableEq

def compareDottedVersions (left right : String) : Except CoreError Ordering := do
  let leftVersion ← AppVersion.parse left
  let rightVersion ← AppVersion.parse right
  return AppVersion.cmp leftVersion rightVersion

/-- The order of version texts: both are versions and the first is lower. -/
def Precedes (older newer : String) : Prop := compareDottedVersions older newer = .ok .lt

theorem compareDottedVersions_eq_ok_iff {left right : String} {ordering : Ordering} :
    compareDottedVersions left right = .ok ordering ↔
      ∃ leftVersion rightVersion, AppVersion.parse left = .ok leftVersion ∧
        AppVersion.parse right = .ok rightVersion ∧
        AppVersion.cmp leftVersion rightVersion = ordering := by
  rw [compareDottedVersions, Collections.bind_eq_ok_iff]
  constructor
  · intro compared
    rcases compared with ⟨leftVersion, leftParsed, compared⟩
    rcases Collections.bind_eq_ok_iff.mp compared with ⟨rightVersion, rightParsed, compared⟩
    exact ⟨leftVersion, rightVersion, leftParsed, rightParsed, Except.ok.inj compared⟩
  · intro versions
    rcases versions with ⟨leftVersion, rightVersion, leftParsed, rightParsed, compared⟩
    refine ⟨leftVersion, leftParsed, ?_⟩
    rw [rightParsed, ← compared]
    rfl

theorem precedes_of_newer {older newer : String}
    (higher : compareDottedVersions newer older = .ok .gt) : Precedes older newer := by
  rcases compareDottedVersions_eq_ok_iff.mp higher with
    ⟨newerVersion, olderVersion, newerParsed, olderParsed, compared⟩
  apply compareDottedVersions_eq_ok_iff.mpr
  exact ⟨olderVersion, newerVersion, olderParsed, newerParsed, OrientedCmp.lt_of_gt compared⟩

theorem Precedes.trans {first second third : String}
    (before : Precedes first second) (after : Precedes second third) : Precedes first third := by
  rcases compareDottedVersions_eq_ok_iff.mp before with
    ⟨firstVersion, secondVersion, firstParsed, secondParsed, before⟩
  rcases compareDottedVersions_eq_ok_iff.mp after with
    ⟨again, thirdVersion, againParsed, thirdParsed, after⟩
  cases Except.ok.inj (secondParsed.symm.trans againParsed)
  apply compareDottedVersions_eq_ok_iff.mpr
  exact ⟨firstVersion, thirdVersion, firstParsed, thirdParsed, TransCmp.lt_trans before after⟩

/-- No version is higher than one it does not follow: neither than itself nor
than a later one, whichever equal text it is written as. -/
theorem not_newer_of_same {candidate older last : String}
    (same : candidate = older ∨ compareDottedVersions candidate older = .ok .eq)
    (order : older = last ∨ Precedes older last) :
    compareDottedVersions candidate last ≠ .ok .gt := by
  intro newer
  rcases compareDottedVersions_eq_ok_iff.mp newer with
    ⟨candidateVersion, lastVersion, candidateParsed, lastParsed, newer⟩
  -- The rank of the candidate is the rank of the older text.
  have rank : ∃ olderVersion, AppVersion.parse older = .ok olderVersion ∧
      AppVersion.cmp candidateVersion olderVersion = .eq := by
    rcases same with rfl | same
    · exact ⟨candidateVersion, candidateParsed, ReflCmp.compare_self⟩
    · rcases compareDottedVersions_eq_ok_iff.mp same with
        ⟨again, olderVersion, againParsed, olderParsed, same⟩
      cases Except.ok.inj (candidateParsed.symm.trans againParsed)
      exact ⟨olderVersion, olderParsed, same⟩
  rcases rank with ⟨olderVersion, olderParsed, rank⟩
  rw [TransCmp.congr_left rank] at newer
  rcases order with rfl | order
  · cases Except.ok.inj (olderParsed.symm.trans lastParsed)
    have equal : AppVersion.cmp lastVersion lastVersion = .eq := ReflCmp.compare_self
    rw [equal] at newer
    contradiction
  · rcases compareDottedVersions_eq_ok_iff.mp order with
      ⟨again, final, againParsed, finalParsed, order⟩
    cases Except.ok.inj (olderParsed.symm.trans againParsed)
    cases Except.ok.inj (lastParsed.symm.trans finalParsed)
    rw [order] at newer
    contradiction

def platformMismatch (manifest : UpdateManifest) (policy : UpdatePolicyContext) : CoreError :=
  let platform := manifest.platform.debug
  let current := policy.currentPlatform.debug
  .validation s!"manifest platform {platform} does not match current platform {current}"

def channelMismatch (manifest : UpdateManifest) (policy : UpdatePolicyContext) : CoreError :=
  let channel := manifest.channel.debug
  let allowed := policy.allowedChannel.debug
  .validation s!"manifest channel {channel} does not match allowed channel {allowed}"

def notNewer (manifest : UpdateManifest) (policy : UpdatePolicyContext) : CoreError :=
  let version := manifest.appVersion
  let current := policy.currentVersion
  .validation (s!"manifest app_version '{version}' is not newer than current '{current}' " ++
    "(downgrade not allowed)")

def invalidTimestamp (manifest : UpdateManifest) (reason : String) : CoreError :=
  let issuedAt := manifest.issuedAt
  .validation s!"manifest issued_at '{issuedAt}' is not a valid ISO-8601 UTC timestamp: {reason}"

/-- Whole seconds of a duration, rounded toward zero. -/
def numSeconds (duration : Int) : Int := duration.tdiv 1000000000

def issuedInFuture (manifest : UpdateManifest) (policy : UpdatePolicyContext) : CoreError :=
  let issuedAt := manifest.issuedAt
  let skew := numSeconds policy.maxFutureSkew
  .validation (s!"manifest issued_at '{issuedAt}' is further than the allowed " ++
    s!"clock-skew tolerance ({skew}s) in the future")

def issuedTooLongAgo (manifest : UpdateManifest) (policy : UpdatePolicyContext) : CoreError :=
  let issuedAt := manifest.issuedAt
  let age := numSeconds policy.maxAge
  .validation (s!"manifest issued_at '{issuedAt}' is older than max_age ({age}s) " ++
    "— refusing as potentially stale or replayed")

section Policy

-- The date library's reading of a timestamp.
variable (parseUtc : String → Except String Int)

/-- The issue time is readable and lies in the allowed window. -/
def verifyIssueTime (manifest : UpdateManifest) (policy : UpdatePolicyContext) :
    Except CoreError Unit :=
  match parseUtc manifest.issuedAt with
  | .error reason => .error (invalidTimestamp manifest reason)
  | .ok issuedAt =>
      if issuedAt > policy.nowUtc + policy.maxFutureSkew then
        .error (issuedInFuture manifest policy)
      else if policy.nowUtc - issuedAt > policy.maxAge then
        .error (issuedTooLongAgo manifest policy)
      else .ok ()

def verifyUpdatePolicy (manifest : UpdateManifest) (policy : UpdatePolicyContext) :
    Except CoreError Unit :=
  if manifest.platform ≠ policy.currentPlatform then .error (platformMismatch manifest policy)
  else if manifest.channel ≠ policy.allowedChannel then .error (channelMismatch manifest policy)
  else
    match compareDottedVersions manifest.appVersion policy.currentVersion with
    | .error error => .error error
    | .ok ordering =>
        if policy.allowDowngrade = false ∧ ordering ≠ .gt then .error (notNewer manifest policy)
        else verifyIssueTime parseUtc manifest policy

/-- Without permission to downgrade, only a higher version is released. -/
theorem newer_of_verified {manifest : UpdateManifest} {policy : UpdatePolicyContext}
    (strict : policy.allowDowngrade = false)
    (verified : verifyUpdatePolicy parseUtc manifest policy = .ok ()) :
    compareDottedVersions manifest.appVersion policy.currentVersion = .ok .gt := by
  rw [verifyUpdatePolicy] at verified
  split at verified
  · contradiction
  split at verified
  · contradiction
  cases compared : compareDottedVersions manifest.appVersion policy.currentVersion with
  | error error =>
      rw [compared] at verified
      contradiction
  | ok ordering =>
      rw [compared] at verified
      by_cases newer : ordering = .gt
      · rw [newer]
      · simp only [strict, newer, ne_eq, not_false_eq_true, and_self, if_true] at verified
        contradiction

/-! ## A sequence of updates -/

/-- An update as it is offered: its manifest and the rest of the context, which
may differ from one offer to the next. -/
structure Offer where
  manifest : UpdateManifest
  policy : UpdatePolicyContext

/-- The context in which an offer is decided: the installed version is the
current one and a downgrade is not allowed. -/
def Offer.context (offer : Offer) (installed : String) : UpdatePolicyContext :=
  { offer.policy with currentVersion := installed, allowDowngrade := false }

@[simp]
theorem Offer.context_currentVersion (offer : Offer) (installed : String) :
    (offer.context installed).currentVersion = installed := rfl

@[simp]
theorem Offer.context_allowDowngrade (offer : Offer) (installed : String) :
    (offer.context installed).allowDowngrade = false := rfl

def accepts (installed : String) (offer : Offer) : Bool :=
  (verifyUpdatePolicy parseUtc offer.manifest (offer.context installed)).isOk

/-- The version installed after an offer. -/
def install (installed : String) (offer : Offer) : String :=
  if accepts parseUtc installed offer then offer.manifest.appVersion else installed

/-- The version installed after a sequence of offers. -/
def installAll (installed : String) (offers : List Offer) : String :=
  offers.foldl (install parseUtc) installed

/-- All versions installed in the course of a sequence of offers, oldest first. -/
def history : String → List Offer → List String
  | installed, [] => [installed]
  | installed, offer :: rest =>
      if accepts parseUtc installed offer then
        installed :: history offer.manifest.appVersion rest
      else history installed rest

variable {parseUtc}

theorem precedes_of_accepts {installed : String} {offer : Offer}
    (accepted : accepts parseUtc installed offer = true) :
    Precedes installed offer.manifest.appVersion := by
  apply precedes_of_newer
  cases verified : verifyUpdatePolicy parseUtc offer.manifest (offer.context installed) with
  | error error =>
      rw [accepts, verified] at accepted
      contradiction
  | ok released =>
      have higher := newer_of_verified parseUtc (offer.context_allowDowngrade installed) verified
      rw [offer.context_currentVersion] at higher
      exact higher

theorem mem_history_self (installed : String) (offers : List Offer) :
    installed ∈ history parseUtc installed offers := by
  induction offers with
  | nil => exact List.mem_singleton_self installed
  | cons offer rest ih =>
      rw [history]
      split
      · exact List.mem_cons_self
      · exact ih

/-- Whatever is installed later follows what is installed now. -/
theorem precedes_of_mem_history {installed text : String} {offers : List Offer}
    (member : text ∈ history parseUtc installed offers) :
    text = installed ∨ Precedes installed text := by
  induction offers generalizing installed with
  | nil => exact Or.inl (List.mem_singleton.mp member)
  | cons offer rest ih =>
      rw [history] at member
      split at member
      case isTrue accepted =>
        have step := precedes_of_accepts accepted
        rcases List.mem_cons.mp member with same | later
        · exact Or.inl same
        · rcases ih later with rfl | later
          · exact Or.inr step
          · exact Or.inr (step.trans later)
      case isFalse => exact ih member

theorem history_pairwise (installed : String) (offers : List Offer) :
    (history parseUtc installed offers).Pairwise Precedes := by
  induction offers generalizing installed with
  | nil => exact List.pairwise_singleton Precedes installed
  | cons offer rest ih =>
      rw [history]
      split
      case isTrue accepted =>
        have step := precedes_of_accepts accepted
        apply List.pairwise_cons.mpr
        refine ⟨?_, ih offer.manifest.appVersion⟩
        intro text member
        rcases precedes_of_mem_history member with rfl | later
        · exact step
        · exact step.trans later
      case isFalse => exact ih installed

/-- Nothing installed so far is higher than the version installed last. -/
theorem history_le_last {installed text : String} {offers : List Offer}
    (member : text ∈ history parseUtc installed offers) :
    text = installAll parseUtc installed offers ∨
      Precedes text (installAll parseUtc installed offers) := by
  induction offers generalizing installed text with
  | nil => exact Or.inl (List.mem_singleton.mp member)
  | cons offer rest ih =>
      rw [history] at member
      rw [installAll, List.foldl_cons, install, ← installAll]
      split at member
      case isTrue accepted =>
        rw [if_pos accepted]
        rcases List.mem_cons.mp member with rfl | later
        · have step := precedes_of_accepts accepted
          rcases ih (mem_history_self offer.manifest.appVersion rest) with last | later
          · rw [← last]
            exact Or.inr step
          · exact Or.inr (step.trans later)
        · exact ih later
      case isFalse refused =>
        rw [if_neg refused]
        exact ih member

/-- However many updates are offered, the installed versions only increase, and
no text that was ever installed, nor one of equal rank, is accepted again. -/
theorem no_downgrade (installed : String) (offers : List Offer) :
    (history parseUtc installed offers).Pairwise Precedes ∧
      ∀ text ∈ history parseUtc installed offers, ∀ offer : Offer,
        offer.manifest.appVersion = text ∨
            compareDottedVersions offer.manifest.appVersion text = .ok .eq →
          accepts parseUtc (installAll parseUtc installed offers) offer = false := by
  refine ⟨history_pairwise installed offers, ?_⟩
  intro text member offer same
  apply Bool.eq_false_iff.mpr
  intro accepted
  have newer := precedes_of_accepts accepted
  apply not_newer_of_same same (history_le_last member)
  rcases compareDottedVersions_eq_ok_iff.mp newer with
    ⟨lastVersion, candidate, lastParsed, candidateParsed, order⟩
  apply compareDottedVersions_eq_ok_iff.mpr
  exact ⟨candidate, lastVersion, candidateParsed, lastParsed, OrientedCmp.gt_of_lt order⟩

end Policy

section Example

private def undated : String → Except String Int := fun _ => .ok 0

private def offered (version : String) : Offer where
  manifest := {
    appVersion := version, channel := .stable, platform := .windowsX8664, issuedAt := "" }
  policy := {
    currentVersion := "", currentPlatform := .windowsX8664, allowedChannel := .stable,
    allowDowngrade := true, nowUtc := 0, maxAge := 0, maxFutureSkew := 0 }

/-- From a release through a candidate to the next release; a padded spelling of
that release with build metadata is then refused. -/
theorem no_downgrade_padded :
    history undated "1.0" [offered "1.1-rc1", offered "0.9", offered "1.1"] =
        ["1.0", "1.1-rc1", "1.1"] ∧
      accepts undated (installAll undated "1.0" [offered "1.1-rc1", offered "0.9", offered "1.1"])
        (offered "1.1.0+build.5") = false := by
  have versions : history undated "1.0" [offered "1.1-rc1", offered "0.9", offered "1.1"] =
      ["1.0", "1.1-rc1", "1.1"] := by decide
  refine ⟨versions, ?_⟩
  apply (no_downgrade "1.0" [offered "1.1-rc1", offered "0.9", offered "1.1"]).2 "1.1"
  · rw [versions]
    exact List.mem_cons_of_mem _ (List.mem_cons_of_mem _ List.mem_cons_self)
  · exact Or.inr (by decide)

end Example

end UpdateManager
end Stars
