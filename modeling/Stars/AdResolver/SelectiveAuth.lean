import Stars.AdResolver.SidUtil
import Stars.AccessControl.FirstMatch
import Stars.Core.Identity

namespace Stars
namespace AdResolver

open AccessControl

/-!
# Selective Authentication

A trust with Selective Authentication lets an account log on to a computer only
if the computer's object grants it the right "Allowed to authenticate".  The
self-relative security descriptor of the object is parsed from its bytes and
evaluated twice: for the certain SIDs alone and with all uncertain SIDs added.
An equal outcome is the answer, and different ones are unknown.

A token between the two extremes can still differ from both.
`selective_answer_iff` says when it does: an entry for a single uncertain SID
stands before every entry for a certain one and decides against the answer.
-/

/-- The right "Allowed to authenticate" in the byte order of an object entry. -/
def allowedToAuthenticateGuid : List UInt8 :=
  [0x79, 0xd1, 0xb1, 0x68, 0x15, 0x0d, 0x4f, 0x4d, 0xab, 0x71, 0x46, 0x15, 0x2e, 0x79, 0xa7, 0xbc]

inductive AllowedToAuthenticate where
  | allowed (via : String)
  | denied
  | unknown (reason : String)
deriving DecidableEq

/-- One entry as far as this check needs it. -/
structure Ace where
  allow : Bool
  sid : Sid
  covers : Bool
  inheritOnly : Bool
deriving DecidableEq

def orError {Value : Type} (value : Option Value) (reason : String) : Except String Value :=
  match value with
  | some value => .ok value
  | none => .error reason

/-- The SID that starts at an offset and must end with its entry. -/
def sidAt (bytes : List UInt8) (offset entryEnd : Nat) : Except String Sid := do
  let count ← orError (byteAt bytes (offset + 1)) "SID truncated"
  if count > 15 then .error s!"SID with {count} sub-authorities"
  else
    let length := 8 + 4 * count
    if offset + length > entryEnd then .error "SID runs past its ACE"
    else
      match bytesToSidStr ((bytes.drop offset).take length) with
      | .ok text => .ok ⟨text⟩
      | .error reason => .error reason.display

/-- All extended rights, or everything. -/
def controlAccess (mask : Nat) : Bool :=
  BitVec.ofNat 32 mask &&& (0x00000100#32 ||| 0x10000000#32) ≠ 0#32

def flagSet (flags flag : Nat) : Bool := BitVec.ofNat 32 flags &&& BitVec.ofNat 32 flag ≠ 0#32

/-- The entry at an offset.  Audit and label entries decide nothing; an entry
of any other kind is an error. -/
def parseAce (descriptor : List UInt8) (index offset entryEnd kind flags : Nat) :
    Except String (List Ace) := do
  let truncated := s!"ACE {index} truncated"
  let inheritOnly := flagSet flags 0x08
  let named : Except String Sid → Except String Sid := fun parsed =>
    match parsed with
    | .ok sid => .ok sid
    | .error reason => .error s!"ACE {index}: {reason}"
  if kind = 0x00 ∨ kind = 0x01 then
    let mask ← orError (u32At descriptor (offset + 4)) truncated
    let sid ← named (sidAt descriptor (offset + 8) entryEnd)
    .ok [{ allow := kind = 0x00, sid := sid, covers := controlAccess mask,
           inheritOnly := inheritOnly }]
  else if kind = 0x05 ∨ kind = 0x06 then
    let mask ← orError (u32At descriptor (offset + 4)) truncated
    let objectFlags ← orError (u32At descriptor (offset + 8)) truncated
    let (objectType, sidOffset) ←
      if flagSet objectFlags 0x1 then do
        let guid ← orError (slice descriptor (offset + 12) 16)
          s!"ACE {index}: object type truncated"
        .ok (some guid, offset + 28)
      else .ok (none, offset + 12)
    let sidOffset := if flagSet objectFlags 0x2 then sidOffset + 16 else sidOffset
    let sid ← named (sidAt descriptor sidOffset entryEnd)
    .ok [{ allow := kind = 0x05, sid := sid,
           covers := controlAccess mask &&
             objectType.all (fun guid => guid == allowedToAuthenticateGuid),
           inheritOnly := inheritOnly }]
  else if kind = 0x02 ∨ kind = 0x03 ∨ kind = 0x07 ∨ kind = 0x11 then .ok []
  else
    let shown := String.ofList [Text.hexDigit (kind / 16), Text.hexDigit (kind % 16)]
    .error (s!"ACE {index} has type 0x{shown} (callback / conditional), which Stars " ++
      "does not evaluate")

/-- The entries from an offset on, `remaining` of them. -/
def parseAces (descriptor : List UInt8) (aclEnd : Nat) :
    (remaining index offset : Nat) → Except String (List Ace)
  | 0, _, _ => .ok []
  | remaining + 1, index, offset => do
      let truncated := s!"ACE {index} truncated"
      let kind ← orError (byteAt descriptor offset) truncated
      let flags ← orError (byteAt descriptor (offset + 1)) truncated
      let size ← orError (u16At descriptor (offset + 2)) truncated
      let entryEnd := offset + size
      if size < 8 ∨ entryEnd > aclEnd then .error s!"ACE {index} has an invalid size"
      else
        let entry ← parseAce descriptor index offset entryEnd kind flags
        let rest ← parseAces descriptor aclEnd remaining (index + 1) entryEnd
        .ok (entry ++ rest)

/-- The entries of the access list of a self-relative descriptor; `none` for a
NULL DACL. -/
def parseDacl (descriptor : List UInt8) : Except String (Option (List Ace)) := do
  let length := descriptor.length
  if length < 20 then .error s!"security descriptor of {length} bytes"
  else
    let control ← orError (u16At descriptor 2) "control unreadable"
    if !flagSet control 0x8000 then .error "security descriptor is not self-relative"
    else
      let daclAt ← orError (u32At descriptor 16) "DACL offset unreadable"
      if !flagSet control 0x0004 ∨ daclAt = 0 then .ok none
      else
        let aclSize ← orError (u16At descriptor (daclAt + 2)) "DACL header truncated"
        let aceCount ← orError (u16At descriptor (daclAt + 4)) "DACL header truncated"
        let aclEnd := daclAt + aclSize
        if aclSize < 8 ∨ aclEnd > descriptor.length then
          .error "DACL size runs past the descriptor"
        else
          let entries ← parseAces descriptor aclEnd aceCount 0 (daclAt + 8)
          .ok (some entries)

/-- The first entry in stored order that decides the right for a token. -/
def firstDecision (entries : List Ace) (token : Sid → Bool) : Option Ace :=
  (entries.filter (fun entry => !entry.inheritOnly && entry.covers)).find?
    (fun entry => token entry.sid)

/-- SIDs that are certainly not in the token of such a logon. -/
def certainlyAbsentInCheck (sid : Sid) : Bool :=
  Text.startsWith "S-1-5-32-" sid.value ||
    ["S-1-5-2", "S-1-5-18", "S-1-5-19", "S-1-5-20", "S-1-5-9", "S-1-5-10", "S-1-3-0", "S-1-3-1",
      "S-1-5-7"].contains sid.value

/-- SIDs whose presence in the token the check cannot know: the listed ones,
and every SID that is neither certain, nor a domain SID, nor certainly
absent. -/
def isUncertain (sid : Sid) (certain uncertain : Finset Sid) : Bool :=
  sid ∉ certain && (sid ∈ uncertain ||
    (!Text.startsWith "S-1-5-21-" sid.value && !certainlyAbsentInCheck sid))

/-- The outcome for the certain SIDs, with or without all uncertain ones. -/
def decideAuthentication (entries : List Ace) (certain uncertain : Finset Sid)
    (withUncertain : Bool) : AllowedToAuthenticate :=
  let inToken : Sid → Bool := fun sid =>
    sid ∈ certain || (withUncertain && isUncertain sid certain uncertain)
  match firstDecision entries inToken with
  | some entry => if entry.allow then .allowed entry.sid.value else .denied
  | none => .denied

/-- Evaluate "Allowed to authenticate" for a token with certain and uncertain
SIDs. -/
def allowedToAuthenticate (descriptor : List UInt8) (certain uncertain : Finset Sid) :
    AllowedToAuthenticate :=
  match parseDacl descriptor with
  | .ok none => .allowed "the object's NULL DACL (no restriction)"
  | .error reason => .unknown s!"its permissions could not be evaluated: {reason}"
  | .ok (some entries) =>
      let without := decideAuthentication entries certain uncertain false
      let withAll := decideAuthentication entries certain uncertain true
      match without, withAll with
      | .allowed _, .allowed _ => without
      | .denied, .denied => without
      | _, _ =>
          let sids := Text.join ", " ((entries.filter (fun entry =>
            !entry.inheritOnly && entry.covers && isUncertain entry.sid certain uncertain)).map
              (fun entry => entry.sid.value))
          .unknown (s!"an ACE for {sids} decides it, and whether that SID is in the account's " ++
            "logon token is not known")

/-! ## The answer against every token -/

/-- The entries that can decide the right, in stored order. -/
def effective (entries : List Ace) : List Ace :=
  entries.filter (fun entry => !entry.inheritOnly && entry.covers)

/-- An in-order access check of the entries grants the right to a token. -/
def mayAuthenticate (entries : List Ace) (token : Sid → Bool) : Bool :=
  ((effective entries).find? (fun entry => token entry.sid)).any Ace.allow

/-- The same check on a descriptor.  A NULL DACL restricts nothing. -/
def tokenMayAuthenticate (descriptor : List UInt8) (token : Finset Sid) : Bool :=
  match parseDacl descriptor with
  | .ok none => true
  | .ok (some entries) => mayAuthenticate entries (fun sid => sid ∈ token)
  | .error _ => false

/-- A decided answer is the result of every token that adds possible SIDs to
the certain ones. -/
def AnswerHolds (descriptor : List UInt8) (certain uncertain : Finset Sid)
    (possible : Sid → Prop) : Prop :=
  ∀ extra : Finset Sid, (∀ sid ∈ extra, possible sid) →
    match allowedToAuthenticate descriptor certain uncertain with
    | .allowed _ => tokenMayAuthenticate descriptor (certain ∪ extra) = true
    | .denied => tokenMayAuthenticate descriptor (certain ∪ extra) = false
    | .unknown _ => True

/-- Each entry for a possible SID that stands before every entry for a certain
SID, and before every other entry for its own SID, decides like the certain
SIDs. -/
def Undisturbed (entries : List Ace) (certain : Finset Sid) (possible : Sid → Prop) : Prop :=
  ∀ before entry after, effective entries = before ++ entry :: after →
    possible entry.sid → entry.sid ∉ certain →
    (∀ earlier ∈ before, earlier.sid ∉ certain ∧ earlier.sid ≠ entry.sid) →
    entry.allow = mayAuthenticate entries (fun sid => sid ∈ certain)

/-- The list is undisturbed wherever the certain SIDs alone and all SIDs
together have one outcome. -/
def AnswerSafe (descriptor : List UInt8) (certain uncertain : Finset Sid)
    (possible : Sid → Prop) : Prop :=
  ∀ entries, parseDacl descriptor = .ok (some entries) →
    mayAuthenticate entries (fun sid => sid ∈ certain) =
      mayAuthenticate entries (fun sid => sid ∈ certain || isUncertain sid certain uncertain) →
    Undisturbed entries certain possible

/-- The check as a first-match policy with a single right. -/
private def checkPolicy : Policy Ace Unit where
  allows := Ace.allow
  covers := fun entry _ => !entry.inheritOnly && entry.covers

private theorem deciding_eq (entries : List Ace) (token : Finset Sid) :
    checkPolicy.deciding (named Ace.sid token) entries () =
      (effective entries).find? (fun entry => entry.sid ∈ token) := by
  unfold effective
  rw [List.find?_filter]
  unfold Policy.deciding named
  congr 1
  funext entry
  rw [Bool.decide_and, Bool.decide_eq_true, Bool.decide_eq_true, Bool.and_comm]
  rfl

private theorem grants_eq (entries : List Ace) (token : Finset Sid) :
    mayAuthenticate entries (fun sid => sid ∈ token) =
      (checkPolicy.deciding (named Ace.sid token) entries ()).any Ace.allow := by
  rw [deciding_eq]
  rfl

theorem mayAuthenticate_of_undisturbed {entries : List Ace} {certain : Finset Sid}
    {possible : Sid → Prop} (undisturbed : Undisturbed entries certain possible)
    {extra : Finset Sid} (listed : ∀ sid ∈ extra, possible sid) :
    mayAuthenticate entries (fun sid => sid ∈ certain ∪ extra) =
      mayAuthenticate entries (fun sid => sid ∈ certain) := by
  rw [grants_eq entries (certain ∪ extra)]
  rcases deciding_named_single checkPolicy Ace.sid
    (Finset.subset_union_left : certain ⊆ certain ∪ extra) entries () with same | ⟨sid, member,
      outside, same⟩
  · rw [same, ← grants_eq]
  · -- A single further SID decides like the whole set.
    have addition : sid ∈ extra := (Finset.mem_union.mp member).resolve_left outside
    have wider : ∀ next ∈ entries, named Ace.sid certain next = true →
        named Ace.sid (insert sid certain) next = true :=
      fun _ _ => named_mono Ace.sid (Finset.subset_insert sid certain)
    rw [same]
    cases decided : checkPolicy.deciding (named Ace.sid (insert sid certain)) entries () with
    | none =>
        have undecided : checkPolicy.deciding (named Ace.sid certain) entries () = none := by
          rw [Policy.deciding_eq_none_iff] at decided ⊢
          exact fun rule listed applied => decided rule listed (wider rule listed applied)
        rw [grants_eq, undecided]
    | some entry =>
        have applied := (checkPolicy.deciding_spec decided).2.1
        have names : entry.sid ∈ insert sid certain := of_decide_eq_true applied
        by_cases known : entry.sid ∈ certain
        · rw [grants_eq, checkPolicy.deciding_of_wider wider decided (decide_eq_true known)]
        · have own : entry.sid = sid := (Finset.mem_insert.mp names).resolve_right known
          rw [deciding_eq, List.find?_eq_some_iff_append] at decided
          rcases decided with ⟨_, before, after, split, unmatched⟩
          refine undisturbed before entry after split (own ▸ listed sid addition) known ?_
          intro earlier early
          have refused := unmatched earlier early
          simp only [Bool.not_eq_true', decide_eq_false_iff_not, Finset.mem_insert,
            not_or] at refused
          exact ⟨refused.2, own ▸ refused.1⟩

theorem undisturbed_of_mayAuthenticate {entries : List Ace} {certain : Finset Sid}
    {possible : Sid → Prop}
    (agree : ∀ extra : Finset Sid, (∀ sid ∈ extra, possible sid) →
      mayAuthenticate entries (fun sid => sid ∈ certain ∪ extra) =
        mayAuthenticate entries (fun sid => sid ∈ certain)) :
    Undisturbed entries certain possible := by
  intro before entry after split listed _ earlier
  have single := agree {entry.sid} (by
    intro sid member
    rw [Finset.mem_singleton.mp member]
    exact listed)
  have found : (effective entries).find? (fun next => next.sid ∈ certain ∪ {entry.sid}) =
      some entry := by
    rw [List.find?_eq_some_iff_append]
    refine ⟨by simp, before, after, split, ?_⟩
    intro next early
    have apart := earlier next early
    simp [apart.1, apart.2]
  rw [← single]
  unfold mayAuthenticate
  rw [found]
  rfl

/-- The outcome of the decision is the outcome of the check. -/
theorem decideAuthentication_spec (entries : List Ace) (certain uncertain : Finset Sid)
    (withUncertain : Bool) :
    (mayAuthenticate entries (fun sid =>
        sid ∈ certain || (withUncertain && isUncertain sid certain uncertain)) = true →
      ∃ via, decideAuthentication entries certain uncertain withUncertain = .allowed via) ∧
    (mayAuthenticate entries (fun sid =>
        sid ∈ certain || (withUncertain && isUncertain sid certain uncertain)) = false →
      decideAuthentication entries certain uncertain withUncertain = .denied) := by
  unfold decideAuthentication firstDecision mayAuthenticate effective
  dsimp only
  cases List.find? (fun entry => decide (entry.sid ∈ certain) ||
      (withUncertain && isUncertain entry.sid certain uncertain))
      (entries.filter (fun entry => !entry.inheritOnly && entry.covers)) with
  | none =>
      refine ⟨fun granted => ?_, fun _ => rfl⟩
      cases granted
  | some entry =>
      rw [Option.any_some]
      dsimp only
      constructor
      · intro granted
        exact ⟨entry.sid.value, if_pos granted⟩
      · intro refused
        exact if_neg (Bool.eq_false_iff.mp refused)

/-- The answer for a parsed list: decided when both extremes have one outcome,
and unknown otherwise. -/
theorem allowedToAuthenticate_spec {descriptor : List UInt8} {entries : List Ace}
    (parsed : parseDacl descriptor = .ok (some entries)) (certain uncertain : Finset Sid) :
    (mayAuthenticate entries (fun sid => sid ∈ certain) =
        mayAuthenticate entries (fun sid => sid ∈ certain || isUncertain sid certain uncertain) →
      (mayAuthenticate entries (fun sid => sid ∈ certain) = true ∧
          ∃ via, allowedToAuthenticate descriptor certain uncertain = .allowed via) ∨
        (mayAuthenticate entries (fun sid => sid ∈ certain) = false ∧
          allowedToAuthenticate descriptor certain uncertain = .denied)) ∧
    (mayAuthenticate entries (fun sid => sid ∈ certain) ≠
        mayAuthenticate entries (fun sid => sid ∈ certain || isUncertain sid certain uncertain) →
      ∃ reason, allowedToAuthenticate descriptor certain uncertain = .unknown reason) := by
  have alone := decideAuthentication_spec entries certain uncertain false
  have all := decideAuthentication_spec entries certain uncertain true
  simp only [Bool.false_and, Bool.or_false] at alone
  simp only [Bool.true_and] at all
  unfold allowedToAuthenticate
  rw [parsed]
  dsimp only
  cases narrow : mayAuthenticate entries (fun sid => sid ∈ certain) with
  | true =>
      rcases alone.1 narrow with ⟨via, without⟩
      cases wide : mayAuthenticate entries
          (fun sid => sid ∈ certain || isUncertain sid certain uncertain) with
      | true =>
          rcases all.1 wide with ⟨other, withAll⟩
          rw [without, withAll]
          exact ⟨fun _ => Or.inl ⟨rfl, via, rfl⟩, fun differ => absurd rfl differ⟩
      | false =>
          rw [without, all.2 wide]
          refine ⟨fun same => ?_, fun _ => ⟨_, rfl⟩⟩
          cases same
  | false =>
      cases wide : mayAuthenticate entries
          (fun sid => sid ∈ certain || isUncertain sid certain uncertain) with
      | true =>
          rcases all.1 wide with ⟨other, withAll⟩
          rw [alone.2 narrow, withAll]
          refine ⟨fun same => ?_, fun _ => ⟨_, rfl⟩⟩
          cases same
      | false =>
          rw [alone.2 narrow, all.2 wide]
          exact ⟨fun _ => Or.inr ⟨rfl, rfl⟩, fun differ => absurd rfl differ⟩

/-- A decided answer holds for every token exactly when no entry for a single
possible SID disturbs it. -/
theorem selective_answer_iff (descriptor : List UInt8) (certain uncertain : Finset Sid)
    (possible : Sid → Prop) :
    AnswerHolds descriptor certain uncertain possible ↔
      AnswerSafe descriptor certain uncertain possible := by
  unfold AnswerHolds AnswerSafe tokenMayAuthenticate
  cases parsed : parseDacl descriptor with
  | error reason =>
      have answer : allowedToAuthenticate descriptor certain uncertain =
          .unknown s!"its permissions could not be evaluated: {reason}" := by
        unfold allowedToAuthenticate
        rw [parsed]
      rw [answer]
      refine ⟨fun _ entries found => ?_, fun _ _ _ => trivial⟩
      cases found
  | ok list =>
      cases list with
      | none =>
          have answer : allowedToAuthenticate descriptor certain uncertain =
              .allowed "the object's NULL DACL (no restriction)" := by
            unfold allowedToAuthenticate
            rw [parsed]
          rw [answer]
          refine ⟨fun _ entries found => ?_, fun _ _ _ => rfl⟩
          cases found
      | some entries =>
          rcases allowedToAuthenticate_spec parsed certain uncertain with ⟨decided, unknown⟩
          dsimp only
          constructor
          · intro holds found parsedAs same
            cases parsedAs
            refine undisturbed_of_mayAuthenticate fun extra listed => ?_
            have result := holds extra listed
            rcases decided same with ⟨outcome, via, answer⟩ | ⟨outcome, answer⟩
            · rw [answer] at result
              exact result.trans outcome.symm
            · rw [answer] at result
              exact result.trans outcome.symm
          · intro safe extra listed
            by_cases same : mayAuthenticate entries (fun sid => sid ∈ certain) =
                mayAuthenticate entries
                  (fun sid => sid ∈ certain || isUncertain sid certain uncertain)
            · have agree := mayAuthenticate_of_undisturbed (safe entries rfl same) listed
              rcases decided same with ⟨outcome, via, answer⟩ | ⟨outcome, answer⟩
              · rw [answer]
                exact agree.trans outcome
              · rw [answer]
                exact agree.trans outcome
            · rcases unknown same with ⟨reason, answer⟩
              rw [answer]
              trivial

/-- Three entries in stored order: Allow S-1-18-1, Deny S-1-18-2 and Allow
Authenticated Users. -/
def interleavedDescriptor : List UInt8 :=
  [1, 0, 0x04, 0x80, 0, 0, 0, 0, 0, 0, 0, 0, 0, 0, 0, 0, 20, 0, 0, 0,
    4, 0, 68, 0, 3, 0, 0, 0,
    0, 0, 20, 0, 0, 1, 0, 0, 1, 1, 0, 0, 0, 0, 0, 18, 1, 0, 0, 0,
    1, 0, 20, 0, 0, 1, 0, 0, 1, 1, 0, 0, 0, 0, 0, 18, 2, 0, 0, 0,
    0, 0, 20, 0, 0, 1, 0, 0, 1, 1, 0, 0, 0, 0, 0, 5, 11, 0, 0, 0]

/-- The certain SIDs are allowed, and so are all SIDs together, but a token
with the second assertion SID alone is refused. -/
theorem interleavedDescriptor_disturbed :
    allowedToAuthenticate interleavedDescriptor {⟨"S-1-5-11"⟩} {⟨"S-1-18-1"⟩, ⟨"S-1-18-2"⟩} =
        .allowed "S-1-5-11" ∧
      tokenMayAuthenticate interleavedDescriptor ({⟨"S-1-5-11"⟩} ∪ {⟨"S-1-18-2"⟩}) = false ∧
      ¬ AnswerHolds interleavedDescriptor {⟨"S-1-5-11"⟩} {⟨"S-1-18-1"⟩, ⟨"S-1-18-2"⟩}
        (fun sid => sid ∈ ({⟨"S-1-18-1"⟩, ⟨"S-1-18-2"⟩} : Finset Sid)) := by
  have answer : allowedToAuthenticate interleavedDescriptor {⟨"S-1-5-11"⟩}
      {⟨"S-1-18-1"⟩, ⟨"S-1-18-2"⟩} = .allowed "S-1-5-11" := by decide
  have refused : tokenMayAuthenticate interleavedDescriptor
      ({⟨"S-1-5-11"⟩} ∪ {⟨"S-1-18-2"⟩}) = false := by decide
  refine ⟨answer, refused, fun holds => ?_⟩
  have granted := holds {⟨"S-1-18-2"⟩} (by
    intro sid member
    rw [Finset.mem_singleton.mp member]
    decide)
  rw [answer] at granted
  exact absurd (granted.symm.trans refused) (by decide)

end AdResolver
end Stars
