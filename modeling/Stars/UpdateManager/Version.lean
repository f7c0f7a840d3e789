import Stars.Core.Error
import Stars.Order.Comparison
import Stars.Text.Numbers

namespace Stars
namespace UpdateManager

/-!
# Application versions

A version text is a dotted numeric core, an optional pre-release list after the
first `-` and optional build metadata after the first `+`.  Parsing keeps the
core and the pre-release identifiers.  The comparison pads the shorter core with
zeros, puts a pre-release before its final release, and compares pre-release
identifiers one by one.
-/

/-- One dot-separated pre-release identifier. -/
inductive PreReleaseId where
  | num (value : Nat)
  | alpha (text : String)
deriving DecidableEq

structure AppVersion where
  core : List Nat
  pre : Option (List PreReleaseId)
deriving DecidableEq

/-- A letter, a digit or a hyphen. -/
def identifierChar (letter : Char) : Bool := letter.isAlphanum || letter == '-'

/-- Rejects an empty identifier and one with a character that is not allowed. -/
def validateIdentifier (what input : String) (identifier : List Char) : Except CoreError Unit :=
  if identifier.isEmpty then
    .error (.validation s!"{what} in '{input}' contains an empty identifier")
  else if identifier.all identifierChar then .ok ()
  else
    let text := String.ofList identifier
    .error (.validation (s!"{what} identifier '{text}' in '{input}' " ++
      "contains characters outside [0-9A-Za-z-]"))

def validateIdentifierList (list : List Char) (what input : String) : Except CoreError Unit :=
  (Text.split '.' list).forM (validateIdentifier what input)

def parseSegment (input : String) (segment : List Char) : Except CoreError Nat :=
  match Text.parseInteger (2 ^ 64) segment with
  | .ok value => .ok value
  | .error reason =>
      let text := String.ofList segment
      .error (.validation s!"version segment '{text}' in '{input}' is not numeric: {reason}")

def parsePreReleaseId (identifier : List Char) : PreReleaseId :=
  match Text.parseInteger (2 ^ 64) identifier with
  | .ok value => .num value
  | .error _ => .alpha (String.ofList identifier)

def parsePre (input : String) : Option (List Char) → Except CoreError (Option (List PreReleaseId))
  | none => .ok none
  | some list => do
      validateIdentifierList list "pre-release" input
      return some ((Text.split '.' list).map parsePreReleaseId)

/-- Cut a text at the first separator, when it has one. -/
def cutAt (separator : Char) (text : List Char) : List Char × Option (List Char) :=
  match Text.splitOnce separator text with
  | some (before, after) => (before, some after)
  | none => (text, none)

def AppVersion.parse (input : String) : Except CoreError AppVersion := do
  let text := Text.trim input.toList
  if text.isEmpty then .error (.validation "version must not be empty")
  else
    -- Build metadata is cut off first, since it may contain hyphens.
    let (rest, build) := cutAt '+' text
    match build with
    | some list => validateIdentifierList list "build metadata" input
    | none => .ok ()
    let (core, pre) := cutAt '-' rest
    let core ← (Text.split '.' core).mapM (parseSegment input)
    let pre ← parsePre input pre
    return { core := core, pre := pre }

/-- Numeric identifiers come before the others. -/
def PreReleaseId.cmp : PreReleaseId → PreReleaseId → Ordering
  | .num left, .num right => compare left right
  | .num _, .alpha _ => .lt
  | .alpha _, .num _ => .gt
  | .alpha left, .alpha right => Order.compareText left right

def comparePrerelease (left right : List PreReleaseId) : Ordering :=
  Order.sharedThenLength PreReleaseId.cmp left right

/-- A final release comes after each of its pre-releases. -/
def comparePre : Option (List PreReleaseId) → Option (List PreReleaseId) → Ordering
  | none, none => .eq
  | none, some _ => .gt
  | some _, none => .lt
  | some left, some right => comparePrerelease left right

def AppVersion.cmp (left right : AppVersion) : Ordering :=
  (Order.padded compare 0 left.core right.core).then (comparePre left.pre right.pre)

open Std

instance : TransCmp PreReleaseId.cmp where
  eq_swap := by
    intro left right
    cases left with
    | num value =>
        cases right with
        | num other => exact @OrientedCmp.eq_swap _ compare _ value other
        | alpha other => rfl
    | alpha text =>
        cases right with
        | num other => rfl
        | alpha other => exact @OrientedCmp.eq_swap _ Order.compareText _ text other
  isLE_trans := by
    intro first second third before after
    cases first <;> cases second <;> cases third <;> first | rfl | contradiction | skip
    case num.num.num first second third =>
        exact @TransCmp.isLE_trans _ compare _ first second third before after
    case alpha.alpha.alpha first second third =>
        exact @TransCmp.isLE_trans _ Order.compareText _ first second third before after

instance : TransCmp comparePrerelease :=
  inferInstanceAs (TransCmp (Order.sharedThenLength PreReleaseId.cmp))

instance : TransCmp comparePre where
  eq_swap := by
    intro left right
    cases left with
    | none => cases right <;> rfl
    | some list =>
        cases right with
        | none => rfl
        | some other => exact @OrientedCmp.eq_swap _ comparePrerelease _ list other
  isLE_trans := by
    intro first second third before after
    cases first <;> cases second <;> cases third <;> first | rfl | contradiction | skip
    case some.some.some first second third =>
        exact @TransCmp.isLE_trans _ comparePrerelease _ first second third before after

/-- The comparison of versions is a total preorder: it is antisymmetric up to
equality of rank, and transitive. -/
instance AppVersion.transCmp : TransCmp AppVersion.cmp := by
  have byCore : TransCmp (fun left right : AppVersion =>
      Order.padded compare 0 left.core right.core) := Order.transCmp_on AppVersion.core
  have byPre : TransCmp (fun left right : AppVersion => comparePre left.pre right.pre) :=
    Order.transCmp_on AppVersion.pre
  exact inferInstanceAs (TransCmp (compareLex
    (fun left right : AppVersion => Order.padded compare 0 left.core right.core)
    (fun left right : AppVersion => comparePre left.pre right.pre)))

end UpdateManager
end Stars
