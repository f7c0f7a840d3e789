import Stars.AdResolver.SidUtil
import Stars.Core.Identity
import Stars.Text.Numbers
import Mathlib.Data.List.Lex
import Mathlib.Data.List.Sort

namespace Stars
namespace AdResolver

/-!
# Raw directory entries

An entry of a search result with its textual and binary attribute values, and
the facts about a group that the resolver reads from it.  A value whose bytes
happen to be valid UTF-8 is classified as text, so a binary attribute is looked
up in both maps.

Sets and maps that the resolver iterates in order are lists sorted by the code
points of their keys.
-/

structure RawEntry where
  dn : String
  attrs : List (String × List String) := []
  binAttrs : List (String × List (List UInt8)) := []
deriving DecidableEq

def utf8Bytes (text : String) : List UInt8 := text.toUTF8.data.toList

/-- The first text value of an attribute. -/
def RawEntry.firstAttr (entry : RawEntry) (name : String) : Option String :=
  (entry.attrs.lookup name).bind List.head?

/-- The first binary value of an attribute, whichever map it was put in. -/
def RawEntry.firstBinAttr (entry : RawEntry) (name : String) : Option (List UInt8) :=
  match (entry.binAttrs.lookup name).bind List.head? with
  | some bytes => some bytes
  | none => (entry.firstAttr name).map utf8Bytes

/-- All text values of an attribute. -/
def RawEntry.allAttr (entry : RawEntry) (name : String) : List String :=
  (entry.attrs.lookup name).getD []

/-- The number of values, textual and binary. -/
def RawEntry.valueCount (entry : RawEntry) (name : String) : Nat :=
  ((entry.attrs.lookup name).getD []).length + ((entry.binAttrs.lookup name).getD []).length

/-- All values as bytes, the textual ones first. -/
def RawEntry.allValues (entry : RawEntry) (name : String) : List (List UInt8) :=
  ((entry.attrs.lookup name).getD []).map utf8Bytes ++ (entry.binAttrs.lookup name).getD []

/-- The order of texts by code points. -/
def textLe (left right : String) : Bool :=
  decide (left.toList.map Char.toNat ≤ right.toList.map Char.toNat)

/-- The texts of a list in ascending order, each once. -/
def orderedSet (texts : List String) : List String :=
  texts.dedup.insertionSort (fun left right => textLe left right = true)

@[simp]
theorem mem_orderedSet {text : String} {texts : List String} :
    text ∈ orderedSet texts ↔ text ∈ texts := by
  rw [orderedSet, List.mem_insertionSort, List.mem_dedup]

/-- First three names of a set, then how many more there are. -/
def summarizeDns (dns : List String) : String :=
  let shown := Text.join "; " (dns.take 3)
  let more := dns.length - 3
  if dns.length > 3 then shown ++ s!" (+{more} more)" else shown

/-- The key of an entry: its distinguished name in lower case. -/
def RawEntry.key (entry : RawEntry) : String := Text.toAsciiLowercase entry.dn

/-- Display name of a directory entry. -/
def entryDisplayName (entry : RawEntry) : Option String :=
  (entry.firstAttr "sAMAccountName").or (entry.firstAttr "cn")

/-- The keys of the groups an entry is a direct member of. -/
def sortedMemberOf (entry : RawEntry) : List String :=
  orderedSet ((entry.allAttr "memberOf").map Text.toAsciiLowercase)

/-- Security bit of `groupType`; `none` when the attribute is missing or not a
number, so that it is unknown whether the group is in the token. -/
def groupIsSecurity (entry : RawEntry) : Option Bool :=
  ((entry.firstAttr "groupType").bind
    (fun text => Text.parseSigned (2 ^ 63) (Text.trim text.toList))).map
      (fun groupType => BitVec.ofInt 64 groupType &&& 0x80000000#64 ≠ 0#64)

/-- The SID of an entry. -/
def extractSidFromEntry (entry : RawEntry) : Option Sid :=
  (entry.firstBinAttr "objectSid").bind (fun bytes =>
    match bytesToSidStr bytes with
    | .ok text => some ⟨text⟩
    | .error _ => none)

/-- The total number of historical SIDs and those that could be parsed. -/
def parseSidHistory (entry : RawEntry) : Nat × List Sid :=
  (entry.valueCount "sIDHistory",
    (entry.allValues "sIDHistory").filterMap (fun bytes =>
      match bytesToSidStr bytes with
      | .ok text => some ⟨text⟩
      | .error _ => none))

end AdResolver
end Stars
