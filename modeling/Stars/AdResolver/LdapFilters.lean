import Stars.Ldap.FilterText

namespace Stars
namespace AdResolver

open Ldap

/-!
# Search filters built from input

The filters the client builds from a name, a search term or a distinguished name.
Each of them has the same shape for every text: the text becomes the octets of its
values and can do nothing else.  The filter for a computer appends `$` to the name.
-/

/-- The five letters with a meaning in a filter become escapes. -/
def escapeFilterLetter (letter : Char) : List Char :=
  if letter = '*' then ['\\', '2', 'a']
  else if letter = '(' then ['\\', '2', '8']
  else if letter = ')' then ['\\', '2', '9']
  else if letter = '\\' then ['\\', '5', 'c']
  else if letter = '\x00' then ['\\', '0', '0']
  else [letter]

def escapeFilterValue (value : String) : String :=
  String.ofList (value.toList.flatMap escapeFilterLetter)

/-- The octets of a text. -/
def utf8 (text : String) : Octets := text.toList.flatMap String.utf8EncodeChar

/-- An escaped letter stands for the octets of the letter. -/
theorem decodeValue_escape (letter : Char) (rest : List Char) :
    decodeValue (escapeFilterLetter letter ++ rest) =
      (decodeValue rest).map (fun octets => String.utf8EncodeChar letter ++ octets) := by
  have escaped (first second : Char) (high low : Nat) (octet : UInt8)
      (highValue : hexNibble first = some high) (lowValue : hexNibble second = some low)
      (value : UInt8.ofNat (high * 16 + low) = octet) :
      decodeValue (['\\', first, second] ++ rest) =
        (decodeValue rest).map (fun octets => octet :: octets) := by
    simp only [List.cons_append, List.nil_append, decodeValue, highValue, lowValue,
      Option.bind_eq_bind, Option.bind_some, value]
    cases decodeValue rest with
    | none => rfl
    | some octets => rfl
  unfold escapeFilterLetter
  split
  · rename_i same
    rw [same]
    exact escaped '2' 'a' 2 10 0x2a rfl rfl rfl
  · split
    · rename_i same
      rw [same]
      exact escaped '2' '8' 2 8 0x28 rfl rfl rfl
    · split
      · rename_i same
        rw [same]
        exact escaped '2' '9' 2 9 0x29 rfl rfl rfl
      · split
        · rename_i same
          rw [same]
          exact escaped '5' 'c' 5 12 0x5c rfl rfl rfl
        · split
          · rename_i same
            rw [same]
            exact escaped '0' '0' 0 0 0x00 rfl rfl rfl
          · rename_i asterisk opening closing backslash null
            exact decodeValue_cons (by simp [isSpecial, *]) rest

/-- An escaped text stands for the octets of the text. -/
theorem decodeValue_escapeFilterValue (value : String) :
    decodeValue (escapeFilterValue value).toList = some (utf8 value) := by
  unfold escapeFilterValue utf8
  rw [String.toList_ofList]
  induction value.toList with
  | nil => rfl
  | cons letter rest ih => rw [List.flatMap_cons, decodeValue_escape, ih]; rfl

theorem utf8_injective : Function.Injective utf8 := by
  intro first second same
  have bytes := congrArg List.toByteArray same
  change first.toList.utf8Encode = second.toList.utf8Encode at bytes
  rw [String.utf8Encode_toList, String.utf8Encode_toList] at bytes
  exact String.toByteArray_inj.mp bytes

def ldapMatchingRuleInChain : String := "1.2.840.113556.1.4.1941"

def searchAllBySamaccount (sam : String) : String :=
  let escaped := escapeFilterValue sam
  s!"(sAMAccountName={escaped})"

def searchByUpn (upn : String) : String :=
  let escaped := escapeFilterValue upn
  s!"(userPrincipalName={escaped})"

def searchByQuery (query : String) : String :=
  let escaped := escapeFilterValue query
  s!"(&(|(objectCategory=person)(objectClass=group))" ++
    s!"(|(sAMAccountName=*{escaped}*)(displayName=*{escaped}*)(cn=*{escaped}*)))"

def searchTransitiveGroupsForMember (memberDn : String) : String :=
  let escaped := escapeFilterValue memberDn
  s!"(&(objectClass=group)(member:{ldapMatchingRuleInChain}:={escaped}))"

def searchComputerSecurityDescriptor (netbiosName : String) : String :=
  let escaped := escapeFilterValue netbiosName
  s!"(&(objectCategory=computer)(sAMAccountName={escaped}$))"

def samAccountName : List Char := "sAMAccountName".toList

def userPrincipalName : List Char := "userPrincipalName".toList

def displayNameAttribute : List Char := "displayName".toList

def commonName : List Char := "cn".toList

def memberAttribute : List Char := "member".toList

def objectCategory : List Char := "objectCategory".toList

def objectClass : List Char := "objectClass".toList

def inChainRule : List Char := ldapMatchingRuleInChain.toList

/-- An attribute has a value. -/
def equals (name : List Char) (value : Octets) : Filter := .item (.simple name .equal value)

/-- An attribute holds a value anywhere. -/
def holds (name : List Char) (value : Octets) : Filter := .item (.substring name [[], value, []])

def queryTree (value : Octets) : Filter :=
  .and [.or [equals objectCategory (utf8 "person"), equals objectClass (utf8 "group")],
    .or [holds samAccountName value, holds displayNameAttribute value, holds commonName value]]

def transitiveTree (value : Octets) : Filter :=
  .and [equals objectClass (utf8 "group"),
    .item (.extensible (some memberAttribute) false (some inChainRule) value)]

def computerTree (value : Octets) : Filter :=
  .and [equals objectCategory (utf8 "computer"), equals samAccountName value]

/-! ## Writing trees -/

/-- The text of an equality. -/
def equalsText (name value : List Char) : List Char := '(' :: (name ++ '=' :: value ++ [')'])

theorem derives_equals {name : List Char} {value : List Char} {octets : Octets}
    (named : isAttribute name = true) (decoded : decodeValue value = some octets) :
    Derives (equals name octets) (equalsText name value) :=
  .item (readItem_simple named decoded)

/-- The text of a substring assertion. -/
def holdsText (name value : List Char) : List Char :=
  '(' :: (name ++ '=' :: '*' :: (value ++ ['*']) ++ [')'])

theorem derives_holds {name : List Char} {value : List Char} {octets : Octets}
    (named : isAttribute name = true) (decoded : decodeValue value = some octets) :
    Derives (holds name octets) (holdsText name value) :=
  .item (readItem_between named decoded)

/-- A filter built from a text is one tree on the octets of a value, and no two
texts build the same filter. -/
structure OnlyValue (build : String → String) (tree : Octets → Filter)
    (value : String → String) : Prop where
  derives : ∀ text, Derives (tree (utf8 (value text))) (build text).toList
  unique : ∀ text other, Derives other (build text).toList → other = tree (utf8 (value text))
  injective : Function.Injective build

theorem onlyValue_of_derives {build : String → String} {tree : Octets → Filter}
    {value : String → String} (trees : Function.Injective tree) (values : Function.Injective value)
    (derives : ∀ text, Derives (tree (utf8 (value text))) (build text).toList) :
    OnlyValue build tree value where
  derives := derives
  unique := fun text other read => read.unique (derives text)
  injective := by
    intro first second same
    have one := derives first
    rw [same] at one
    exact values (utf8_injective (trees (one.unique (derives second))))

/-- The attributes the filters name. -/
theorem isAttribute_names : [samAccountName, userPrincipalName, displayNameAttribute, commonName,
    memberAttribute, objectCategory, objectClass].all isAttribute = true := by
  decide

private theorem named {name : List Char} (listed : name ∈ [samAccountName, userPrincipalName,
    displayNameAttribute, commonName, memberAttribute, objectCategory, objectClass]) :
    isAttribute name = true :=
  List.all_eq_true.mp isAttribute_names name listed

theorem equals_injective (name : List Char) : Function.Injective (equals name) := by
  intro first second same
  cases same
  rfl

/-- A filter that is one equality. -/
theorem onlyValue_equals {name : List Char} (known : isAttribute name = true)
    {build : String → String}
    (written : ∀ text, (build text).toList =
      equalsText name (escapeFilterValue text).toList) :
    OnlyValue build (equals name) id := by
  apply onlyValue_of_derives (equals_injective name) Function.injective_id
  intro text
  rw [written]
  exact derives_equals known (decodeValue_escapeFilterValue text)

theorem searchAllBySamaccount_onlyValue :
    OnlyValue searchAllBySamaccount (equals samAccountName) id := by
  apply onlyValue_equals (named (by simp))
  intro text
  have literal : "(sAMAccountName=".toList = '(' :: (samAccountName ++ ['=']) := by
    decide
  have closing : ")".toList = [')'] := by decide
  unfold searchAllBySamaccount equalsText
  simp only [toString, String.toList_append, literal, closing]
  simp only [List.cons_append, List.append_assoc, List.nil_append]

theorem searchByUpn_onlyValue : OnlyValue searchByUpn (equals userPrincipalName) id := by
  apply onlyValue_equals (named (by simp))
  intro text
  have literal : "(userPrincipalName=".toList = '(' :: (userPrincipalName ++ ['=']) := by
    decide
  have closing : ")".toList = [')'] := by decide
  unfold searchByUpn equalsText
  simp only [toString, String.toList_append, literal, closing]
  simp only [List.cons_append, List.append_assoc, List.nil_append]

/-- The parts of the filter for a search term. -/
theorem searchByQuery_written (query : String) :
    (searchByQuery query).toList =
      '(' :: '&' :: ([
        '(' :: '|' :: ([equalsText objectCategory "person".toList,
          equalsText objectClass "group".toList].flatten ++ [')']),
        '(' :: '|' :: ([holdsText samAccountName (escapeFilterValue query).toList,
          holdsText displayNameAttribute (escapeFilterValue query).toList,
          holdsText commonName (escapeFilterValue query).toList].flatten ++ [')'])].flatten ++
        [')']) := by
  have kinds : "(&(|(objectCategory=person)(objectClass=group))".toList =
      '(' :: '&' :: '(' :: '|' :: (equalsText objectCategory "person".toList ++
        equalsText objectClass "group".toList ++ [')']) := by decide
  have account : "(|(sAMAccountName=*".toList =
      '(' :: '|' :: '(' :: (samAccountName ++ ['=', '*']) := by decide
  have display : "*)(displayName=*".toList =
      '*' :: ')' :: '(' :: (displayNameAttribute ++ ['=', '*']) := by decide
  have common : "*)(cn=*".toList = '*' :: ')' :: '(' :: (commonName ++ ['=', '*']) := by
    decide
  have closing : "*)))".toList = ['*', ')', ')', ')'] := by decide
  unfold searchByQuery
  simp only [toString, String.toList_append, kinds, account, display, common, closing]
  simp only [holdsText, List.flatten_cons, List.flatten_nil, List.cons_append, List.append_assoc,
    List.nil_append, List.append_nil]

theorem searchByQuery_onlyValue : OnlyValue searchByQuery queryTree id := by
  apply onlyValue_of_derives
  · intro first second same
    cases same
    rfl
  · exact Function.injective_id
  · intro query
    have decoded := decodeValue_escapeFilterValue query
    have person : decodeValue "person".toList = some (utf8 "person") := by decide
    have group : decodeValue "group".toList = some (utf8 "group") := by decide
    rw [searchByQuery_written]
    refine .and (.cons (.or ?_ (List.cons_ne_nil _ _))
      (.cons (.or ?_ (List.cons_ne_nil _ _)) .nil)) (List.cons_ne_nil _ _)
    · exact .cons (derives_equals (named (by simp)) person)
        (.cons (derives_equals (named (by simp)) group) .nil)
    · exact .cons (derives_holds (named (by simp)) decoded)
        (.cons (derives_holds (named (by simp)) decoded)
          (.cons (derives_holds (named (by simp)) decoded) .nil))

/-- The parts of the filter for the groups of a member. -/
theorem searchTransitiveGroupsForMember_written (memberDn : String) :
    (searchTransitiveGroupsForMember memberDn).toList =
      '(' :: '&' :: ([equalsText objectClass "group".toList,
        '(' :: (memberAttribute ++ ':' :: (inChainRule ++ ':' :: '=' ::
          (escapeFilterValue memberDn).toList) ++ [')'])].flatten ++ [')']) := by
  have kind : "(&(objectClass=group)(member:".toList =
      '(' :: '&' :: (equalsText objectClass "group".toList ++
        '(' :: (memberAttribute ++ [':'])) := by decide
  have equal : ":=".toList = [':', '='] := by decide
  have closing : "))".toList = [')', ')'] := by decide
  unfold searchTransitiveGroupsForMember
  simp only [toString, String.toList_append, kind, equal, closing]
  change _ = '(' :: '&' :: ([equalsText objectClass "group".toList,
    '(' :: (memberAttribute ++ ':' :: (ldapMatchingRuleInChain.toList ++ ':' :: '=' ::
      (escapeFilterValue memberDn).toList) ++ [')'])].flatten ++ [')'])
  simp only [List.flatten_cons, List.flatten_nil, List.cons_append, List.append_assoc,
    List.nil_append, List.append_nil]

theorem searchTransitiveGroupsForMember_onlyValue :
    OnlyValue searchTransitiveGroupsForMember transitiveTree id := by
  apply onlyValue_of_derives
  · intro first second same
    cases same
    rfl
  · exact Function.injective_id
  · intro memberDn
    have decoded := decodeValue_escapeFilterValue memberDn
    have group : decodeValue "group".toList = some (utf8 "group") := by decide
    have rule : isOid inChainRule = true ∧
        isDnMark inChainRule = false := by decide
    rw [searchTransitiveGroupsForMember_written]
    exact .and (.cons (derives_equals (named (by simp)) group)
      (.cons (.item (readItem_rule (named (by simp)) rule.1 rule.2 decoded)) .nil))
      (List.cons_ne_nil _ _)

/-- The parts of the filter for a computer. -/
theorem searchComputerSecurityDescriptor_written (netbiosName : String) :
    (searchComputerSecurityDescriptor netbiosName).toList =
      '(' :: '&' :: ([equalsText objectCategory "computer".toList,
        equalsText samAccountName ((escapeFilterValue netbiosName).toList ++ ['$'])].flatten
          ++ [')']) := by
  have kind : "(&(objectCategory=computer)(sAMAccountName=".toList =
      '(' :: '&' :: (equalsText objectCategory "computer".toList ++
        '(' :: (samAccountName ++ ['='])) := by decide
  have closing : "$))".toList = ['$', ')', ')'] := by decide
  unfold searchComputerSecurityDescriptor
  simp only [toString, String.toList_append, kind, closing]
  unfold equalsText
  simp only [List.flatten_cons, List.flatten_nil, List.cons_append, List.append_assoc,
    List.nil_append, List.append_nil]

/-- A dollar sign needs no escape. -/
theorem escapeFilterValue_dollar (value : String) :
    (escapeFilterValue (value ++ "$")).toList = (escapeFilterValue value).toList ++ ['$'] := by
  have dollar : "$".toList.flatMap escapeFilterLetter = ['$'] := by decide
  unfold escapeFilterValue
  rw [String.toList_ofList, String.toList_ofList, String.toList_append, List.flatMap_append, dollar]

theorem searchComputerSecurityDescriptor_onlyValue :
    OnlyValue searchComputerSecurityDescriptor computerTree (fun name => name ++ "$") := by
  apply onlyValue_of_derives
  · intro first second same
    cases same
    rfl
  · intro first second same
    exact (String.append_left_inj "$").mp same
  · intro netbiosName
    have decoded := decodeValue_escapeFilterValue (netbiosName ++ "$")
    have computer : decodeValue "computer".toList = some (utf8 "computer") := by decide
    rw [escapeFilterValue_dollar] at decoded
    rw [searchComputerSecurityDescriptor_written]
    exact .and (.cons (derives_equals (named (by simp)) computer)
      (.cons (derives_equals (named (by simp)) decoded) .nil)) (List.cons_ne_nil _ _)

/-- Every filter built from a text is one fixed tree on the octets of the text, in
the filter for a computer on the octets of the text with a dollar sign behind it;
no text builds another tree, and no two texts the same filter. -/
theorem ldapFilters_onlyValue :
    OnlyValue searchAllBySamaccount (equals samAccountName) id ∧
      OnlyValue searchByUpn (equals userPrincipalName) id ∧
      OnlyValue searchByQuery queryTree id ∧
      OnlyValue searchTransitiveGroupsForMember transitiveTree id ∧
      OnlyValue searchComputerSecurityDescriptor computerTree (fun name => name ++ "$") :=
  ⟨searchAllBySamaccount_onlyValue, searchByUpn_onlyValue, searchByQuery_onlyValue,
    searchTransitiveGroupsForMember_onlyValue, searchComputerSecurityDescriptor_onlyValue⟩

/-- The account name looked up for the computer FS01 is not FS01. -/
theorem computerFilter_dollar :
    Derives (computerTree (utf8 "FS01$")) (searchComputerSecurityDescriptor "FS01").toList ∧
      ¬Derives (computerTree (utf8 "FS01")) (searchComputerSecurityDescriptor "FS01").toList := by
  have derives := searchComputerSecurityDescriptor_onlyValue.derives "FS01"
  have shown : "FS01" ++ "$" = "FS01$" := by decide
  rw [shown] at derives
  refine ⟨derives, ?_⟩
  intro plain
  cases plain.unique derives

end AdResolver
end Stars
