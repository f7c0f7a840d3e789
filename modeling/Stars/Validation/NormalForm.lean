import Stars.Validation.PathChecks

namespace Stars
namespace Validation

open Collections

/-!
# The normal form of validated paths

A validated path is left as it is by every further validation, also in its
long-path form, and the conversions between both forms are inverse to each other.
-/

section NormalForm

variable {path : String} {letters server share afterServer rest : List Char} {drive : Char}

theorem stripPrefix_eq_none {start : String} {text : List Char}
    (differs : ∀ rest, text ≠ start.toList ++ rest) : Text.stripPrefix start text = none := by
  cases found : Text.stripPrefix start text with
  | none => rfl
  | some rest => exact absurd (Text.stripPrefix_eq_some_iff.mp found) (differs rest)

theorem stripPrefix_append (start : String) (rest : List Char) :
    Text.stripPrefix start (start.toList ++ rest) = some rest :=
  Text.stripPrefix_eq_some_iff.mpr rfl

theorem startsWith_eq (start text : String) :
    Text.startsWith start text = (Text.stripPrefix start text.toList).isSome := by
  rw [Text.startsWith, Text.stripPrefix]
  split
  · assumption
  · rename_i differs
    exact Bool.eq_false_of_not_eq_true differs

/-- A drive letter is no separator. -/
theorem IsLocal.drive_ne (known : IsLocal letters drive rest) {other : Char}
    (separator : other.isAlpha = false) : drive ≠ other := by
  intro same
  have alpha := known.alpha
  rw [same, separator] at alpha
  cases alpha

namespace IsUnc

theorem server_ne_nil (known : IsUnc letters server share afterServer rest) : server ≠ [] := by
  intro nothing
  have named := known.serverName.nonempty
  rw [nothing] at named
  exact named rfl

theorem serverLetter (known : IsUnc letters server share afterServer rest) {letter : Char}
    (listed : letter ∈ server) :    letter ≠ '/' ∧ letter ≠ '?' := by
  rcases Text.mem_trim_or listed with kept | white
  · have plain := hostLetter_plain (known.serverName.letters letter kept)
    exact ⟨plain.2.2.1, plain.2.2.2.2⟩
  · constructor
    · intro same
      rw [same] at white
      revert white
      decide
    · intro same
      rw [same] at white
      revert white
      decide

theorem shareLetter (known : IsUnc letters server share afterServer rest) {letter : Char}
    (listed : letter ∈ share) : letter ≠ '/' := by
  intro same
  rw [same] at listed
  rcases Text.mem_trim_or listed with kept | white
  · have plain := known.shareName.letters '/' kept
    revert plain
    decide
  · revert white
    decide

/-- The path does not begin with the long-path prefix. -/
theorem strip_longPrefix (known : IsUnc letters server share afterServer rest) :
    Text.stripPrefix longPrefix letters = none := by
  apply stripPrefix_eq_none
  intro others same
  rw [known.whole] at same
  cases written : server with
  | nil => exact known.server_ne_nil written
  | cons first more =>
      rw [written] at same
      have head : first = '?' := by
        have equal := congrArg (fun text => text[2]?) same
        simpa [longPrefix] using equal
      exact (known.serverLetter (by rw [written]; exact List.mem_cons_self)).2 head

/-- The long-path form of a path. -/
theorem toWindowsApiPath_eq (known : IsUnc path.toList server share afterServer rest) :
    toWindowsApiPath path =
      longUncPrefix ++ String.ofList (server ++ '\\' :: afterServer) := by
  have whole : path.toList = "\\\\".toList ++ (server ++ '\\' :: afterServer) := known.whole
  rw [toWindowsApiPath, startsWith_eq, known.strip_longPrefix, Option.isSome_none, if_neg (by decide),
    whole, stripPrefix_append]

end IsUnc

namespace IsLocal

theorem strip_none (known : IsLocal letters drive rest) {start : String}
    (separated : start.toList.head? = some '\\') : Text.stripPrefix start letters = none := by
  apply stripPrefix_eq_none
  intro others same
  rw [known.whole] at same
  have heads := congrArg List.head? same
  rw [List.head?_cons, List.head?_append, separated, Option.some_or] at heads
  exact known.drive_ne (by decide) (Option.some.inj heads)

theorem toWindowsApiPath_eq (known : IsLocal path.toList drive rest) :
    toWindowsApiPath path = longPrefix ++ path := by
  rw [toWindowsApiPath, startsWith_eq, known.strip_none rfl, Option.isSome_none,
    if_neg (by decide), known.strip_none rfl, known.whole]
  exact if_pos known.alpha

end IsLocal

/-- A text with the long-path prefix whose sixth letter is a colon is no UNC path. -/
theorem strip_longUncPrefix_drive (known : IsLocal path.toList drive rest) :
    Text.stripPrefix longUncPrefix (longPrefix ++ path).toList = none := by
  apply stripPrefix_eq_none
  intro others same
  rw [String.toList_append, known.whole] at same
  have sixth := congrArg (fun text => text[5]?) same
  simp [longPrefix, longUncPrefix] at sixth

/-! ## The laws -/

theorem startsWith_append (start rest : String) : Text.startsWith start (start ++ rest) = true := by
  rw [startsWith_eq, String.toList_append, stripPrefix_append]
  rfl

/-- A path with the long-path prefix is left as it is. -/
theorem toWindowsApiPath_of_prefixed (rest : String) :
    toWindowsApiPath (longPrefix ++ rest) = longPrefix ++ rest := by
  rw [toWindowsApiPath, if_pos (startsWith_append longPrefix rest)]

theorem longUncPrefix_eq : longUncPrefix = longPrefix ++ "UNC\\" := by decide

/-- Without the long-path prefix there is no long-path UNC prefix. -/
theorem strip_longUncPrefix (short : Text.stripPrefix longPrefix letters = none) :
    Text.stripPrefix longUncPrefix letters = none := by
  apply stripPrefix_eq_none
  intro others same
  rw [longUncPrefix_eq, String.toList_append, List.append_assoc] at same
  rw [same, stripPrefix_append] at short
  cases short

/-- More in front of a trimmed text leaves it trimmed. -/
theorem trim_toList_append {start : String} {text : List Char} (trimmed : Text.trim text = text)
    (nonempty : text ≠ []) (begins : start.toList.head? = some '\\') :
    Text.trim (start.toList ++ text) = start.toList ++ text := by
  rw [Text.trim_eq_self_iff] at trimmed ⊢
  constructor
  · intro letter first
    rw [List.head?_append, begins, Option.some_or] at first
    rw [← Option.some.inj first]
    rfl
  · intro letter last
    rw [List.getLast?_append, List.getLast?_eq_some_getLast nonempty, Option.some_or] at last
    apply trimmed.2
    rw [List.getLast?_eq_some_getLast nonempty, last]

namespace IsLocal

theorem validatePath_eq (known : IsLocal path.toList drive rest)
    (trimmed : Text.trim path.toList = path.toList) :
    validatePath path = validateLocalPath path := by
  have noUnc : Text.startsWith "\\\\" path = false := by
    rw [startsWith_eq, known.strip_none rfl]
    rfl
  have noLongUnc := known.strip_none (rfl : longUncPrefix.toList.head? = some '\\')
  have noLong := known.strip_none (rfl : longPrefix.toList.head? = some '\\')
  simp only [validatePath, trimmed, noLongUnc, noLong, String.ofList_toList, noUnc,
    Bool.false_eq_true, if_false]

theorem validatePath_api (known : IsLocal path.toList drive rest)
    (trimmed : Text.trim path.toList = path.toList) :
    validatePath (toWindowsApiPath path) = validateLocalPath path := by
  have nonempty : path.toList ≠ [] := by
    rw [known.whole]
    exact List.cons_ne_nil _ _
  have trimmedApi : Text.trim (longPrefix ++ path).toList = (longPrefix ++ path).toList := by
    rw [String.toList_append]
    exact trim_toList_append trimmed nonempty rfl
  have noUnc := strip_longUncPrefix_drive known
  rw [known.toWindowsApiPath_eq]
  simp only [validatePath, trimmedApi, noUnc]
  rw [String.toList_append, stripPrefix_append]
  dsimp only
  rw [String.ofList_toList]

theorem strip_api (known : IsLocal path.toList drive rest) :
    stripLongPathPrefix (toWindowsApiPath path) = path := by
  have noUnc : hasLongUncPrefix (longPrefix ++ path) = false := by
    rw [hasLongUncPrefix, Text.eqIgnoreAsciiCase, Text.toAsciiLowercase, Text.toAsciiLowercase,
      beq_eq_false_iff_ne, ne_eq, String.ofList_inj, String.toList_ofList, String.toList_append,
      known.whole]
    intro same
    have sixth := congrArg (fun text => text[5]?) same
    revert sixth
    simp [longPrefix, longUncPrefix]
  rw [known.toWindowsApiPath_eq, stripLongPathPrefix, noUnc, String.toList_append,
    stripPrefix_append, if_neg (by decide)]
  exact String.ofList_toList

theorem parseUncComponents_eq (known : IsLocal path.toList drive rest) :
    parseUncComponents path = none := by
  have separate : isSeparator drive = false := by
    rw [isSeparator, beq_false_of_ne (known.drive_ne (by decide)),
      beq_false_of_ne (known.drive_ne (by decide))]
    rfl
  have slashes : Text.startsWith "//?/" path = false := by
    rw [startsWith_eq, stripPrefix_eq_none]
    · rfl
    · intro others same
      rw [known.whole] at same
      have heads := congrArg List.head? same
      exact known.drive_ne (by decide) (Option.some.inj heads)
  rw [parseUncComponents, known.strip_none rfl, startsWith_eq, known.strip_none rfl, slashes,
    known.whole]
  simp [separate]

theorem parseUncComponents_api (known : IsLocal path.toList drive rest) :
    parseUncComponents (toWindowsApiPath path) = none := by
  rw [known.toWindowsApiPath_eq, parseUncComponents, strip_longUncPrefix_drive known,
    startsWith_append]
  rfl

end IsLocal

namespace IsUnc

theorem toList_eq (known : IsUnc path.toList server share afterServer rest) :
    path = "\\\\" ++ String.ofList (server ++ '\\' :: afterServer) := by
  rw [← String.toList_inj, known.whole, String.toList_append]
  exact congrArg ("\\\\".toList ++ ·) String.toList_ofList.symm

theorem validatePath_eq (known : IsUnc path.toList server share afterServer rest)
    (trimmed : Text.trim path.toList = path.toList) :
    validatePath path = validateUncPath path := by
  have unc : Text.startsWith "\\\\" path = true := by
    rw [known.toList_eq]
    exact startsWith_append _ _
  have noLong := known.strip_longPrefix
  simp only [validatePath, trimmed, strip_longUncPrefix noLong, noLong, String.ofList_toList, unc,
    if_true]

theorem validatePath_api (known : IsUnc path.toList server share afterServer rest)
    (trimmed : Text.trim path.toList = path.toList) :
    validatePath (toWindowsApiPath path) = validateUncPath path := by
  have same : String.ofList ('\\' :: '\\' :: (server ++ '\\' :: afterServer)) = path := by
    rw [← known.whole, String.ofList_toList]
  have trimmedApi : Text.trim (longUncPrefix.toList ++ (server ++ '\\' :: afterServer)) =
      longUncPrefix.toList ++ (server ++ '\\' :: afterServer) := by
    rw [Text.trim_eq_self_iff] at trimmed ⊢
    constructor
    · intro letter first
      rw [← Option.some.inj first]
      rfl
    · intro letter last
      apply trimmed.2
      rw [known.whole]
      simpa [List.getLast?_append, List.getLast?_cons] using last
  rw [known.toWindowsApiPath_eq]
  simp only [validatePath, String.toList_append, String.toList_ofList, trimmedApi,
    stripPrefix_append, same]

theorem strip_api (known : IsUnc path.toList server share afterServer rest) :
    stripLongPathPrefix (toWindowsApiPath path) = path := by
  have letters : (longUncPrefix ++ String.ofList (server ++ '\\' :: afterServer)).toList =
      longUncPrefix.toList ++ (server ++ '\\' :: afterServer) := by
    rw [String.toList_append, String.toList_ofList]
  have unc : hasLongUncPrefix (toWindowsApiPath path) = true := by
    rw [known.toWindowsApiPath_eq, hasLongUncPrefix, letters]
    exact beq_self_eq_true _
  rw [stripLongPathPrefix, if_pos unc, known.toWindowsApiPath_eq, letters]
  exact known.toList_eq.symm

theorem server_plain (known : IsUnc letters server share afterServer rest) {letter : Char}
    (listed : letter ∈ server) : isSeparator letter = false := by
  have whole : letter ≠ '\\' := fun same => known.serverWhole (by rwa [same] at listed)
  rw [isSeparator, beq_false_of_ne whole, beq_false_of_ne (known.serverLetter listed).1]
  rfl

theorem share_plain (known : IsUnc letters server share afterServer rest) {letter : Char}
    (listed : letter ∈ share) : isSeparator letter = false := by
  have whole : letter ≠ '\\' := fun same => known.shareWhole (by rwa [same] at listed)
  rw [isSeparator, beq_false_of_ne whole, beq_false_of_ne (known.shareLetter listed)]
  rfl

theorem takeWhile_share (known : IsUnc letters server share afterServer rest) :
    afterServer.takeWhile (fun letter => !isSeparator letter) = share := by
  have whole : ∀ letter ∈ share, (!isSeparator letter) = true := by
    intro letter listed
    rw [known.share_plain listed]
    rfl
  rcases known.ends with ⟨same, _⟩ | longer
  · rw [same, List.takeWhile_eq_self_iff]
    exact whole
  · rw [longer, List.takeWhile_append_of_pos whole, List.takeWhile_cons_of_neg (by decide),
      List.append_nil]

/-- The path has neither form of the long-path prefix. -/
theorem startsWith_none (known : IsUnc path.toList server share afterServer rest) :
    (Text.startsWith longPrefix path || Text.startsWith "//?/" path) = false := by
  have slashes : Text.startsWith "//?/" path = false := by
    rw [startsWith_eq, stripPrefix_eq_none]
    · rfl
    · intro others same
      rw [known.whole] at same
      cases List.head_eq_of_cons_eq same
  rw [startsWith_eq, known.strip_longPrefix, slashes]
  rfl

/-- Server and share of an accepted path are the ones that are written. -/
theorem parseUncComponents_eq (known : IsUnc path.toList server share afterServer rest) :
    parseUncComponents path = some (String.ofList server, String.ofList share) := by
  have shareName : share ≠ [] := by
    intro nothing
    have named := known.shareName.nonempty
    rw [nothing] at named
    exact named rfl
  have servers : (server ++ '\\' :: afterServer).dropWhile isSeparator =
      server ++ '\\' :: afterServer := by
    cases written : server with
    | nil => exact absurd written known.server_ne_nil
    | cons first more =>
        have plain := known.server_plain (by rw [written]; exact List.mem_cons_self)
        rw [List.cons_append, List.dropWhile_cons_of_neg (by rw [plain]; decide)]
  have first : (server ++ '\\' :: afterServer).takeWhile (fun letter => !isSeparator letter) =
      server := by
    have whole : ∀ letter ∈ server, (!isSeparator letter) = true := by
      intro letter listed
      rw [known.server_plain listed]
      rfl
    rw [List.takeWhile_append_of_pos whole, List.takeWhile_cons_of_neg (by decide), List.append_nil]
  have behind : (server ++ '\\' :: afterServer).drop (server.length + 1) = afterServer := by
    rw [List.drop_append, List.drop_eq_nil_of_le (by omega), Nat.add_sub_cancel_left]
    rfl
  have separate : isSeparator '\\' = true := rfl
  rw [parseUncComponents, strip_longUncPrefix known.strip_longPrefix, known.startsWith_none,
    known.whole]
  simp only [Bool.false_eq_true, if_false, Bool.or_self, Option.bind_some, separate, Bool.and_self, if_true, List.dropWhile_cons_of_pos, servers, first, behind,
    known.takeWhile_share, List.isEmpty_eq_false_iff.mpr known.server_ne_nil,
    List.isEmpty_eq_false_iff.mpr shareName]

theorem parseUncComponents_api (known : IsUnc path.toList server share afterServer rest) :
    parseUncComponents (toWindowsApiPath path) = parseUncComponents path := by
  rw [known.toWindowsApiPath_eq, parseUncComponents, parseUncComponents, String.toList_append,
    String.toList_ofList, stripPrefix_append, strip_longUncPrefix known.strip_longPrefix,
    known.startsWith_none, known.whole]
  rfl

end IsUnc

/-- A validated path is its own normal form. -/
theorem validatePath_normal {input : String} (validated : validatePath input = .ok path) :
    validatePath path = .ok path ∧
    stripLongPathPrefix (toWindowsApiPath path) = path ∧
    toWindowsApiPath (toWindowsApiPath path) = toWindowsApiPath path ∧
    validatePath (toWindowsApiPath path) = .ok path ∧
    parseUncComponents (toWindowsApiPath path) = parseUncComponents path := by
  rcases validatePath_eq_ok validated with ⟨trimmed, accepted | accepted⟩
  · rcases (isLocal_of_validated accepted).2 with ⟨drive, rest, known⟩
    refine ⟨?_, known.strip_api, ?_, ?_, ?_⟩
    · rw [known.validatePath_eq trimmed, accepted]
    · rw [known.toWindowsApiPath_eq]
      exact toWindowsApiPath_of_prefixed path
    · rw [known.validatePath_api trimmed, accepted]
    · rw [known.parseUncComponents_api, known.parseUncComponents_eq]
  · rcases (isUnc_of_validated accepted).2 with ⟨server, share, afterServer, rest, known⟩
    refine ⟨?_, known.strip_api, ?_, ?_, known.parseUncComponents_api⟩
    · rw [known.validatePath_eq trimmed, accepted]
    · rw [known.toWindowsApiPath_eq, longUncPrefix_eq, String.append_assoc]
      exact toWindowsApiPath_of_prefixed _
    · rw [known.validatePath_api trimmed, accepted]

theorem validatePath_normal_share :
    validatePath (toWindowsApiPath "\\\\fs01\\data\\a b") = .ok "\\\\fs01\\data\\a b" :=
  have validated : validatePath " \\\\?\\UNC\\fs01\\data\\a b " = .ok "\\\\fs01\\data\\a b" := by
    decide
  (validatePath_normal validated).2.2.2.1

end NormalForm

end Validation
end Stars
