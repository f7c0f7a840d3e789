namespace Stars

/-!
# Errors

The errors the program's parts return, with the texts in which they reach
reasons and markers.
-/

inductive CoreError where
  | adConnection (reason : String)
  | ldapQuery (reason : String)
  | sidResolution (reason : String)
  | accessDenied (reason : String)
  | pathNotFound (reason : String)
  | invalidSecurityDescriptor (reason : String)
  | unsupportedAceType (reason : String)
  | shareEnumeration (reason : String)
  | database (reason : String)
  | exportFailed (reason : String)
  | cancelled
  | validation (reason : String)
  | reparseCycle (reason : String)
  | reparseDuplicateTarget (reason : String)
  | otherShare (reason : String)
  | reparseNotFollowed (reason : String)
deriving DecidableEq

namespace CoreError

def display : CoreError → String
  | adConnection reason => s!"AD connection error: {reason}"
  | ldapQuery reason => s!"LDAP query error: {reason}"
  | sidResolution reason => s!"SID resolution error: {reason}"
  | accessDenied reason => s!"Access denied: {reason}"
  | pathNotFound reason => s!"Path not found: {reason}"
  | invalidSecurityDescriptor reason => s!"Invalid security descriptor: {reason}"
  | unsupportedAceType reason => s!"Unsupported ACE type: {reason}"
  | shareEnumeration reason => s!"Share enumeration error: {reason}"
  | database reason => s!"Database error: {reason}"
  | exportFailed reason => s!"Export error: {reason}"
  | cancelled => "Cancellation requested"
  | validation reason => s!"Validation error: {reason}"
  | reparseCycle reason => s!"Reparse cycle: {reason}"
  | reparseDuplicateTarget reason => s!"Duplicate reparse target: {reason}"
  | otherShare reason => s!"Served from another share: {reason}"
  | reparseNotFollowed reason => s!"Link not followed: {reason}"

end CoreError

end Stars
