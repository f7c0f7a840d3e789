import Stars.Text.Ascii

namespace Stars
namespace Validation

/-!
# Windows paths

The long-path form that Win32 calls need, its display form, and the server and
share of a UNC path.  A drive path is never taken for a UNC path.
-/

def isSeparator (letter : Char) : Bool := letter == '\\' || letter == '/'

def longUncPrefix : String := "\\\\?\\UNC\\"

def longPrefix : String := "\\\\?\\"

/-- The long-path UNC prefix, `UNC` in any case. -/
def hasLongUncPrefix (path : String) : Bool :=
  Text.eqIgnoreAsciiCase (String.ofList (path.toList.take 8)) longUncPrefix

/-- The path without its long-path prefix. -/
def stripLongPathPrefix (path : String) : String :=
  if hasLongUncPrefix path then "\\\\" ++ String.ofList (path.toList.drop 8)
  else
    match Text.stripPrefix longPrefix path.toList with
    | some rest => String.ofList rest
    | none => path

/-- The long-path form.  It leaves a prefixed path as it is. -/
def toWindowsApiPath (path : String) : String :=
  if Text.startsWith longPrefix path then path
  else
    match Text.stripPrefix "\\\\" path.toList with
    | some rest => longUncPrefix ++ String.ofList rest
    | none =>
        match path.toList with
        | drive :: ':' :: '\\' :: _ => if drive.isAlpha then longPrefix ++ path else path
        | _ => path

/-- Server and share of a UNC path; none for a local path. -/
def parseUncComponents (path : String) : Option (String × String) :=
  let normalized : Option (List Char) :=
    match Text.stripPrefix longUncPrefix path.toList with
    | some rest => some ('\\' :: '\\' :: rest)
    | none =>
        if Text.startsWith longPrefix path || Text.startsWith "//?/" path then none
        else some path.toList
  normalized.bind (fun letters =>
    match letters with
    | first :: second :: _ =>
        if isSeparator first && isSeparator second then
          let stripped := letters.dropWhile isSeparator
          let server := stripped.takeWhile (fun letter => !isSeparator letter)
          let afterServer := stripped.drop (server.length + 1)
          let share := afterServer.takeWhile (fun letter => !isSeparator letter)
          if server.isEmpty || share.isEmpty then none
          else some (String.ofList server, String.ofList share)
        else none
    | _ => none)

example : parseUncComponents "\\\\?\\UNC\\fs01\\data\\a" = some ("fs01", "data") := by decide

example : parseUncComponents "C:\\Windows" = none := by decide

end Validation
end Stars
