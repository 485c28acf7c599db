import CodeShelf.Error
import CodeShelf.Url

/-!
# Where the service is

The address of the service, as the user gave it.  It has to be an `http` or `https`
URL; what is kept is the text itself, without the blanks around it and the slashes
at its end.
-/

namespace CodeShelf

open Text

structure Config where
  baseUrl : String
  deriving DecidableEq, Repr

namespace Config

def ofText (text : String) : Except ConfigError Config :=
  let trimmed := trim text.toList
  match Url.parse trimmed with
  | .error e => .error (.invalidUrl (String.ofList trimmed) e)
  | .ok url =>
      if url.scheme = "http" ∨ url.scheme = "https" then
        .ok ⟨String.ofList (dropEndWhile (· == '/') trimmed)⟩
      else .error (.unsupportedScheme url.scheme)

def ofVariable : Option String → Except ConfigError Config
  | none => .error .variableNotSet
  | some text => ofText text

/-- The URL of a path of the service, with one slash between the two. -/
def endpoint (c : Config) (path : String) : String :=
  c.baseUrl ++ "/" ++ String.ofList (path.toList.dropWhile (· == '/'))

end Config

end CodeShelf
