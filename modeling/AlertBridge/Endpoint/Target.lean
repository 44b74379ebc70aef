import AlertBridge.Text.Percent
import AlertBridge.Text.Substring
import AlertBridge.Text.Utf

/-!
# Targets of requests

The target of a request is a path, and possibly a query. The path names a resource, which is the
state of the program or the hook of a slug; the query gives parameters. Both are
percent-decoded.
-/

namespace AlertBridge.Endpoint

/-- The text of bytes in UTF-8, where bytes that are malformed stay percent-encoded. -/
def decodeKeeping : List UInt8 → List Char
  | [] => []
  | b :: rest =>
    let (found, used) := utf8First b rest
    (match found with
      | some c => [c]
      | none => (b :: rest.take used).flatMap percentByte) ++ decodeKeeping (rest.drop used)
termination_by bytes => bytes.length
decreasing_by simp only [List.length_cons, List.length_drop]; omega

/-- A form value as text: a plus sign is a space, and what is percent-encoded is decoded. -/
def formDecode (cs : List Char) : String :=
  String.ofList (decodeKeeping (percentBytes (cs.map fun c => if c = '+' then ' ' else c)))

/-- A parameter: a name, and a value behind an equals sign. -/
def parameter (cs : List Char) : String × String :=
  (formDecode (cs.takeWhile (· ≠ '=')), formDecode ((cs.dropWhile (· ≠ '=')).drop 1))

/-- The pairs without those whose name occurs earlier. -/
def firstOfEach : List (String × String) → List (String × String)
  | [] => []
  | (name, value) :: rest => (name, value) :: (firstOfEach rest).filter (·.1 ≠ name)

/-- The parameters of a query, of which the first of each name counts. -/
def parameters (query : List Char) : List (String × String) :=
  firstOfEach (((splitChars '&' query).filter (!·.isEmpty)).map parameter)

/-- The target of a request: its path, decoded, and its parameters. -/
structure Target where
  path : List Char
  query : List (String × String)

/-- What follows the host that a target may name. -/
def dropHost : List Char → List Char
  | '/' :: '/' :: rest => rest.dropWhile fun c => !(c = '/' || c = '?')
  | cs => cs

/-- The target that a text is. A part behind a number sign does not count. -/
def Target.ofText (text : String) : Target :=
  let cs := (text.toList.filter fun c => !(c = '\t' || c = '\n' || c = '\r')).takeWhile (· ≠ '#')
  let cs := dropHost cs
  let path := decodeUtf8Lossy (percentBytes (cs.takeWhile (· ≠ '?')))
  ⟨'/' :: path.dropWhile (· = '/'), parameters ((cs.dropWhile (· ≠ '?')).drop 1)⟩

/-- What a path can name. -/
inductive Resource where
  | health
  | hook (slug : String)
  deriving DecidableEq

/-- The resource that a path names. -/
def Resource.ofPath? (path : List Char) : Option Resource :=
  match (splitChars '/' path).map String.ofList with
  | ["", "health"] => some .health
  | ["", "hook", slug] => if slug = "" then none else some (.hook slug)
  | _ => none

/-- The methods that a resource answers. -/
def Resource.methods : Resource → List String
  | health => ["GET", "HEAD", "OPTIONS"]
  | hook _ => ["POST", "OPTIONS"]

/-- The path with every two slashes made one. -/
def mergeSlashes (path : List Char) : List Char := replaceChars ['/', '/'] ['/'] path

/-- Where a request leads. -/
inductive Routing where
  | resource (resource : Resource)
  /-- The path has slashes too many. -/
  | redirect
  | wrongMethod
  | unknown
  deriving DecidableEq

/-- Where a method and a path lead. -/
def Routing.of (method : String) (path : List Char) : Routing :=
  let merged := Resource.ofPath? (mergeSlashes path)
  match Resource.ofPath? path, merged with
  | some r, _ => if r.methods.contains method then .resource r else .wrongMethod
  | none, some r => if r.methods.contains method then .redirect else .wrongMethod
  | none, none => .unknown

end AlertBridge.Endpoint
