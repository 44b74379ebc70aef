import AlertBridge.Text.Blank
import AlertBridge.Text.Percent
import AlertBridge.Text.Substring

/-!
# Addresses of webhooks

Before a request is sent its address is brought into normal form: the scheme and the host in small
letters, no `.` and `..` among the parts of the path, and everything that may not stand in an
address percent-encoded. Parameters are added to the query, in the encoding of forms.
-/

namespace AlertBridge.Webhook

/-- An address, cut into its parts. -/
structure Address where
  scheme : List Char
  authority : List Char
  path : List Char
  query : List Char
  fragment : List Char

/-- What is in front of a separator, and what is behind it, nothing if there is none. -/
def cutAt (separator : Char) (cs : List Char) : List Char × List Char :=
  (cs.takeWhile (· ≠ separator), (cs.dropWhile (· ≠ separator)).drop 1)

/-- The character can stand in a scheme. -/
def isSchemeChar (c : Char) : Bool := c.isAlphanum || c = '+' || c = '.' || c = '-'

/-- The scheme in front of a colon, and what is behind it. -/
def scheme? (cs : List Char) : Option (List Char × List Char) :=
  match cs.takeWhile isSchemeChar, cs.dropWhile isSchemeChar with
  | c :: scheme, ':' :: rest => if c.isAlpha then some (c :: scheme, rest) else none
  | _, _ => none

/-- A slash of either kind, or what ends a path. -/
def endsAuthority (c : Char) : Bool := c = '/' || c = '\\' || c = '?' || c = '#'

/-- The address that a text is, none without a scheme. -/
def Address.ofText? (cs : List Char) : Option Address :=
  (scheme? cs).map fun (scheme, rest) =>
    let (rest, fragment) := cutAt '#' rest
    let (rest, query) := cutAt '?' rest
    match rest with
    | '/' :: '/' :: rest =>
      ⟨scheme, rest.takeWhile (!endsAuthority ·), rest.dropWhile (!endsAuthority ·), query,
        fragment⟩
    | rest => ⟨scheme, [], rest, query, fragment⟩

/-! ### Paths without dots -/

/-- The parts of a path with `.` left out and `..` taking away the part in front of it, where
`done` holds the parts so far, the last one first. -/
def dropDots (done : List (List Char)) : List (List Char) → List (List Char)
  | [] => done.reverse
  | part :: rest =>
    if part = ['.'] then dropDots done rest
    else if part = ['.', '.'] then dropDots (done.drop 1) rest
    else dropDots (part :: done) rest

/-- The parts joined by slashes. -/
def joinPath : List (List Char) → List Char
  | [] => []
  | [part] => part
  | part :: parts => part ++ '/' :: joinPath parts

/-- The path ends with a part that only says where it is. -/
def endsWithDots (parts : List (List Char)) : Bool :=
  match parts.reverse with
  | last :: _ :: _ => last = ['.'] || last = ['.', '.']
  | _ => false

/-- The path without `.` and `..`. It starts with a slash if it did so before. -/
def plainPath (path : List Char) : List Char :=
  let parts := splitChars '/' path
  let kept := dropDots [] parts
  let kept := if path.head? = some '/' && (kept.head?.getD ['x'] ≠ []) then [] :: kept else kept
  joinPath (if endsWithDots parts then kept ++ [[]] else kept)

/-! ### Encoding -/

/-- Capital digits in the percent-encoded bytes of a text. -/
def raiseEscapes : List Char → List Char
  | '%' :: a :: b :: rest =>
    if (hexDigit? a).isSome && (hexDigit? b).isSome then
      '%' :: a.toUpper :: b.toUpper :: raiseEscapes rest
    else '%' :: raiseEscapes (a :: b :: rest)
  | c :: rest => c :: raiseEscapes rest
  | [] => []

/-- Every percent sign starts an encoded byte. -/
def areEscapes : List Char → Bool
  | '%' :: a :: b :: rest => (hexDigit? a).isSome && (hexDigit? b).isSome && areEscapes rest
  | '%' :: _ => false
  | _ :: rest => areEscapes rest
  | [] => true

/-- A part of an address in which only some characters may stand. A percent sign may if all of
them start encoded bytes. -/
def encodePart (allowed : List Char) (cs : List Char) : List Char :=
  let raised := raiseEscapes cs
  percentEncode (if areEscapes raised then '%' :: allowed else allowed) raised

/-- What may stand in a path besides letters, digits and the marks that are never encoded. -/
def pathChars : List Char := "!$&'()*+,;=:@/".toList

/-- What may stand in a query or a fragment. -/
def queryChars : List Char := '?' :: pathChars

/-- What may stand anywhere in an address. -/
def addressChars : List Char := "!#$%&'()*+,/:;=?@[]~".toList

/-- The text with those encoded bytes decoded that need not be encoded. -/
def decodeUnreserved : List Char → List Char
  | '%' :: a :: b :: rest =>
    match hexDigit? a, hexDigit? b with
    | some x, some y =>
      let c := Char.ofNat (x * 16 + y)
      if isUnreserved c then c :: decodeUnreserved rest
      else '%' :: a :: b :: decodeUnreserved rest
    | _, _ => '%' :: decodeUnreserved (a :: b :: rest)
  | c :: rest => c :: decodeUnreserved rest
  | [] => []

/-- The parameters of a request in the encoding of forms. -/
def formQuery (parameters : List (String × String)) : List Char :=
  (joinWith "&" (parameters.map fun (name, value) =>
    String.ofList (formEncode name.toList ++ '=' :: formEncode value.toList))).toList

/-- Two queries, one behind the other. -/
def joinQueries (first second : List Char) : List Char :=
  if first.isEmpty then second else if second.isEmpty then first else first ++ '&' :: second

/-- The authority with the host in small letters. -/
def plainAuthority (authority : List Char) : List Char :=
  match cutAt '@' authority.reverse with
  | (host, []) => host.reverse.map Char.toLower
  | (host, user) =>
    encodePart ("!$&'()*+,;=:".toList) user.reverse ++ '@' :: host.reverse.map Char.toLower

/-- An address in normal form as a text, with parameters added to its query. -/
def Address.normal (a : Address) (parameters : List (String × String)) : List Char :=
  let path := encodePart pathChars (plainPath a.path)
  let query := joinQueries (encodePart queryChars a.query) (formQuery parameters)
  let fragment := encodePart queryChars a.fragment
  let text := a.scheme.map Char.toLower ++ "://".toList ++ plainAuthority a.authority
    ++ (if path.isEmpty then ['/'] else path)
    ++ (if query.isEmpty then [] else '?' :: query)
    ++ (if fragment.isEmpty then [] else '#' :: fragment)
  percentEncode addressChars (decodeUnreserved text)

/-- The address to which a request for a webhook goes, none if the webhook has no scheme. -/
def target? (hook : String) (parameters : List (String × String)) : Option String :=
  (Address.ofText? (hook.toList.dropWhile isBlank)).map fun a =>
    String.ofList (a.normal parameters)

end AlertBridge.Webhook
