import Formulary.Url.Address
import Formulary.Url.Percent

/-!
# Web addresses — the addresses of remote images

A web address starts with `http:` or `https:`. It is read leniently: blanks and controls around it
and line breaks in it do not count, any number of slashes or backslashes may follow the scheme, dot
segments of the path are resolved, and characters that may not stand in a part are percent-encoded.

* `WebUrl` — the parts of an address in normal form.
* `WebUrl.parse?` — reads an address; anything else, also a host that cannot be one, is refused.
* `WebUrl.toString` — the written form.
-/

namespace Formulary

/-- The parts of a web address, each as it is written. -/
structure WebUrl where
  secure : Bool
  user : List Char
  password : List Char
  host : List Char
  port : Option Nat
  path : List (List Char)
  query : Option (List Char)
  fragment : Option (List Char)
deriving DecidableEq, Repr, Inhabited

namespace WebUrl

open Url

/-- The name of the scheme. -/
def scheme (u : WebUrl) : String := if u.secure then "https" else "http"

/-- The port that a scheme stands for. -/
def defaultPort (secure : Bool) : Nat := if secure then 443 else 80

/-- The characters of the written form. -/
def toChars (u : WebUrl) : List Char :=
  let password := if u.password.isEmpty then [] else ':' :: u.password
  let userInfo := u.user ++ password
  let at_ := if userInfo.isEmpty then [] else ['@']
  let port := match u.port with | some p => ':' :: Nat.toDigits 10 p | none => []
  let query := match u.query with | some q => '?' :: q | none => []
  let fragment := match u.fragment with | some f => '#' :: f | none => []
  u.scheme.toList ++ "://".toList ++ userInfo ++ at_ ++ u.host ++ port ++
    u.path.flatMap ('/' :: ·) ++ query ++ fragment

/-- The written form. -/
protected def toString (u : WebUrl) : String := String.ofList u.toChars

instance : ToString WebUrl := ⟨WebUrl.toString⟩

/-- Whether a character is a control or the space. -/
def isEdge (c : Char) : Bool := c.toNat ≤ 0x20

/-- The input without controls and spaces around it and without tabs and line breaks. -/
def clean (cs : List Char) : List Char :=
  ((((cs.dropWhile isEdge).reverse.dropWhile isEdge).reverse).filter
    fun c => c != '\t' && c != '\n' && c != '\r')

/-- Whether a character separates segments of a path. -/
def isSlash (c : Char) : Bool := c == '/' || c == '\\'

/-- Whether a character ends the part with user and host. -/
def endsAuthority (c : Char) : Bool := isSlash c || c == '?' || c == '#'

/-- What follows the scheme, and whether the scheme is the secure one. -/
def splitScheme? (cs : List Char) : Option (Bool × List Char) :=
  match cs with
  | h :: t₁ :: t₂ :: p :: ':' :: rest =>
    if [h, t₁, t₂, p].map Char.toLower = "http".toList then some (false, rest) else none
  | h :: t₁ :: t₂ :: p :: s :: ':' :: rest =>
    if [h, t₁, t₂, p, s].map Char.toLower = "https".toList then some (true, rest) else none
  | _ => none

/-- The user information in front of the last at sign, and the host with its port. -/
def splitUser (authority : List Char) : Option (List Char) × List Char :=
  if authority.contains '@' then
    let host := (authority.reverse.takeWhile (· != '@')).reverse
    (some (authority.take (authority.length - host.length - 1)), host)
  else (none, authority)

/-- The name and the password of user information, encoded. -/
def userParts (info : List Char) : List Char × List Char :=
  let name := info.takeWhile (· != ':')
  (encode inUserInfo name, encode inUserInfo ((info.drop name.length).drop 1))

/-- Cuts a host from its port at the first colon outside brackets. -/
def splitPort (inside : Bool) : List Char → List Char × Option (List Char)
  | [] => ([], none)
  | c :: rest =>
    if c = ':' ∧ inside = false then ([], some rest)
    else
      let (host, port) := splitPort ((inside || c == '[') && c != ']') rest
      (c :: host, port)

/-- The written form of a host: an address between brackets, an address of four bytes, or a
name. -/
def host? (cs : List Char) : Option (List Char) :=
  match cs with
  | '[' :: rest =>
    if rest.getLast? = some ']' then
      (parseV6? rest.dropLast).map fun pieces => '[' :: (writeV6 pieces ++ [']'])
    else none
  | cs => do
    let domain ← asciiDomain? cs
    if endsInNumber domain then (parseV4? domain).map writeV4 else some domain

/-- The port written behind a colon: nothing for an empty one or the scheme's own. -/
def port? (secure : Bool) (cs : List Char) : Option (Option Nat) :=
  if cs.isEmpty then some none
  else
    match Text.foldDigits 10 Text.decimalValue? 0 cs with
    | some p =>
      if p > 65535 then none else if p = defaultPort secure then some none else some (some p)
    | none => none

/-- Whether a segment stands for the segment itself. -/
def isSingleDot (segment : List Char) : Bool :=
  [".", "%2e"].contains (String.ofList (segment.map Char.toLower))

/-- Whether a segment stands for the one above. -/
def isDoubleDot (segment : List Char) : Bool :=
  ["..", "%2e.", ".%2e", "%2e%2e"].contains (String.ofList (segment.map Char.toLower))

/-- Whether a segment looks like the letter of a drive, which is never taken back. -/
def isDrive (segment : List Char) : Bool :=
  match segment with
  | [c, d] => c.isAlpha && (d == ':' || d == '|')
  | _ => false

/-- Takes the last segment back, the list holding the last one first. -/
def takeBack (segments : List (List Char)) : List (List Char) :=
  match segments with
  | [] => []
  | s :: rest => if isDrive s then s :: rest else rest

/-- Resolves dot segments; `acc` holds the segments so far, last first. -/
def resolve (acc : List (List Char)) : List (List Char) → List (List Char)
  | [] => acc.reverse
  | [last] =>
    if isDoubleDot last then ([] :: takeBack acc).reverse
    else if isSingleDot last then ([] :: acc).reverse
    else (last :: acc).reverse
  | s :: rest =>
    if isDoubleDot s then resolve (takeBack acc) rest
    else if isSingleDot s then resolve acc rest
    else resolve (s :: acc) rest

/-- The segments of a path, which may start with a slash. -/
def pathSegments (cs : List Char) : List (List Char) :=
  let cs := cs.map fun c => if c = '\\' then '/' else c
  let cs := match cs with | '/' :: rest => rest | cs => cs
  resolve [] ((Text.split '/' cs).map (encode inPath))

/-- Cuts off what follows the first occurrence of a character. -/
def cutAt (sep : Char) (cs : List Char) : List Char × Option (List Char) :=
  let front := cs.takeWhile (· != sep)
  match cs.drop front.length with
  | [] => (front, none)
  | _ :: rest => (front, some rest)

/-- Reads a web address. -/
def ofChars? (input : List Char) : Option WebUrl := do
  let (secure, rest) ← splitScheme? (clean input)
  let rest := rest.dropWhile isSlash
  let authority := rest.takeWhile (!endsAuthority ·)
  let rest := rest.drop authority.length
  let (info, hostPort) := splitUser authority
  let (hostChars, portChars) := splitPort false hostPort
  if hostChars.isEmpty then none
  else
    let host ← host? hostChars
    let port ← port? secure (portChars.getD [])
    let (user, password) := userParts (info.getD [])
    let (rest, fragment) := cutAt '#' rest
    let (path, query) := cutAt '?' rest
    return {
      secure, user, password, host, port
      path := pathSegments path
      query := query.map (encode inQuery)
      fragment := fragment.map (encode inFragment) }

/-- Reads a web address from a text. -/
def parse? (s : String) : Option WebUrl := ofChars? s.toList

end WebUrl
end Formulary
