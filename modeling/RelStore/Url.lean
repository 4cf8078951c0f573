/-
URLs, as far as connections need them: scheme, host, path and query.

Schemes of the web have hosts that are names or addresses and must be there; in all other schemes
a host is any text without the characters that URLs use, and it may be empty. A text that has no
scheme, or whose host or service number is malformed, is no URL. Path and query keep their escapes.
-/
import RelStore.Text.Case
import RelStore.Url.Domain
import RelStore.Url.Percent

namespace RelStore

structure Url where
  scheme : String
  host : String
  path : String
  query : String
  deriving DecidableEq, Repr

namespace Url

/-- The schemes of the web. -/
def webSchemes : List String := ["ftp", "http", "https", "ws", "wss"]

/-- The scheme of local files, which may have a host. -/
def fileScheme : String := "file"

def isSpecial (scheme : String) : Bool := scheme == fileScheme || webSchemes.contains scheme

/-! ## Scheme -/

def isLetter (c : Char) : Bool := ('a' ≤ c && c ≤ 'z') || ('A' ≤ c && c ≤ 'Z')

def isSchemeChar (c : Char) : Bool := isLetter c || c.isDigit || c == '+' || c == '-' || c == '.'

/-- The scheme in lower case, and what follows its colon. -/
def splitScheme? (text : List Char) : Option (String × List Char) :=
  match text, text.dropWhile isSchemeChar with
  | first :: _, ':' :: rest =>
    if isLetter first then
      some (Text.lower (String.ofList (text.takeWhile isSchemeChar)), rest)
    else none
  | _, _ => none

/-! ## Hosts -/

/-- Characters that no host has. -/
def forbiddenInHost : List Char :=
  ['\x00', '\t', '\n', '\r', ' ', '#', '/', ':', '<', '>', '?', '@', '[', '\\', ']', '^', '|']

/-- The canonical text of an address in brackets. -/
def bracketed? (text : List Char) : Option String :=
  if text.getLast? == some ']' then
    (address? text.tail.dropLast).map fun pieces => "[" ++ addressText pieces ++ "]"
  else none

/-- A host that is any text. -/
def opaqueHost? (text : List Char) : Option String :=
  if text.head? == some '[' then bracketed? text
  else if text.any forbiddenInHost.contains then none
  else some (String.ofList (escapeUnprintable text))

def isForbiddenInDomain (c : Char) : Bool :=
  forbiddenInHost.contains c || c == '%' || c.toNat < 32 || c.toNat == 127

/-- A host that is a name or an address. -/
def domain? (text : List Char) : Option String :=
  if text.head? == some '[' then bracketed? text
  else do
    let name ← asciiName? (Text.ofBytes (unescape text)).toList
    if name.isEmpty || name.any isForbiddenInDomain then none
    else if endsInNumber name && !isLooseAddress name then none
    else some (String.ofList name)

/-- Host and service number, divided at the first colon outside brackets. -/
def splitService (inside : Bool) : List Char → List Char × Option (List Char)
  | [] => ([], none)
  | c :: rest =>
    if c == ':' && !inside then ([], some rest)
    else
      let still := if c == '[' then true else if c == ']' then false else inside
      let (host, service) := splitService still rest
      (c :: host, service)

/-- The greatest number of a service at a host. -/
def maxService : Nat := 65535

def isService (text : List Char) : Bool := text.all Char.isDigit && digitsValue text ≤ maxService

/-- What follows the last `@`, if there is one. -/
def afterUser? (text : List Char) : Option (List Char) :=
  if text.contains '@' then some (text.reverse.takeWhile (· != '@')).reverse else none

/-- The host of the part after two slashes: behind a user, before a service number. -/
def hostOf? (parseHost? : List Char → Option String) (mayBeEmpty : Bool) (authority : List Char) :
    Option String :=
  match afterUser? authority with
  | some [] => none
  | user? =>
    match splitService false (user?.getD authority) with
    | (host, some service) =>
      if !host.isEmpty && isService service then parseHost? host else none
    | (host, none) =>
      if !host.isEmpty then parseHost? host else if mayBeEmpty then some "" else none

/-! ## Paths -/

/-- A segment with its escaped dots as dots. -/
def dotsOf (segment : List Char) : List Char :=
  match segment with
  | '.' :: rest => '.' :: dotsOf rest
  | '%' :: '2' :: 'e' :: rest => '.' :: dotsOf rest
  | '%' :: '2' :: 'E' :: rest => '.' :: dotsOf rest
  | other => other

/-- Adds a segment to a path: one dot stays, two go back, and at the end they leave a slash. -/
def addSegments (path : List (List Char)) : List (List Char) → List (List Char)
  | [] => path
  | segment :: rest =>
    let ending : List (List Char) := if rest.isEmpty then [[]] else []
    if dotsOf segment == ['.', '.'] then addSegments (path.dropLast ++ ending) rest
    else if dotsOf segment == ['.'] then addSegments (path ++ ending) rest
    else addSegments (path ++ [segment]) rest

/-- The printable characters that paths have escapes for or begin them with. -/
def notPlainInPath : List Char := ['"', '%', '<', '>', '\\', '\x60', '\x7b', '\x7d']

/-- Whether a character of a path is no part of an escape and needs none. -/
def isPlainInPath (c : Char) : Bool := 32 < c.toNat && c.toNat < 127 && !notPlainInPath.contains c

/-- Whether segments stay as they are, dots or not: all characters are plain, and the first segment
that begins with a dot is not the first of all and goes on with another character. -/
def staysAsWritten (segments : List (List Char)) : Bool :=
  segments.all (·.all isPlainInPath) &&
    match segments.findIdx? (·.head? == some '.') with
    | some (place + 1) => ((segments.getD (place + 1) []).drop 1).head?.any (· != '.')
    | some 0 => false
    | none => true

/-- The path of a text that begins with a slash or is empty. -/
def pathOf : List Char → String
  | [] => ""
  | _ :: rest =>
    let segments := splitChars '/' rest
    let kept := if staysAsWritten segments then segments else addSegments [] segments
    "/" ++ String.intercalate "/" (kept.map String.ofList)

/-! ## Reading -/

def isSlash (c : Char) : Bool := c == '/' || c == '\\'

/-- A URL with a host that is any text. -/
def ofGeneral? (scheme query : String) (text : List Char) : Option Url :=
  match text with
  | '/' :: '/' :: rest => do
    let host ← hostOf? opaqueHost? true (rest.takeWhile (· != '/'))
    some { scheme, host, path := pathOf (rest.dropWhile (· != '/')), query }
  | '/' :: _ => some { scheme, host := "", path := pathOf text, query }
  | _ => some { scheme, host := "", path := String.ofList text, query }

/-- A URL of the web; any number of slashes leads to its host. -/
def ofWeb? (scheme query : String) (text : List Char) : Option Url := do
  let rest := text.dropWhile isSlash
  let host ← hostOf? domain? false (rest.takeWhile (!isSlash ·))
  some { scheme, host, path := String.ofList (rest.dropWhile (!isSlash ·)), query }

/-- Whether a host is the letter of a drive and belongs to the path. -/
def isDrive : List Char → Bool
  | [letter, mark] => isLetter letter && (mark == ':' || mark == '|')
  | _ => false

/-- A URL of a file. -/
def ofFile? (query : String) (text : List Char) : Option Url :=
  match text with
  | a :: b :: rest =>
    let name := rest.takeWhile (!isSlash ·)
    if isSlash a && isSlash b && !name.isEmpty && !isDrive name then do
      let host ← domain? name
      some { scheme := fileScheme, host, path := String.ofList (rest.dropWhile (!isSlash ·)), query }
    else some { scheme := fileScheme, host := "", path := String.ofList text, query }
  | _ => some { scheme := fileScheme, host := "", path := String.ofList text, query }

/-- The text without the control characters and blanks around it and without line breaks and
tabs. -/
def cleaned (text : String) : List Char :=
  let isOuter (c : Char) : Bool := c.toNat ≤ 32
  let inner := (((Text.leave text).toList.dropWhile isOuter).reverse.dropWhile isOuter).reverse
  inner.filter fun c => !(c == '\t' || c == '\n' || c == '\r')

def parse? (text : String) : Option Url := do
  let (scheme, rest) ← splitScheme? (cleaned text)
  let main := rest.takeWhile (· != '#')
  let query := String.ofList ((main.dropWhile (· != '?')).drop 1)
  let front := main.takeWhile (· != '?')
  if scheme == fileScheme then ofFile? query front
  else if isSpecial scheme then ofWeb? scheme query front
  else ofGeneral? scheme query front

/-! ## Queries -/

/-- The fields of a query, in order. -/
def fields (url : Url) : List (String × String) :=
  let parts := (splitChars '&' url.query.toList).filter (!·.isEmpty)
  parts.map fun part =>
    (decodeFormText (part.takeWhile (· != '=')), decodeFormText ((part.dropWhile (· != '=')).drop 1))

/-- The first field of a name. -/
def field? (url : Url) (name : String) : Option String := url.fields.lookup name

end Url

end RelStore
