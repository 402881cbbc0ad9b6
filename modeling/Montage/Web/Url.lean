/-
  Montage.Web.Url

  Urls in the form in which they are requested: scheme and host in lower case and in
  ASCII, no default port, no dots in the path, and harmful characters escaped.
-/
import Montage.Fault
import Montage.HostName.Name
import Montage.Number.Numeral
import Montage.Text.Blank
import Montage.Text.Digit
import Montage.Text.FinalSigma
import Montage.Text.Percent
import Montage.Web.Address

namespace Montage.Web

open Montage.Number Montage.Text

structure Url where
  scheme : String := ""
  /-- What stands before the at sign of the authority. -/
  user : String := ""
  /-- The host; an address with colons has no brackets here. -/
  host : String := ""
  port : Option Int := none
  path : String := ""
  query : Option String := none
  fragment : Option String := none
  deriving DecidableEq, Repr

namespace Url

/-! ## Texts -/

/-- The host as it stands in a url, and the port. -/
def hostPort (url : Url) : String :=
  (if url.host.toList.contains ':' then "[" ++ url.host ++ "]" else url.host) ++
    ((url.port.map fun port => ":" ++ toString port).getD "")

/-- User, host and port. -/
def authority (url : Url) : String :=
  (if url.user = "" then "" else url.user ++ "@") ++ url.hostPort

/-- The path with the query. -/
def target (url : Url) : String :=
  (if url.path = "" then "/" else url.path) ++ ((url.query.map ("?" ++ ·)).getD "")

def text (url : Url) : String :=
  (if url.scheme = "" then "" else url.scheme ++ ":") ++
    (if url.authority = "" then "" else "//" ++ url.authority) ++ url.path ++
    ((url.query.map ("?" ++ ·)).getD "") ++ ((url.fragment.map ("#" ++ ·)).getD "")

/-- Whether a url says by itself where to go. -/
def isAbsolute (url : Url) : Bool :=
  url.scheme ≠ "" && url.host ≠ ""

/-! ## Parts -/

/-- The parts of a url as they are written. -/
structure Parts where
  scheme : List Char := []
  authority : List Char := []
  path : List Char := []
  query : Option (List Char) := none
  fragment : Option (List Char) := none
  /-- The host that takes the place of the authority's own. -/
  host : Option (List Char) := none

/-- The text before the first character of a class, and the rest. -/
def upTo (stop : Char → Bool) (text : List Char) : List Char × List Char :=
  let head := text.takeWhile fun c => !stop c
  (head, text.drop head.length)

/-- A scheme starts with a letter; an empty one may stand before a colon too. -/
def isScheme : List Char → Bool
  | [] => true
  | first :: rest =>
    first.isAlpha && rest.all fun c => c.isAlphanum || c == '+' || c == '.' || c == '-'

/-- The scheme at the start of a url, and the rest. -/
def splitScheme (text : List Char) : List Char × List Char :=
  match upTo (· == ':') text with
  | (head, _ :: rest) => if isScheme head then (head, rest) else ([], text)
  | _ => ([], text)

def Parts.ofText (text : List Char) : Parts :=
  let (scheme, rest) := splitScheme text
  let (authority, rest) :=
    match rest with
    | '/' :: '/' :: after => upTo (fun c => c == '/' || c == '?' || c == '#') after
    | _ => ([], rest)
  let (path, rest) := upTo (fun c => c == '?' || c == '#') rest
  let (query, rest) :=
    match rest with
    | '?' :: after =>
      let (query, rest) := upTo (· == '#') after
      (some query, rest)
    | _ => (none, rest)
  { scheme, authority, path, query, fragment := rest.tail? }

/-- User, host and port of an authority. -/
def splitAuthority (text : List Char) : List Char × List Char × List Char :=
  let after := (text.reverse.takeWhile (· != '@')).reverse
  let user := (text.take (text.length - after.length)).dropLast
  let inBrackets := (after.reverse.dropWhile (· != ']')).reverse
  let host :=
    if after.head? = some '[' ∧ !inBrackets.isEmpty then inBrackets
    else after.takeWhile (· != ':')
  let rest := after.drop host.length
  (user, host, if rest.head? = some ':' then rest.tail else rest)

/-! ## Escaping -/

/-- Visible ASCII without the given characters. -/
def visibleBut (excluded : List Char) (c : Char) : Bool :=
  0x20 < c.toNat && c.toNat < 0x7f && !excluded.contains c

def fragmentSafe : Char → Bool :=
  visibleBut ['"', '<', '>', '`']

def querySafe : Char → Bool :=
  visibleBut ['"', '#', '<', '>']

def pathSafe : Char → Bool :=
  visibleBut ['"', '#', '<', '>', '?', '`', '\x7b', '\x7d']

def userSafe (c : Char) : Bool :=
  pathSafe c && visibleBut ['/', ';', '=', '@', '[', '\\', ']', '^', '|'] c

def hostSafe : Char → Bool :=
  visibleBut ['#', '/', ':', '<', '>', '?', '@', '[', ']', '^']

/-- A text in which the characters outside a set are escaped byte by byte. -/
def escaped (safe : Char → Bool) (text : List Char) : Except Fault String :=
  match (text.find? Surrogate.isHalf).bind fun half => utf8Refusal? [half] with
  | some reason => .error (.unencodable reason)
  | none => .ok (String.ofList (text.flatMap fun c => if safe c then [c] else escapeChar c))

/-! ## Hosts and ports -/

/-- Whether a host is four numbers with anything between them. -/
def looksNumeric (host : List Char) : Bool :=
  numbersFrom 4 host
where
  /-- Whether a text is so many numbers, each but the last one with a character after it.
      That character may be a digit itself. -/
  numbersFrom : Nat → List Char → Bool
    | 0, _ => false
    | 1, text => !text.isEmpty && text.all Char.isDigit
    | count + 2, text =>
      let run := text.takeWhile Char.isDigit
      (List.range run.length).any fun place =>
        match text.drop (place + 1) with
        | [] => false
        | _ :: rest => numbersFrom (count + 1) rest

/-- A host in lower case and in ASCII. -/
def readHost (host : List Char) : Except Fault String :=
  let refuse (reason : String) : Except Fault String :=
    .error (.badUrl (reason ++ ": " ++ literal (String.ofList host)))
  if looksNumeric host then
    if Address.isVersion4 host then .ok (String.ofList host) else refuse "Invalid IPv4 address"
  else if host.head? = some '[' ∧ host.getLast? = some ']' then
    let address := host.tail.dropLast
    if Address.isVersion6 address then .ok (String.ofList address) else refuse "Invalid IPv6 address"
  else
    let lower := (lowerWords (String.ofList host)).toList
    if host.all HostName.isAscii then escaped hostSafe lower
    else
      match HostName.encode lower with
      | .ok name => .ok (String.ofList name)
      | .error _ => refuse "Invalid IDNA hostname"

/-- The port that a scheme has by default. -/
def defaultPort : String → Option Int
  | "ftp" => some 21
  | "http" => some 80
  | "https" => some 443
  | "ws" => some 80
  | "wss" => some 443
  | _ => none

/-- A port, unless it is empty or the one of the scheme. -/
def readPort (scheme : String) (port : List Char) : Except Fault (Option Int) :=
  if port.isEmpty then .ok none
  else
    match Numeral.integer? digitValue? (trimBy isWhiteSpace port) with
    | some number => .ok (if defaultPort scheme = some number then none else some number)
    | none => .error (.badUrl ("Invalid port: " ++ literal (String.ofList port)))

/-! ## Paths -/

/-- A path without single dots, where two dots take back the part before them. -/
def withoutDots (path : List Char) : List Char :=
  let parts := path.splitOnP (· == '/')
  let kept := parts.foldl (fun (done : List (List Char)) part =>
    if part = ['.'] then done
    else if part = ['.', '.'] then (if done = [[]] then done else done.dropLast)
    else done ++ [part]) []
  List.intercalate ['/'] kept

/-- What is wrong with a path behind the parts before it. -/
def pathFault? (hasScheme hasAuthority : Bool) (path : List Char) : Option Fault :=
  if hasAuthority then
    if path = [] ∨ path.head? = some '/' then none
    else some (.badUrl "For absolute URLs, path must be empty or begin with '/'")
  else if hasScheme then none
  else if ['/', '/'].isPrefixOf path then
    some (.badUrl "Relative URLs cannot have a path starting with '//'")
  else if path.head? = some ':' then
    some (.badUrl "Relative URLs cannot have a path starting with ':'")
  else none

/-! ## Reading -/

/-- The most characters of a url. -/
def maxLength : Nat := 65536

/-- The first character that no url may hold, with its position. -/
def badCharacter? (position : Nat) : List Char → Option (Char × Nat)
  | [] => none
  | c :: rest =>
    if c.toNat < 0x20 ∨ c.toNat = 0x7f then some (c, position)
    else badCharacter? (position + 1) rest

/-- The fault of a text with a character that no url may hold; `place` says where the text
    stands. -/
def characterFault? (place : String) (text : List Char) : Option Fault :=
  (badCharacter? 0 text).map fun (c, position) =>
    .badUrl ("Invalid non-printable ASCII character in URL" ++ place ++ ", " ++
      literal (String.singleton c) ++ " at position " ++ position.repr ++ ".")

/-- The url with these parts.  The default port is that of the scheme as it is
    written. -/
def ofParts (parts : Parts) : Except Fault Url := do
  let scheme := String.ofList (parts.scheme.map Char.toLower)
  let (user, host, port) := splitAuthority parts.authority
  let user ← escaped userSafe user
  let host ← readHost (parts.host.getD host)
  let port ← readPort (String.ofList parts.scheme) port
  let hasScheme := scheme != ""
  let hasAuthority := user != "" || host != "" || port.isSome
  if let some fault := pathFault? hasScheme hasAuthority parts.path then throw fault
  let path := if hasScheme || hasAuthority then withoutDots parts.path else parts.path
  let path ← escaped pathSafe path
  let query ← parts.query.mapM (escaped querySafe)
  let fragment ← parts.fragment.mapM (escaped fragmentSafe)
  return { scheme, user, host, port, path, query, fragment }

/-- Reads a url. -/
def read (text : String) : Except Fault Url := do
  let chars := text.toList
  if maxLength < chars.length then throw (.badUrl "URL too long")
  if let some fault := characterFault? "" chars then throw fault
  ofParts (.ofText chars)

/-! ## Changed urls -/

/-- The parts of a url. -/
def parts (url : Url) : Parts :=
  { scheme := url.scheme.toList, authority := url.authority.toList, path := url.path.toList
    query := url.query.map String.toList, fragment := url.fragment.map String.toList }

/-- The url with another host. -/
def withHost (host : String) (url : Url) : Except Fault Url :=
  let host := if host.toList.contains ':' then "[" ++ host ++ "]" else host
  ofParts { url.parts with host := some host.toList }

/-- The url with the fragment of another one, unless it has one itself. -/
def withFragmentOf (url other : Url) : Except Fault Url :=
  let given := unescapeText (other.fragment.getD "")
  if given = "" ∨ unescapeText (url.fragment.getD "") ≠ "" then .ok url
  else
    match characterFault? " fragment component" given.toList with
    | some fault => .error fault
    | none => ofParts { url.parts with fragment := some given.toList }

/-- The url that is requested where a base is given: an absolute url itself, and else its
    path and query at the base. -/
def under (base url : Url) : Except Fault Url :=
  if url.isAbsolute then .ok url
  else
    let path := (if url.path = "" then "/" else url.path).toList
    ofParts
      { scheme := base.scheme.toList
        authority := base.authority.toList
        path := '/' :: path.dropWhile (· == '/')
        query := url.query.map String.toList }

/-- Why a url cannot be requested: its host is encoded and has no text, or is no
    ASCII. -/
def requestFault? (url : Url) : Option Fault :=
  let host := url.host.toList
  match if HostName.encodedPrefix.isPrefixOf host then HostName.decode host else .ok host with
  | .error fault => some (.badHost fault)
  | .ok _ => (asciiRefusal? url.hostPort.toList).map .unencodable

end Url

end Montage.Web
