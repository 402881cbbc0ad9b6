/-
  Montage.Asset.Locator

  What a locator says before anything is fetched: its scheme, and the path from which
  a file name extension may be taken.
-/
import Montage.Fault
import Montage.Web.Address

namespace Montage.Asset

/-- The characters of a scheme after its first letter. -/
def isSchemeChar (c : Char) : Bool :=
  c.toNat < 128 && (c.isAlphanum || c = '+' || c = '-' || c = '.')

/-- Control characters and the space, which may stand before a locator. -/
def isLeadingBlank (c : Char) : Bool :=
  c.toNat ≤ 0x20

/-- Characters that are taken out of a locator wherever they stand. -/
def isRemoved (c : Char) : Bool :=
  c = '\t' || c = '\r' || c = '\n'

/-- A locator without leading blanks and line breaks. -/
def cleaned (locator : String) : List Char :=
  (locator.toList.dropWhile isLeadingBlank).filter fun c => !isRemoved c

/-- The scheme at the start of a text in lower case, and what follows its colon; an
    empty scheme where there is none. -/
def splitScheme (text : List Char) : String × List Char :=
  let head := text.takeWhile (· != ':')
  match head, text.drop head.length with
  | first :: rest, _ :: after =>
    if first.toNat < 128 && first.isAlpha && rest.all isSchemeChar then
      (String.ofList (head.map Char.toLower), after)
    else ("", text)
  | _, _ => ("", text)

/-- The parts of a locator that matter here. -/
structure Locator where
  scheme : String
  path : String
  deriving DecidableEq, Repr

/-- The schemes whose paths may end in parameters. -/
def parameterSchemes : List String :=
  ["", "ftp", "hdl", "prospero", "http", "https", "shttp", "rtsp", "rtspu", "sip", "sips",
   "mms", "sftp", "tel"]

/-- A path without the parameters of its last part. -/
def dropParameters (path : List Char) : List Char :=
  let last := (path.reverse.takeWhile (· != '/')).reverse
  path.take (path.length - last.length) ++ last.takeWhile (· != ';')

/-- Whether an authority has only one of the two brackets. -/
def hasLoneBracket (authority : List Char) : Bool :=
  authority.contains '[' != authority.contains ']'

/-- What is wrong with an address that stands between brackets. -/
def addressFault? (address : List Char) : Option Fault :=
  if address.head? = some 'v' then
    if Web.Address.isFuture address then none else some (.malformed "IPvFuture address is invalid")
  else if Web.Address.isVersion4 address then
    some (.malformed "An IPv4 address cannot be in brackets")
  else if Web.Address.isVersion6 address then none
  else
    some (.malformed (Text.literal (String.ofList address) ++
      " does not appear to be an IPv4 or IPv6 address"))

/-- What is wrong with an authority that has brackets.  In its host nothing may stand
    before them, and only a port behind them; brackets elsewhere make the whole host
    count as an address. -/
def bracketFault? (authority : List Char) : Option Fault :=
  let host := (authority.reverse.takeWhile (· != '@')).reverse
  if host.contains '[' then
    let inside := (host.dropWhile (· != '[')).drop 1
    let address := inside.takeWhile (· != ']')
    let behind := inside.drop (address.length + 1)
    if host.head? ≠ some '[' ∨ (behind.head?.getD ':') ≠ ':' then
      some (.malformed "Invalid IPv6 URL")
    else addressFault? address
  else addressFault? (host.takeWhile (· != ':'))

/-- Characters that are equivalent to texts with a slash, a question mark, a number
    sign, an at sign or a colon. -/
def hiddenSeparators : List Nat :=
  [0x2047, 0x2048, 0x2049, 0x2100, 0x2101, 0x2105, 0x2106, 0x2a74, 0xfe13, 0xfe16, 0xfe55,
   0xfe56, 0xfe5f, 0xfe6b, 0xff03, 0xff0f, 0xff1a, 0xff1f, 0xff20]

/-- What is wrong with an authority. -/
def authorityFault? (authority : List Char) : Option Fault :=
  if hasLoneBracket authority then some (.malformed "Invalid IPv6 URL")
  else
    let inBrackets := if authority.contains '[' then bracketFault? authority else none
    inBrackets.or <|
      if authority.any fun c => hiddenSeparators.contains c.toNat then
        some (.malformed ("netloc '" ++ String.ofList authority ++
          "' contains invalid characters under NFKC normalization"))
      else none

/-- Reads a locator. -/
def readLocator (text : String) : Except Fault Locator :=
  let (scheme, rest) := splitScheme (cleaned text)
  let (authority, rest) :=
    match rest with
    | '/' :: '/' :: after =>
      let authority := after.takeWhile fun c => c != '/' && c != '?' && c != '#'
      (authority, after.drop authority.length)
    | _ => ([], rest)
  match authorityFault? authority with
  | some fault => .error fault
  | none =>
    let path := rest.takeWhile fun c => c != '#' && c != '?'
    let path := if parameterSchemes.contains scheme then dropParameters path else path
    .ok ⟨scheme, String.ofList path⟩

end Montage.Asset
