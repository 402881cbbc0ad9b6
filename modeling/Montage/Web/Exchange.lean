/-
  Montage.Web.Exchange

  Servers that answer from a table, and what a request to them comes to: the urls that
  are requested one after the other, when, and the final answer.
-/
import Montage.Asset.Fetch
import Montage.Number.Binary64
import Montage.Web.ContentEncoding
import Montage.Web.Reference

namespace Montage.Web

open Montage.Asset Montage.Number Montage.Text

/-- What a server answers to a request. -/
structure Answer where
  status : Int := 200
  headers : List (String × String) := []
  body : List UInt8 := []
  /-- How long the answer takes. -/
  delay : Binary64 := .zero
  /-- The exchange breaks off with this message. -/
  broken : Option String := none

/-- Answers by url. -/
abbrev Table := List (String × Answer)

/-- The answer to a url; an unknown one is not found. -/
def Table.answer (table : Table) (url : String) : Answer :=
  (List.lookup url table).getD { status := 404 }

namespace Answer

/-- The value of a header, whose name is compared in lower case.  Several values are one
    list. -/
def header? (name : String) (answer : Answer) : Option String :=
  let lowered (text : String) : String := String.ofList (text.toList.map Char.toLower)
  match (answer.headers.filter fun (key, _) => lowered key = name).map Prod.snd with
  | [] => none
  | values => some (", ".intercalate values)

/-- Why the headers of an answer cannot be sent. -/
def headerFault? (answer : Answer) : Option Fault :=
  answer.headers.findSome? fun (name, value) =>
    ((asciiRefusal? name.toList).or (asciiRefusal? value.toList)).map .unencodable

end Answer

/-- A request and when it is made, counted from the start of the exchange. -/
structure Request where
  url : String
  time : Binary64

/-- An exchange with a server. -/
structure Exchange where
  requests : List Request
  finish : Binary64
  download : Download

/-- The most redirects that are followed. -/
def maxRedirects : Nat := 20

def redirectStatuses : List Int := [301, 302, 303, 307, 308]

/-- The location that an answer sends a request to, if it does. -/
def location? (answer : Answer) : Option String :=
  if redirectStatuses.contains answer.status then answer.header? "location" else none

/-- Whether a text has something before a colon that could be a scheme. -/
def hasScheme (text : String) : Bool :=
  let (head, rest) := Url.upTo (fun c => c == '/' || c == ':') text.toList
  !head.isEmpty && rest.head? == some ':'

/-- The url of the request that follows a redirect, or what the exchange comes to. -/
def nextUrl (url : Url) (location : String) : Except Download Url :=
  match Url.read location with
  | .error (.badUrl message) => .error (.broken ("Invalid URL in location header: " ++ message ++ "."))
  | .error fault => .error (.refused fault)
  | .ok location =>
    match if location.scheme = "" then none else location.requestFault?, url.redirected location with
    | some fault, _ => .error (.refused fault)
    | none, .error fault => .error (.refused fault)
    | none, .ok target =>
      match target.requestFault? with
      | some fault => .error (.refused fault)
      | none => .ok target

/-- What a single answer comes to, redirects aside. -/
def received (url : Url) (answer : Answer) : Except Download Download :=
  match answer.broken, answer.headerFault? with
  | some message, _ => .error (.broken message)
  | none, some fault => .error (.refused fault)
  | none, none =>
    match unpackBody (answer.header? "content-encoding") answer.body with
    | .error damage => .error (.broken damage.message)
    | .ok body =>
      if hasScheme url.text then
        .ok (.response answer.status (answer.header? "content-type") body)
      else .error (.refused (.malformed ("unknown url type: " ++ literal url.text)))

/-- The rest of an exchange from a request on; the fuel counts the redirects that may
    still be followed. -/
def exchangeFrom (table : Table) (follows : Bool) : Nat → Url → Binary64 → Exchange
  | fuel, url, time =>
    let answer := table.answer url.text
    let finish := time.add answer.delay
    let here : Request := ⟨url.text, time⟩
    match received url answer, (location? answer).map (nextUrl url) with
    | .error download, _ => ⟨[here], finish, download⟩
    | .ok download, none => ⟨[here], finish, download⟩
    | .ok _, some (.error download) => ⟨[here], finish, download⟩
    | .ok download, some (.ok target) =>
      if !follows then ⟨[here], finish, download⟩
      else
        match fuel with
        | 0 => ⟨[here], finish, .broken "Exceeded maximum allowed redirects."⟩
        | fuel + 1 =>
          let rest := exchangeFrom table follows fuel target finish
          { rest with requests := here :: rest.requests }

/-- The exchange that fetches a url. -/
def exchange (table : Table) (follows : Bool) (url : String) : Exchange :=
  let opened : Except Fault Url := do
    let url ← Url.under {} (← Url.read url)
    match url.requestFault? with
    | some fault => throw fault
    | none => return url
  match opened with
  | .error fault => ⟨[], .zero, .refused fault⟩
  | .ok url => exchangeFrom table follows maxRedirects url .zero

end Montage.Web
