/-
  Montage.Web.Address

  Hosts that are numeric addresses: four decimal numbers with dots between them, or
  groups of hexadecimal digits with colons between them.
-/
import Montage.Text.Digit

namespace Montage.Web.Address

open Montage.Text

/-! ## Four numbers -/

/-- A number below 256 without leading zeros. -/
def isOctet (digits : List Char) : Bool :=
  digits ≠ [] && digits.length ≤ 3 && digits.all Char.isDigit &&
    (digits.length = 1 || digits.head? ≠ some '0') &&
    digits.foldl (fun n c => 10 * n + (c.toNat - 48)) 0 ≤ 255

def isVersion4 (text : List Char) : Bool :=
  let parts := text.splitOnP (· == '.')
  parts.length = 4 && parts.all isOctet

/-! ## Eight groups -/

/-- One to four hexadecimal digits. -/
def isGroup (digits : List Char) : Bool :=
  digits ≠ [] && digits.length ≤ 4 && digits.all fun c => (hexValue? c).isSome

/-- The parts between colons; four numbers at the end count as two groups. -/
def groups? (text : List Char) : Option (List (List Char)) :=
  let parts := text.splitOnP (· == ':')
  match parts.getLast? with
  | some last =>
    if parts.length < 3 then none
    else if last.contains '.' then
      if isVersion4 last then some (parts.dropLast ++ [['0'], ['0']]) else none
    else some parts
  | none => none

/-- The groups on one side of a gap: none, if there is only the empty part that a colon
    at the very end leaves. -/
def sideLength? (parts : List (List Char)) : Option Nat :=
  if parts = [[]] then some 0 else if parts.all isGroup then some parts.length else none

/-- Whether parts are eight groups, or fewer with one gap for the missing ones. -/
def areGroups (parts : List (List Char)) : Bool :=
  let inner := parts.tail.dropLast
  match inner.findIdx? (· = []) with
  | none => parts.length = 8 && parts.all isGroup
  | some place =>
    let before := parts.take (place + 1)
    let after := parts.drop (place + 2)
    match sideLength? before, sideLength? after with
    | some m, some n => m + n < 8
    | _, _ => false

/-- An address of eight groups, which may name a zone after a percent sign. -/
def isVersion6 (text : List Char) : Bool :=
  let address := text.takeWhile (· != '%')
  let zone := text.drop address.length
  (zone.isEmpty || (zone.length > 1 && !zone.tail.contains '%')) &&
    match groups? address with
    | some parts => parts.length ≤ 9 && areGroups parts
    | none => false

/-- An address of a version to come: the letter v, a hexadecimal number, a dot, and
    something after it. -/
def isFuture (text : List Char) : Bool :=
  match text with
  | 'v' :: rest =>
    let digits := rest.takeWhile fun c => (hexValue? c).isSome
    match rest.drop digits.length with
    | '.' :: _ :: _ => !digits.isEmpty
    | _ => false
  | _ => false

end Montage.Web.Address
