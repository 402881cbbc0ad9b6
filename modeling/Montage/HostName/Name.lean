/-
  Montage.HostName.Name

  Host names in ASCII and back.  A label with other characters is encoded, and a prefix
  says so.
-/
import Montage.HostName.Label
import Montage.HostName.Punycode

namespace Montage.HostName

open Montage.Text

/-- The prefix of an encoded label. -/
def encodedPrefix : List Char := ['x', 'n', '-', '-']

/-- The most characters of a label. -/
def maxLabel : Nat := 63

/-- The most characters of a name, where a dot at the end counts apart. -/
def maxName : Nat := 253

/-- The dots between labels. -/
def isDot (c : Char) : Bool :=
  ['.', '\u3002', '\uff0e', '\uff61'].contains c

def isAscii (c : Char) : Bool :=
  c.toNat < 128

/-- The labels of a name, and whether a dot follows the last one. -/
def labels (name : List Char) : Except Fault (List (List Char) × Bool) :=
  if maxName + 1 < name.length then .error .nameTooLong
  else
    let parts := name.splitOnP isDot
    if parts = [[]] then .error .emptyName
    else if parts.getLast? = some [] then .ok (parts.dropLast, true)
    else .ok (parts, false)

/-- Labels with dots between them. -/
def joined (labels : List (List Char)) (hasDot : Bool) : List Char :=
  List.intercalate ['.'] (if hasDot then labels ++ [[]] else labels)

def checkLabel (label : List Char) : Except Fault (List Char) :=
  match labelFault? label with
  | some fault => .error fault
  | none => .ok label

/-- The text of a label in ASCII, decoded if it has the prefix. -/
def decodeLabel (label : List Char) : Except Fault (List Char) :=
  let lower := label.map Char.toLower
  if encodedPrefix.isPrefixOf lower then
    let code := lower.drop encodedPrefix.length
    if code.isEmpty then .error .emptyCode
    else if code.getLast? = some '-' then .error .codeHyphen
    else
      match Punycode.decode code with
      | some text => checkLabel text
      | none => .error .badCode
  else checkLabel lower

/-- A label in ASCII. -/
def encodeLabel (label : List Char) : Except Fault (List Char) := do
  let encoded ←
    if label.all isAscii then do
      let _ ← decodeLabel label
      pure label
    else do
      let label ← checkLabel label
      pure (encodedPrefix ++ Punycode.encode label)
  if maxLabel < encoded.length then throw .labelTooLong
  return encoded

/-- A name in ASCII. -/
def encode (name : List Char) : Except Fault (List Char) := do
  let (labels, hasDot) ← labels name
  let encoded := joined (← labels.mapM encodeLabel) hasDot
  if maxName + hasDot.toNat < encoded.length then throw .nameTooLong
  return encoded

/-- The text of a name in ASCII. -/
def decode (name : List Char) : Except Fault (List Char) := do
  let (labels, hasDot) ← labels name
  return joined (← labels.mapM decodeLabel) hasDot

end Montage.HostName
