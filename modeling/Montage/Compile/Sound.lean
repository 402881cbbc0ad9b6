/-
  Montage.Compile.Sound

  The sound: every audible clip is trimmed and delayed on its own, and several are
  mixed.
-/
import Montage.Compile.Picture

namespace Montage.Compile

open Montage.Filter (Graph)
open Montage.Number Montage.Timeline

/-- The sound stream of an input. -/
def soundPad (input : Nat) : String :=
  input.repr ++ ":a"

/-- Whether a clip is heard.  Muting has no effect on sound files and on audio tracks. -/
def Clip.isAudible (clip : Clip) : Bool :=
  match clip.asset.kind with
  | .image => false
  | .audio => true
  | .video => clip.trackKind = .audio || !clip.element.muted

/-- The delay of a stream in whole milliseconds. -/
def delayMilliseconds (slot : Slot) : Except ArithmeticError Int :=
  (slot.startTime.mul (.ofNat 1000)).toNearestInt

/-- The chain of an audible clip. -/
def soundChain (element : MediaElement) (delay : Int) : List Filter :=
  [{ name := "atrim", options := trimWindow element.toSlot },
   { name := "asetpts", args := [.str "PTS-STARTPTS"] },
   { name := "volume", args := [.num (.real element.volume)] },
   { name := "adelay", args := [.str (toString delay ++ "|" ++ toString delay)] }]

/-- The chains of audible clips; gives their labels. -/
def addSounds : List Clip → Graph → Except ArithmeticError (List String × Graph)
  | [], graph => .ok ([], graph)
  | clip :: rest, graph => do
    let delay ← delayMilliseconds clip.element.toSlot
    let (label, graph) := graph.addFresh [soundPad clip.input] (soundChain clip.element delay) "a"
    let (labels, graph) ← addSounds rest graph
    return (label :: labels, graph)

def mixFilter (count : Nat) : Filter :=
  { name := "amix"
    options := [("inputs", .nat count), ("normalize", .int 1), ("dropout_transition", .int 2)] }

/-- The sounds as one stream, if there are any. -/
def mixSounds (labels : List String) (graph : Graph) : Option String × Graph :=
  match labels with
  | [] => (none, graph)
  | [only] => (some only, graph)
  | several =>
    let (mix, graph) := graph.addFresh several [mixFilter several.length] "a"
    (some mix, graph)

/-- The label of the finished sound, if there is any. -/
def sound (clips : List Clip) (graph : Graph) :
    Except ArithmeticError (Option String × Graph) := do
  let (labels, graph) ← addSounds (clips.filter Clip.isAudible) graph
  return mixSounds labels graph

end Montage.Compile
