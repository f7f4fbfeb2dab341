import Telemetry.Text.Composition
import Telemetry.Text.Direction
import Telemetry.Text.Joining
import Telemetry.Text.Punycode
import Telemetry.Web.Domain.Character

/-! # Labels of domains

A label of ASCII alone may be anything. A label with other characters must not begin with a mark,
its first joiner has to be in its place, and without a joiner the directions of its characters
have to fit. A label may be written in letters and digits behind a prefix, and what it stands for
has to be spelled and composed already.
-/
namespace Telemetry.Web.Domain

open Telemetry.Text (Direction)

def isAscii (cs : List Char) : Bool := cs.all fun c => c.toNat < 0x80

/-- Whether characters fit that run as the first one does, from left to right. The last one may
run the other way. -/
def leftFits (ds : List Direction) : Bool :=
  ds.dropLast.all fun d => d != .right && d != .arabicDigit && d != .unknown

/-- Whether nothing runs from left to right, digits are of one kind and the end is a letter or a
digit. -/
def rightFits (ds : List Direction) : Bool :=
  ds.all (fun d => d != .left && d != .unknown) &&
    !(ds.contains .digit && ds.contains .arabicDigit) && ds.getLast? != some .neutral

/-- Whether the directions of a label fit. Marks at the end do not count, and neither does
anything where all characters run from left to right. -/
def directionsFit (cs : List Char) : Bool :=
  let ds := ((cs.map Text.direction).reverse.dropWhile (· == .mark)).reverse
  if ds.contains .right || ds.contains .arabicDigit then
    if ds.head? = some .left then leftFits ds else rightFits ds
  else true

/-- Whether characters may be a label that is not written in ASCII. -/
def isWord (cs : List Char) : Bool :=
  !cs.isEmpty && !cs.head?.any Text.isMark && (Text.joinerFits? cs).getD (directionsFit cs)

/-- The prefix of a label in letters and digits. -/
def encodedPrefix : List Char := "xn--".toList

/-- Whether a text behind the prefix stands for a label. -/
def isEncodedWord (cs : List Char) : Bool :=
  isAscii cs && match Text.Punycode.decode? cs with
    | none => false
    | some word => spell? word == some word && Text.composed word == word && isWord word

/-- Whether a text without points and capital letters may be a label. -/
def isLabel (cs : List Char) : Bool :=
  if encodedPrefix.isPrefixOf cs then isEncodedWord (cs.drop encodedPrefix.length)
  else isAscii cs || isWord cs

end Telemetry.Web.Domain
