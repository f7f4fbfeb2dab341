import Telemetry.Text.Blank
import Telemetry.Web.Header

/-! # Request identities

A request keeps the identity it was sent with if that is one to sixty-four letters, digits,
points, underscores and hyphens; any other request gets a fresh one.
-/
namespace Telemetry.Request

def isIdentityChar (c : Char) : Bool := c.isAlphanum || c == '.' || c == '_' || c == '-'

def isIdentity (cs : List Char) : Bool :=
  !cs.isEmpty && cs.length ≤ 64 && cs.all isIdentityChar

/-- The hexadecimal text of octets. -/
def freshIdentity (octets : List Nat) : String :=
  String.ofList (octets.flatMap fun n => [Nat.digitChar (n / 16), Nat.digitChar (n % 16)])

/-- The identity for the first value of the header. -/
def identity (fresh : String) (header : Option String) : String :=
  match header with
  | none => fresh
  | some value => if isIdentity (Text.trimChars value.toList) then Text.trim value else fresh

end Telemetry.Request
