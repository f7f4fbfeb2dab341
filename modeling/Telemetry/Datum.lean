import Telemetry.Number.Decimal

/-! # Untyped values

Settings trees, handler data and payloads arrive without a type. `absent` stands for a missing
value, which is not the same as `null`.
-/
namespace Telemetry

inductive Datum where
  | absent
  | null
  | flag (b : Bool)
  | number (x : Number)
  | text (s : String)
  | list (items : List Datum)
  | record (members : List (String × Datum))
  deriving Inhabited

namespace Datum

/-- The member of a record, `absent` where there is none. -/
def get (d : Datum) (name : String) : Datum :=
  match d with
  | record members => (members.lookup name).getD absent
  | _ => absent

def isAbsent : Datum → Bool
  | absent => true
  | _ => false

/-- Whether an untyped value counts as true. -/
def isTrue : Datum → Bool
  | absent => false
  | null => false
  | flag b => b
  | number x => !(x.isNaN || x.isZero)
  | text s => !s.isEmpty
  | list _ => true
  | record _ => true

def text? : Datum → Option String
  | text s => some s
  | _ => none

def number? : Datum → Option Number
  | number x => some x
  | _ => none

mutual

/-- The plain text of a value: lists are joined with commas and records have no text of their
own. -/
def plain : Datum → String
  | absent => "undefined"
  | null => "null"
  | flag b => if b then "true" else "false"
  | number x => x.toText
  | text s => s
  | list items => String.intercalate "," (plainItems items)
  | record _ => "[object Object]"

/-- Inside a list `absent` and `null` have the empty text. -/
def plainItems : List Datum → List String
  | [] => []
  | absent :: rest => "" :: plainItems rest
  | null :: rest => "" :: plainItems rest
  | item :: rest => plain item :: plainItems rest

end

mutual

/-- Whether a value has a plain text. A record with a member `toString` has none, since that member
is no function, and a list has one only if all its items have. -/
def hasPlain : Datum → Bool
  | list items => allHavePlain items
  | record members => !members.any fun m => m.1 == "toString"
  | _ => true

def allHavePlain : List Datum → Bool
  | [] => true
  | item :: rest => hasPlain item && allHavePlain rest

end

def ofNat (n : Nat) : Datum := number (Number.ofNat n)

end Datum

end Telemetry
