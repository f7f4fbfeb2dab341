import Telemetry.Datum

/-! # Writing JSON

Members keep their order, absent members are left out and absent items are `null`. A number that
is not finite is `null`. Text escapes the quote, the backslash and the control characters.
-/
namespace Telemetry.Json

/-- Lower case hexadecimal digits of a control character. -/
def controlEscape (n : Nat) : List Char :=
  ['\\', 'u', '0', '0', Nat.digitChar (n / 16), Nat.digitChar (n % 16)]

def escapeChar (c : Char) : List Char :=
  if c = '"' then ['\\', '"']
  else if c = '\\' then ['\\', '\\']
  else if c = '\n' then ['\\', 'n']
  else if c = '\r' then ['\\', 'r']
  else if c = '\t' then ['\\', 't']
  else if c.toNat = 8 then ['\\', 'b']
  else if c.toNat = 12 then ['\\', 'f']
  else if c.toNat < 32 then controlEscape c.toNat
  else [c]

def quote (s : String) : List Char := '"' :: (s.toList.flatMap escapeChar ++ ['"'])

/-- A line break and its indentation; nothing in the compact form. -/
def lineBreak : Option Nat → List Char
  | none => []
  | some depth => '\n' :: List.replicate (2 * depth) ' '

/-- Parts between brackets, one to a line in the indented form. -/
def enclose (left right : Char) (depth : Option Nat) (parts : List (List Char)) : List Char :=
  if parts.isEmpty then [left, right]
  else
    let inner := lineBreak (depth.map (· + 1))
    left :: (inner ++ List.intercalate (',' :: inner) parts ++ lineBreak depth ++ [right])

def numberChars (x : Number) : List Char :=
  if x.isFinite then x.toChars else "null".toList

mutual

/-- The text of a value at a depth of indentation, or in compact form. -/
def writeChars (depth : Option Nat) : Datum → List Char
  | .absent => "null".toList
  | .null => "null".toList
  | .flag b => if b then "true".toList else "false".toList
  | .number x => numberChars x
  | .text s => quote s
  | .list items => enclose '[' ']' depth (writeItems (depth.map (· + 1)) items)
  | .record members => enclose '\x7b' '\x7d' depth (writeMembers (depth.map (· + 1)) members)

def writeItems (depth : Option Nat) : List Datum → List (List Char)
  | [] => []
  | item :: rest => writeChars depth item :: writeItems depth rest

def writeMembers (depth : Option Nat) : List (String × Datum) → List (List Char)
  | [] => []
  | (_, .absent) :: rest => writeMembers depth rest
  | (name, value) :: rest =>
    (quote name ++ ':' :: (if depth.isSome then [' '] else []) ++ writeChars depth value) ::
      writeMembers depth rest

end

/-- The compact text of a value. -/
def write (d : Datum) : String := String.ofList (writeChars none d)

/-- The text of a value, two spaces of indentation to a level. -/
def writePretty (d : Datum) : String := String.ofList (writeChars (some 0) d)

end Telemetry.Json
