import Telemetry.Number.Numeral
import Telemetry.Package.Pattern.Basic
import Telemetry.Text.Percent

/-! # Reading patterns

Choices are parted by bars, and what stands side by side follows one another. A sign of repetition
stands behind what it repeats. A brace that opens no repetition, a closing brace or bracket and
most characters behind a backslash stand for themselves.
-/
namespace Telemetry.Package.Pattern

open Text (hexValue?)

/-- Why a text is no pattern. -/
inductive Fault where
  | openGroup
  | unopenedGroup
  | nothingToRepeat
  | repetitionOrder
  | groupKind
  | groupName
  | repeatedName
  | reference
  | unknownName
  | openClass
  | classOrder
  | loneBackslash
  deriving DecidableEq

def Fault.message : Fault → String
  | openGroup => "Unterminated group"
  | unopenedGroup => "Unmatched ')'"
  | nothingToRepeat => "Nothing to repeat"
  | repetitionOrder => "numbers out of order in \x7b\x7d quantifier"
  | groupKind => "Invalid group"
  | groupName => "Invalid capture group name"
  | repeatedName => "Duplicate capture group name"
  | reference => "Invalid named reference"
  | unknownName => "Invalid named capture referenced"
  | openClass => "Unterminated character class"
  | classOrder => "Range out of order in character class"
  | loneBackslash => "\\ at end of pattern"

/-- The names of the groups in the order of their opening, empty for those without one. -/
def groupNames (inClass : Bool) : List Char → List (List Char)
  | [] => []
  | '\\' :: _ :: rest => groupNames inClass rest
  | '(' :: '?' :: '<' :: c :: rest =>
    if inClass || c == '=' || c == '!' then groupNames inClass rest
    else (c :: rest).takeWhile (· != '>') :: groupNames false rest
  | '(' :: '?' :: rest => groupNames inClass rest
  | c :: rest =>
    if c == '(' && !inClass then [] :: groupNames false rest
    else groupNames (if c == '[' then true else if c == ']' then false else inClass) rest

/-- One character. -/
def single (code : Nat) : Pattern := one false [{ spans := [(code, code)] }]

/-- The kind behind a backslash. -/
def kind? (c : Char) : Option Kind :=
  [('d', Kind.digit), ('w', Kind.word), ('s', Kind.blank), ('D', Kind.digit.opposite),
    ('W', Kind.word.opposite), ('S', Kind.blank.opposite)].lookup c

def isOctal (c : Char) : Bool := '0' ≤ c && c ≤ '7'

/-- The digits of a code in base eight, at most three and below 256. -/
def octalDigits (cs : List Char) : List Char :=
  let digits := (cs.takeWhile isOctal).take 3
  if Number.digitsValue 8 digits < 256 then digits else digits.take 2

/-- The code of as many digits in base sixteen. -/
def hexCode? (count : Nat) (cs : List Char) : Option Nat :=
  let digits := cs.take count
  if digits.length = count ∧ digits.all fun c => (hexValue? c).isSome then
    some (Number.digitsValue 16 digits)
  else none

/-- The character behind a backslash, and what follows it. -/
def escaped (inClass : Bool) (c : Char) (rest : List Char) : Nat × List Char :=
  let plain := (c.toNat, rest)
  match c with
  | 'f' => (12, rest)
  | 'n' => (10, rest)
  | 'r' => (13, rest)
  | 't' => (9, rest)
  | 'v' => (11, rest)
  | 'x' => ((hexCode? 2 rest).map fun n => (n, rest.drop 2)).getD plain
  | 'u' => ((hexCode? 4 rest).map fun n => (n, rest.drop 4)).getD plain
  | 'c' =>
    match rest with
    | d :: after =>
      if d.isAlpha || (inClass && (d.isDigit || d == '_')) then (d.toNat % 32, after)
      else (92, c :: rest)
    | [] => (92, [c])
  | _ =>
    if isOctal c then
      let digits := octalDigits (c :: rest)
      (Number.digitsValue 8 digits, (c :: rest).drop digits.length)
    else plain

/-- A character or a kind in a class, and what follows it. -/
def classItem : List Char → Except Fault ((Nat ⊕ Kind) × List Char)
  | [] => .error .openClass
  | '\\' :: [] => .error .loneBackslash
  | '\\' :: c :: rest =>
    match kind? c with
    | some kind => .ok (.inr kind, rest)
    | none =>
      if c = 'b' then .ok (.inl 8, rest)
      else
        let (code, rest) := escaped true c rest
        .ok (.inl code, rest)
  | c :: rest => .ok (.inl c.toNat, rest)

/-- The kind that an item of a class stands for. -/
def itemKind : Nat ⊕ Kind → Kind
  | .inl code => { spans := [(code, code)] }
  | .inr kind => kind

/-- The kinds in a class up to its closing bracket, and what follows it. -/
def classKinds : Nat → List Char → Except Fault (List Kind × List Char)
  | 0, _ => .error .openClass
  | _ + 1, ']' :: rest => .ok ([], rest)
  | bound + 1, cs => do
    let (item, rest) ← classItem cs
    match rest with
    | '-' :: d :: more =>
      if d = ']' then
        return (itemKind item :: { spans := [(45, 45)] } :: [], more)
      else
        let (last, rest) ← classItem (d :: more)
        let kinds ← match item, last with
          | .inl a, .inl b =>
            if b < a then Except.error Fault.classOrder
            else Except.ok [{ spans := [(a, b)] : Kind }]
          | _, _ => Except.ok [itemKind item, { spans := [(45, 45)] }, itemKind last]
        let (others, rest) ← classKinds bound rest
        return (kinds ++ others, rest)
    | _ =>
      let (others, rest) ← classKinds bound rest
      return (itemKind item :: others, rest)

/-- The bounds of a repetition in braces, and what follows it. -/
def braces? (cs : List Char) : Option (Nat × Option Nat × List Char) :=
  let digits := cs.takeWhile Char.isDigit
  let least := Number.digitsValue 10 digits
  if digits.isEmpty then none
  else match cs.dropWhile Char.isDigit with
    | '\x7d' :: rest => some (least, some least, rest)
    | ',' :: rest =>
      let more := rest.takeWhile Char.isDigit
      match rest.dropWhile Char.isDigit with
      | '\x7d' :: rest =>
        some (least, if more.isEmpty then none else some (Number.digitsValue 10 more), rest)
      | _ => none
    | _ => none

/-- A sign of repetition, and what follows it. -/
def repetition? : List Char → Option (Nat × Option Nat × List Char)
  | '*' :: rest => some (0, none, rest)
  | '+' :: rest => some (1, none, rest)
  | '?' :: rest => some (0, some 1, rest)
  | '\x7b' :: rest => braces? rest
  | _ => none

/-- Repeats a pattern if a sign of repetition follows. How eager it is does not matter. -/
def withRepetition (body : Pattern) (cs : List Char) : Except Fault (Pattern × List Char) :=
  match repetition? cs with
  | none => .ok (body, cs)
  | some (least, most, rest) =>
    if most.any (· < least) then .error .repetitionOrder
    else .ok (.repeated least most body, match rest with
      | '?' :: rest => rest
      | rest => rest)

def isNameChar (c : Char) : Bool := c.isAlphanum || c == '_' || c == '$' || 0x80 ≤ c.toNat

def isName (cs : List Char) : Bool :=
  !cs.isEmpty && cs.all isNameChar && !cs.head?.any Char.isDigit

/-- The name up to the closing bracket, and what follows it. -/
def name? (cs : List Char) : Option (List Char × List Char) :=
  let name := cs.takeWhile (· != '>')
  match cs.dropWhile (· != '>') with
  | '>' :: rest => if isName name then some (name, rest) else none
  | _ => none

/-- What has been read up to some place. -/
structure Progress where
  pattern : Pattern
  rest : List Char
  /-- How many groups have been opened. -/
  opened : Nat

/-- Reads what a backslash and further characters stand for, unless it is an edge. -/
def readEscaped (names : List (List Char)) (c : Char) (rest : List Char) :
    Except Fault (Pattern × List Char) :=
  match kind? c with
  | some kind => .ok (one false [kind], rest)
  | none =>
    let digits := (c :: rest).takeWhile Char.isDigit
    let number := Number.digitsValue 10 digits
    if c.isDigit && c != '0' && number ≤ names.length then
      .ok (again number, (c :: rest).drop digits.length)
    else if c = 'k' ∧ names.any (!·.isEmpty) then
      match rest with
      | '<' :: after =>
        match name? after with
        | none => .error .reference
        | some (name, rest) =>
          match names.idxOf? name with
          | some n => .ok (again (n + 1), rest)
          | none => .error .unknownName
      | _ => .error .reference
    else
      let (code, rest) := escaped false c rest
      .ok (single code, rest)

mutual

/-- Reads choices up to the end of a group or of the text. -/
def readChoices (names : List (List Char)) (opened : Nat) :
    Nat → List Char → Except Fault Progress
  | 0, cs => .ok { pattern := empty, rest := cs, opened := opened }
  | bound + 1, cs => do
    let first ← readSequence names opened bound cs
    match first.rest with
    | '|' :: rest =>
      let second ← readChoices names first.opened bound rest
      return { second with pattern := choice first.pattern second.pattern }
    | _ => return first

/-- Reads what follows one another. -/
def readSequence (names : List (List Char)) (opened : Nat) :
    Nat → List Char → Except Fault Progress
  | 0, cs => .ok { pattern := empty, rest := cs, opened := opened }
  | bound + 1, cs =>
    let followed := fun (pattern : Pattern) (opened : Nat) (rest : List Char) => do
      let more ← readSequence names opened bound rest
      return { more with pattern := sequence pattern more.pattern }
    let repeatable := fun (pattern : Pattern) (opened : Nat) (rest : List Char) => do
      let (pattern, rest) ← withRepetition pattern rest
      followed pattern opened rest
    match cs with
    | [] => .ok { pattern := empty, rest := cs, opened := opened }
    | '|' :: _ => .ok { pattern := empty, rest := cs, opened := opened }
    | ')' :: _ => .ok { pattern := empty, rest := cs, opened := opened }
    | '^' :: rest => followed start opened rest
    | '$' :: rest => followed finish opened rest
    | '.' :: rest => repeatable (one true [Kind.lineEnd]) opened rest
    | '(' :: '?' :: '<' :: '=' :: rest => do
      let body ← readGroup names opened bound rest
      followed (behind false body.pattern) body.opened body.rest
    | '(' :: '?' :: '<' :: '!' :: rest => do
      let body ← readGroup names opened bound rest
      followed (behind true body.pattern) body.opened body.rest
    | '(' :: '?' :: '<' :: rest =>
      match name? rest with
      | none => .error .groupName
      | some (name, rest) =>
        if (names.take opened).contains name then .error .repeatedName
        else do
          let body ← readGroup names (opened + 1) bound rest
          repeatable (group (opened + 1) body.pattern) body.opened body.rest
    | '(' :: '?' :: ':' :: rest => do
      let body ← readGroup names opened bound rest
      repeatable body.pattern body.opened body.rest
    | '(' :: '?' :: '=' :: rest => do
      let body ← readGroup names opened bound rest
      repeatable (ahead false body.pattern) body.opened body.rest
    | '(' :: '?' :: '!' :: rest => do
      let body ← readGroup names opened bound rest
      repeatable (ahead true body.pattern) body.opened body.rest
    | '(' :: '?' :: _ => .error .groupKind
    | '(' :: rest => do
      let body ← readGroup names (opened + 1) bound rest
      repeatable (group (opened + 1) body.pattern) body.opened body.rest
    | '[' :: '^' :: rest => do
      let (kinds, rest) ← classKinds (rest.length + 1) rest
      repeatable (one true kinds) opened rest
    | '[' :: rest => do
      let (kinds, rest) ← classKinds (rest.length + 1) rest
      repeatable (one false kinds) opened rest
    | '\\' :: [] => .error .loneBackslash
    | '\\' :: 'b' :: rest => followed (edge false) opened rest
    | '\\' :: 'B' :: rest => followed (edge true) opened rest
    | '\\' :: c :: rest => do
      let (pattern, rest) ← readEscaped names c rest
      repeatable pattern opened rest
    | c :: rest =>
      if (repetition? cs).isSome then .error .nothingToRepeat
      else repeatable (single c.toNat) opened rest

/-- Reads the body of a group and its end. -/
def readGroup (names : List (List Char)) (opened : Nat) :
    Nat → List Char → Except Fault Progress
  | 0, _ => .error .openGroup
  | bound + 1, cs => do
    let body ← readChoices names opened bound cs
    match body.rest with
    | ')' :: rest => return { body with rest := rest }
    | _ => .error .openGroup

end

/-- Reads a whole text. Each step of the recursion takes up a character or ends, but for the two
steps into a group or a choice. -/
def read (cs : List Char) : Except Fault Pattern :=
  match readChoices (groupNames false cs) 0 (4 * cs.length + 4) cs with
  | .error fault => .error fault
  | .ok all => if all.rest.isEmpty then .ok all.pattern else .error .unopenedGroup

end Telemetry.Package.Pattern
