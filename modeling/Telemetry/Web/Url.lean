import Telemetry.Web.Host

/-! # The path of a request target

A request target is an address relative to a local host. Its path has no dot segments and is
percent encoded where it has to be. Tabs and line breaks do not count, and neither do blanks and
controls at the ends.
-/
namespace Telemetry.Web

namespace Url

/-- Blanks and controls at the ends go, and so do tabs and line breaks anywhere. -/
def strip (cs : List Char) : List Char :=
  let edge := fun c : Char => decide (c.toNat ≤ 0x20)
  (((cs.dropWhile edge).reverse.dropWhile edge).reverse).filter fun c =>
    c != '\t' && c != '\n' && c != '\r'

def isSchemeChar (c : Char) : Bool := c.isAlphanum || c == '+' || c == '-' || c == '.'

/-- The scheme before the first colon, in lower case, and what follows the colon. -/
def scheme? (cs : List Char) : Option (List Char × List Char) :=
  match cs with
  | first :: _ =>
    match cs.dropWhile isSchemeChar with
    | ':' :: rest =>
      if first.isAlpha then some ((cs.takeWhile isSchemeChar).map Char.toLower, rest) else none
    | _ => none
  | [] => none

/-- The schemes with domains; of these only the first has the scheme of the local host. -/
def specialSchemes : List (List Char) :=
  ["http".toList, "https".toList, "ws".toList, "wss".toList, "ftp".toList]

/-- What the segments of a path depend on. -/
inductive Kind where
  | special | file | plain
  deriving DecidableEq

/-- A slash; a backslash counts as one but for plain schemes. -/
def isSlash (kind : Kind) (c : Char) : Bool := c == '/' || (kind != .plain && c == '\\')

/-- The end of the path: a query or a fragment. -/
def isTail (c : Char) : Bool := c == '?' || c == '#'

/-- Characters that a path holds only in percent encoding. -/
def isEncoded (c : Char) : Bool :=
  c.toNat ≤ 0x20 || 0x7F ≤ c.toNat || "\"#<>?`\x7b\x7d".toList.contains c

/-- Characters that an opaque path holds only in percent encoding. -/
def isEncodedOpaque (c : Char) : Bool := c.toNat < 0x20 || 0x7F ≤ c.toNat

def encode (p : Char → Bool) (cs : List Char) : List Char :=
  cs.flatMap fun c => if p c then Text.percentChar c else [c]

/-- Reads the percent encoded point in either case. -/
def pointCount? : List Char → Option Nat
  | [] => some 0
  | '.' :: rest => (pointCount? rest).map (· + 1)
  | '%' :: '2' :: 'e' :: rest => (pointCount? rest).map (· + 1)
  | '%' :: '2' :: 'E' :: rest => (pointCount? rest).map (· + 1)
  | _ :: _ => none

def isSingleDot (segment : List Char) : Bool := pointCount? segment == some 1

def isDoubleDot (segment : List Char) : Bool := pointCount? segment == some 2

/-- A letter with a colon or a bar, the root of a drive. -/
def isDrive (segment : List Char) : Bool :=
  match segment with
  | [letter, mark] => letter.isAlpha && (mark == ':' || mark == '|')
  | _ => false

/-- A segment that begins with a letter and a colon is kept as if it were the root of a drive. -/
def beginsDrive (segment : List Char) : Bool :=
  match segment with
  | letter :: mark :: _ => letter.isAlpha && mark == ':'
  | _ => false

/-- Leaves the last segment, but never the root of a drive. -/
def leave (kind : Kind) (path : List (List Char)) : List (List Char) :=
  match kind, path with
  | .file, [segment] => if beginsDrive segment then [segment] else []
  | _, _ => path.dropLast

/-- Adds a segment; the root of a drive is written with a colon. -/
def enter (kind : Kind) (path : List (List Char)) (segment : List Char) : List (List Char) :=
  if kind = .file ∧ path = [] ∧ isDrive segment then path ++ [segment.take 1 ++ [':']]
  else path ++ [segment]

/-- Resolves dot segments. A dot segment at the end leaves an empty segment, unless a plain scheme
has no segment to leave. -/
def walk (kind : Kind) (path : List (List Char)) : List (List Char) → List (List Char)
  | [] => path
  | [segment] =>
    if isDoubleDot segment then
      if kind = .plain ∧ path = [] then [] else leave kind path ++ [[]]
    else if isSingleDot segment then path ++ [[]]
    else enter kind path segment
  | segment :: rest =>
    if isDoubleDot segment then walk kind (leave kind path) rest
    else if isSingleDot segment then walk kind path rest
    else walk kind (enter kind path segment) rest

def joinPath (path : List (List Char)) : List Char := path.flatMap fun segment => '/' :: segment

/-- What follows the first slash with a point behind it. -/
def afterPoint? : List Char → Option (List Char)
  | '/' :: '.' :: rest => some rest
  | _ :: rest => afterPoint? rest
  | [] => none

/-- Whether a text with neither encoded characters nor backslashes shows no dot segment at its
beginning and at the first point behind a slash. Later points are not looked at. -/
def isSettled (kind : Kind) (cs : List Char) : Bool :=
  cs.all (fun c => !(isEncoded c || c == '%' || c == '\\')) && cs.head? != some '.' &&
    !(kind == .file && isDrive (cs.takeWhile (· != '/'))) &&
    match afterPoint? cs with
    | none => true
    | some [] => false
    | some (c :: _) => c != '.' && c != '/'

/-- The path that a text stands for, up to its query or fragment and without a leading slash. A
settled text stays as it is. -/
def resolvePath (kind : Kind) (cs : List Char) : List Char :=
  let body := cs.takeWhile fun c => !isTail c
  if isSettled kind body then '/' :: body
  else joinPath (walk kind [] ((Text.splitWhere (isSlash kind) body).map (encode isEncoded)))

/-- The path behind an authority: one leading slash is its own. -/
def pathStart (kind : Kind) (cs : List Char) : List Char :=
  match kind, cs with
  | .plain, [] => []
  | _, c :: rest =>
    if isSlash kind c then resolvePath kind rest
    else if kind = .plain && isTail c then []
    else resolvePath kind cs
  | _, [] => resolvePath kind []

/-- The text before the first colon outside brackets, and what follows the colon. -/
def splitPort (inBrackets : Bool) : List Char → List Char × Option (List Char)
  | [] => ([], none)
  | c :: rest =>
    if c = ':' ∧ !inBrackets then ([], some rest)
    else
      let inside := if c = '[' then true else if c = ']' then false else inBrackets
      let (host, port) := splitPort inside rest
      (c :: host, port)

/-- A port is empty or a number below `2 ^ 16`. -/
def isPort (cs : List Char) : Bool :=
  cs.all Char.isDigit && Number.digitsValue 10 cs < Nat.pow 2 16

/-- What follows the last `@`, if there is one. -/
def afterCredentials (cs : List Char) : Option (List Char) :=
  if cs.contains '@' then some (cs.reverse.takeWhile (· != '@')).reverse else none

/-- Whether a text is an authority. A host may be empty only where the scheme has no domains and
neither credentials nor a port go with it. -/
def isAuthority (kind : Kind) (cs : List Char) : Bool :=
  let credentials := afterCredentials cs
  let (host, port) := splitPort false (credentials.getD cs)
  if host.isEmpty then kind == .plain && credentials.isNone && port.isNone
  else isHost (kind != .plain) host && (port.all isPort)

/-- The path behind an authority, if the authority is one. -/
def behindAuthority (kind : Kind) (cs : List Char) : Option (List Char) :=
  let ends := fun c => isSlash kind c || isTail c
  let authority := cs.takeWhile fun c => !ends c
  if isAuthority kind authority then some (pathStart kind (cs.dropWhile fun c => !ends c)) else none

/-- Any number of slashes may stand before the authority of a scheme with domains. -/
def specialPath (cs : List Char) : Option (List Char) :=
  behindAuthority .special (cs.dropWhile (isSlash .special))

/-- The path relative to the root of the local host. -/
def relativePath (cs : List Char) : Option (List Char) :=
  match cs with
  | a :: b :: rest =>
    if isSlash .special a && isSlash .special b then specialPath rest
    else if isSlash .special a then some (resolvePath .special (b :: rest))
    else some (resolvePath .special cs)
  | [a] => some (resolvePath .special (if isSlash .special a then [] else [a]))
  | [] => some ['/']

/-- The path of a file, whose host may be left out. -/
def filePath (cs : List Char) : Option (List Char) :=
  match cs with
  | a :: b :: rest =>
    if isSlash .file a && isSlash .file b then
      let ends := fun c => isSlash .file c || isTail c
      let host := rest.takeWhile fun c => !ends c
      if isDrive host then some (resolvePath .file rest)
      else if host.isEmpty || isHost true host then
        some (pathStart .file (rest.dropWhile fun c => !ends c))
      else none
    else if isSlash .file a then some (resolvePath .file (b :: rest))
    else some (resolvePath .file cs)
  | [a] => some (resolvePath .file (if isSlash .file a then [] else [a]))
  | [] => some ['/']

/-- The path of a scheme without domains; without a leading slash it is opaque. -/
def plainPath (cs : List Char) : Option (List Char) :=
  match cs with
  | '/' :: '/' :: rest => behindAuthority .plain rest
  | '/' :: rest => some (resolvePath .plain rest)
  | cs => some (encode isEncodedOpaque (cs.takeWhile fun c => !isTail c))

/-- The path behind a scheme, with nothing that it could be relative to. -/
def schemePath (scheme rest : List Char) : Option (List Char) :=
  if specialSchemes.contains scheme then specialPath rest
  else if scheme = "file".toList then filePath rest
  else plainPath rest

/-- The path of an address, if it is one. The scheme of the local host without slashes behind it
counts for nothing. -/
def path? (cs : List Char) : Option (List Char) :=
  let cs := strip cs
  match scheme? cs with
  | none => relativePath cs
  | some (scheme, rest) =>
    if scheme = "http".toList ∧ !"//".toList.isPrefixOf rest then relativePath rest
    else schemePath scheme rest

/-- Whether a text is an address on its own. -/
def isAbsolute (cs : List Char) : Bool :=
  match scheme? (strip cs) with
  | none => false
  | some (scheme, rest) => (schemePath scheme rest).isSome

/-- The authority behind a scheme, which a file does not have. -/
def authority (scheme rest : List Char) : List Char :=
  if specialSchemes.contains scheme then
    (rest.dropWhile (isSlash .special)).takeWhile fun c => !(isSlash .special c || isTail c)
  else if scheme = "file".toList then []
  else match rest with
    | '/' :: '/' :: rest => rest.takeWhile fun c => !(isSlash .plain c || isTail c)
    | _ => []

/-- Whether an address names a user or a password. -/
def hasCredentials (cs : List Char) : Bool :=
  match scheme? (strip cs) with
  | none => false
  | some (scheme, rest) =>
    let credentials := (((authority scheme rest).reverse.dropWhile (· != '@')).drop 1).reverse
    !credentials.isEmpty && credentials != [':']

end Url

/-- The path of a request target. What is no address stands for the root. -/
def targetPath (raw : Option String) : String :=
  match Url.path? (raw.getD "/").toList with
  | some path => String.ofList path
  | none => "/"

end Telemetry.Web
