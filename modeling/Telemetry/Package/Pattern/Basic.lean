import Telemetry.Text.Span

/-! # Patterns of texts

The package that loads settings reads texts as patterns. A pattern says what may stand at a place of
a text. Whether it fits there is asked together with what has to fit behind it, so that every way to
divide the text between the two is tried.
-/
namespace Telemetry.Package

open Text (Span)

/-- The characters in some spans, or all others. -/
structure Kind where
  spans : List Span
  others : Bool := false

def Kind.holds (n : Nat) (k : Kind) : Bool := k.spans.any (Span.holds n) != k.others

def Kind.digit : Kind := { spans := [(0x30, 0x39)] }

/-- Characters of words. -/
def Kind.word : Kind := { spans := [(0x30, 0x39), (0x41, 0x5A), (0x5F, 0x5F), (0x61, 0x7A)] }

def Kind.blank : Kind :=
  { spans := [(0x9, 0xD), (0x20, 0x20), (0xA0, 0xA0), (0x1680, 0x1680), (0x2000, 0x200A),
      (0x2028, 0x2029), (0x202F, 0x202F), (0x205F, 0x205F), (0x3000, 0x3000), (0xFEFF, 0xFEFF)] }

def Kind.lineEnd : Kind := { spans := [(0xA, 0xA), (0xD, 0xD), (0x2028, 0x2029)] }

def Kind.opposite (k : Kind) : Kind := { k with others := !k.others }

inductive Pattern where
  /-- Nothing. -/
  | empty
  /-- A character of some kind, or one of none of the kinds. -/
  | one (others : Bool) (kinds : List Kind)
  | sequence (first second : Pattern)
  | choice (first second : Pattern)
  /-- As many times as the bounds allow. -/
  | repeated (least : Nat) (most : Option Nat) (body : Pattern)
  | start
  | finish
  /-- A place with a character of a word on one side only, or any other place. -/
  | edge (others : Bool)
  /-- What has to follow, or must not follow, without taking it up. -/
  | ahead (others : Bool) (body : Pattern)
  /-- What has to come before, or must not. -/
  | behind (others : Bool) (body : Pattern)
  | group (number : Nat) (body : Pattern)
  /-- The text of a group once more; nothing if the group has none yet. -/
  | again (number : Nat)

namespace Pattern

/-- A place in a text, with the nearest character before it first, and the texts of the groups. -/
structure Place where
  before : List Char
  after : List Char
  groups : List (Nat × List Char) := []

namespace Place

/-- The place `n` characters on. -/
def advance (p : Place) (n : Nat) : Place :=
  { p with before := (p.after.take n).reverse ++ p.before, after := p.after.drop n }

/-- The places up to this one. -/
def upTo (p : Place) : List Place :=
  (List.range (p.before.length + 1)).map fun n =>
    { p with before := p.before.drop n, after := (p.before.take n).reverse ++ p.after }

def isEdge (p : Place) : Bool :=
  let isWord := fun c : Option Char => c.any fun c => Kind.word.holds c.toNat
  isWord p.before.head? != isWord p.after.head?

end Place

/-- What remains to fit. -/
abbrev Rest := Place → Bool

/-- Fits `n` times. -/
def times (fits : Rest → Rest) : Nat → Rest → Rest
  | 0, rest => rest
  | n + 1, rest => fits (times fits n rest)

/-- Fits at most `n` times, each time with some text. -/
def atMost (fits : Rest → Rest) : Nat → Rest → Rest
  | 0, rest => rest
  | n + 1, rest => fun p =>
    rest p || fits (fun q => q.after.length != p.after.length && atMost fits n rest q) p

/-- Whether a pattern fits at a place and the rest behind it. -/
def fits : Pattern → Rest → Rest
  | empty, rest => rest
  | one others kinds, rest => fun p =>
    p.after.head?.any (fun c => kinds.any (·.holds c.toNat) != others) && rest (p.advance 1)
  | sequence first second, rest => first.fits (second.fits rest)
  | choice first second, rest => fun p => first.fits rest p || second.fits rest p
  | repeated least most body, rest => fun p =>
    let more := match most with
      | none => p.after.length
      | some n => n - least
    times body.fits least (atMost body.fits more rest) p
  | start, rest => fun p => p.before.isEmpty && rest p
  | finish, rest => fun p => p.after.isEmpty && rest p
  | edge others, rest => fun p => p.isEdge != others && rest p
  | ahead others body, rest => fun p =>
    if others then !body.fits (fun _ => true) p && rest p
    else body.fits (fun q => rest { p with groups := q.groups }) p
  | behind others body, rest => fun p =>
    (p.upTo.any fun start => body.fits (fun q => q.after.length == p.after.length) start) !=
      others && rest p
  | group number body, rest => fun p =>
    body.fits (fun q =>
      let text := p.after.take (p.after.length - q.after.length)
      rest { q with groups := (number, text) :: q.groups }) p
  | again number, rest => fun p =>
    let text := (p.groups.lookup number).getD []
    text.isPrefixOf p.after && rest (p.advance text.length)

/-- Whether a pattern fits somewhere in a text. -/
def occursIn (pattern : Pattern) (cs : List Char) : Bool :=
  (Place.upTo { before := cs.reverse, after := [] }).any (pattern.fits fun _ => true)

end Pattern

end Telemetry.Package
