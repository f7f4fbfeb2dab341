import Telemetry.Text.Octets
import Telemetry.Web.Url

/-! # Addresses with content

An address of the scheme `data` holds its content behind the first comma. What stands before the
comma describes it and says whether it is written by six bits a character.
-/
namespace Telemetry.Web.Inline

open Url (isTail isEncodedOpaque)

/-- Characters that a query holds only in percent encoding. -/
def isEncodedQuery (c : Char) : Bool :=
  c.toNat ≤ 0x20 || 0x7F ≤ c.toNat || "\"#<>".toList.contains c

/-- The host and the port of an authority without credentials, in the form of the address. -/
def authorityText (cs : List Char) : List Char :=
  let (host, port) := Url.splitPort false ((Url.afterCredentials cs).getD cs)
  let digits := (port.getD []).dropWhile (· == '0')
  Url.encode isEncodedOpaque host ++
    if (port.getD []).isEmpty then []
    else if digits.isEmpty then [':', '0']
    else ':' :: digits

/-- The text behind the scheme in the form of the address, without its fragment. -/
def normalText (rest : List Char) : List Char :=
  let whole := rest.takeWhile (· != '#')
  let query := whole.dropWhile (· != '?')
  let authority := authorityText (Url.authority "data".toList rest)
  (if "//".toList.isPrefixOf rest then "//".toList ++ authority else []) ++
    (Url.plainPath rest).getD [] ++ Url.encode isEncodedQuery query

/-- Whether a description ends in the mark for six bits a character. -/
def saysBase64 (cs : List Char) : Bool :=
  let blank := fun c : Char => c == ' '
  let mark := "base64".toList
  let kept := ((cs.reverse.dropWhile blank).reverse).map Char.toLower
  mark.isSuffixOf kept &&
    ((kept.reverse.drop mark.length).dropWhile blank).head? == some ';'

/-- The content of a text behind the scheme. -/
def content? (rest : List Char) : Option (List Char) :=
  let text := normalText rest
  match text.dropWhile (· != ',') with
  | [] => none
  | _ :: body =>
    let octets := Text.percentOctets body
    (if saysBase64 (text.takeWhile (· != ',')) then Text.base64? octets else some octets).map
      Text.readOctets

/-- The content of an address, if it has any. -/
def ofAddress? (address : List Char) : Option (List Char) :=
  match Url.scheme? (Url.strip address) with
  | some (scheme, rest) => if scheme = "data".toList then content? rest else none
  | none => none

end Telemetry.Web.Inline
