import EventRelay.Text.Digits
import EventRelay.Text.Utf8

/-!
# URLs

A URL has a scheme, and behind it either an authority with a path or a path alone. The parts are
kept as they are written: a percent sign and two hexadecimal digits in them still stand for a byte;
a percent sign that no two such digits follow stands for itself. A query is a list of fields, in
which a plus sign stands for a blank.
-/

namespace EventRelay

/-- A host. -/
inductive Url.Host where
  /-- A name of which the scheme says what it means. -/
  | name (text : List Char)
  /-- A name of the Internet, in lower case. -/
  | domain (text : List Char)
  /-- An address of 32 bits. -/
  | ipv4 (address : Nat)
  /-- An address of 128 bits, as it is written between the brackets. -/
  | ipv6 (text : List Char)
deriving DecidableEq

/-- A URL. What stands behind a number sign is left out. -/
structure Url where
  /-- The scheme, in lower case. -/
  scheme : List Char
  username : List Char := []
  password : Option (List Char) := none
  host : Option Url.Host := none
  port : Option Nat := none
  path : List Char
  query : Option (List Char) := none
deriving DecidableEq

/-- Why a text is no URL. -/
inductive Url.Fault where
  /-- There is no scheme, and nothing that the URL could be relative to. -/
  | withoutScheme
  | emptyHost
  | invalidPort
  /-- A character of the host cannot stand in a name. -/
  | invalidCharacter
  /-- The host is no name of the Internet. -/
  | invalidDomain
  /-- The host ends in a number and is no address of 32 bits. -/
  | invalidIpv4
  /-- The host between brackets is no address of 128 bits. -/
  | invalidIpv6
deriving DecidableEq

def Url.Fault.message : Url.Fault → String
  | .withoutScheme => "relative URL without a base"
  | .emptyHost => "empty host"
  | .invalidPort => "invalid port number"
  | .invalidCharacter => "invalid domain character"
  | .invalidDomain => "invalid international domain name"
  | .invalidIpv4 => "invalid IPv4 address"
  | .invalidIpv6 => "invalid IPv6 address"

/-! ## What the parts stand for -/

namespace Url

open Text

def percentDecoded : List Char → List UInt8
  | '%' :: a :: b :: rest =>
    match hexValue? a, hexValue? b with
    | some x, some y => UInt8.ofNat (x * 16 + y) :: percentDecoded rest
    | _, _ => '%'.toUInt8 :: percentDecoded (a :: b :: rest)
  | c :: rest => String.utf8EncodeChar c ++ percentDecoded rest
  | [] => []

def text? (part : List Char) : Except Utf8.Fault (List Char) := Utf8.decode? (percentDecoded part)

/-- The name or the value of a field of a query. -/
def fieldText (cs : List Char) : List Char :=
  Utf8.decodeLossy (percentDecoded (cs.map fun c => if c = '+' then ' ' else c))

def field (cs : List Char) : List Char × List Char :=
  (fieldText (cs.takeWhile (· != '=')), fieldText ((cs.dropWhile (· != '=')).drop 1))

def fields (query : List Char) : List (List Char × List Char) :=
  ((query.splitOn '&').filter (!·.isEmpty)).map field

end Url
end EventRelay
