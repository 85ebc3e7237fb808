import EventRelay.Text.Lower
import EventRelay.Url.Basic
import EventRelay.Url.Letters
import EventRelay.Url.Numeric
import EventRelay.Url.Punycode

/-!
# Hosts of URLs

A host between brackets is an address of 128 bits. What another host means depends on the scheme:
with the schemes of the Internet it is a domain or an address of 32 bits, with all others it is a
name that is kept as it is written.
-/

namespace EventRelay.Url

open Text

def isForbidden (c : Char) : Bool := "\x00\t\n\r #/:<>?@[\\]^|".toList.contains c

def isForbiddenInDomain (c : Char) : Bool := c < ' ' || c = '\x7f' || c = '%' || isForbidden c

/-- Whether a label that stands for another one by its mark does so: there is such a label, it is
not all ASCII, and it is written the way in which it would be told. -/
def labelValid (label : List Char) : Bool :=
  match label with
  | 'x' :: 'n' :: '-' :: '-' :: rest =>
    match Punycode.decode? rest with
    | some decoded =>
      decoded.any (128 ≤ ·.toNat)
        && decoded.all fun c => letters? c = some [c] && lowerChar c = [c]
    | none => false
  | _ => true

def domainText? (cs : List Char) : Option (List Char) := do
  let text ← (text? cs).toOption
  let name := (← text.mapM letters?).flatten
  if name.any isForbiddenInDomain || !(name.splitOn '.').all labelValid then none else some name

def bracketed? (cs : List Char) : Except Fault Host :=
  let inside := (cs.drop 1).dropLast
  if cs.getLast? = some ']' && isIpv6 inside then .ok (.ipv6 inside) else .error .invalidIpv6

/-- The host that a text is with a scheme of the Internet. A name that ends in a number is an
address. -/
def internetHost? (cs : List Char) : Except Fault Host :=
  if cs.head? = some '[' then bracketed? cs
  else
    match domainText? cs with
    | none => .error .invalidDomain
    | some [] => .error .emptyHost
    | some name =>
      if endsInNumber name then
        match lenientIpv4? name with
        | some address => .ok (.ipv4 address)
        | none => .error .invalidIpv4
      else .ok (.domain name)

def namedHost? (cs : List Char) : Except Fault (Option Host) :=
  if cs.head? = some '[' then (bracketed? cs).map some
  else if cs.any isForbidden then .error .invalidCharacter
  else .ok (if cs.isEmpty then none else some (.name cs))

end EventRelay.Url
