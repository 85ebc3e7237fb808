import EventRelay.Postgres.Statement
import EventRelay.Text.Integer
import EventRelay.Text.Shown
import EventRelay.Url.Reader

/-!
# Addresses of databases

An address is a URL. Its host, its user and the name of the database, which is its path, are texts;
the query has further parameters, some of which can be wrong.
-/

namespace EventRelay.Postgres.Address

open Text

def protections : List String :=
  ["disable", "allow", "prefer", "require", "verify-ca", "verify-full"]

def parameterFault? (name value : String) : Option String :=
  if name = "sslmode" ∨ name = "ssl-mode" then
    if protections.contains value.toLower then none
    else
      some (Fault.configuration
        ("unknown value " ++ String.ofList (quoted value) ++ " for `ssl_mode`")).message
  else if name = "statement-cache-capacity" then
    match readBelow (2 ^ 64) value.toList with
    | .ok _ => none
    | .error fault => some fault.message
  else if name = "port" then
    match readBelow (2 ^ 16) value.toList with
    | .ok _ => none
    | .error fault => some fault.message
  else if name = "hostaddr" then
    if Url.isIpv4 value.toList || Url.isIpv6 value.toList then none
    else some "invalid IP address syntax"
  else none

def textFault? (part : List Char) : Option String :=
  match Url.text? part with
  | .ok _ => none
  | .error fault => some fault.message

/-- The parts of a URL that are to be texts: the name of the host, the user, the password and the
name of the database. -/
def texts (url : Url) : List (List Char) :=
  let host := match url.host with
    | some (.name text) => text
    | _ => []
  [host, url.username, url.password.getD [], url.path.dropWhile (· == '/')]

def reason? (address : String) : Option String :=
  match Url.read? address with
  | .error fault => some fault.message
  | .ok url =>
    ((texts url).findSome? textFault?).or
      ((Url.fields (url.query.getD [])).findSome? fun (name, value) =>
        parameterFault? (String.ofList name) (String.ofList value))

def fault? (address : String) : Option Fault := (reason? address).map .configuration

end EventRelay.Postgres.Address
