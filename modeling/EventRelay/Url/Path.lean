import EventRelay.Url.Basic

/-!
# Paths of URLs

A path consists of segments between slashes. A segment that is one dot stands for the place where it
is, and one that is two dots takes back the segment before it; either way a dot may be written with
its code.
-/

namespace EventRelay.Url

def isSingleDot (segment : List Char) : Bool :=
  [".", "%2e"].contains (String.ofList (segment.map Char.toLower))

def isDoubleDot (segment : List Char) : Bool :=
  ["..", ".%2e", "%2e.", "%2e%2e"].contains (String.ofList (segment.map Char.toLower))

def isDrive : List Char → Bool
  | [c, d] => c.isAlpha && (d == ':' || d == '|')
  | _ => false

/-- The segments without their last one, the last one first. The letter of a drive stays. -/
def withoutLast : List (List Char) → List (List Char)
  | [] => []
  | s :: rest => if isDrive s then s :: rest else rest

/-- The segments that are left of further ones behind those before them, the last one first. Behind
dots at the end the last segment is empty. -/
def resolved : List (List Char) → List (List Char) → List (List Char)
  | before, [] => before
  | before, s :: rest =>
    if isDoubleDot s then
      let before := withoutLast before
      if rest.isEmpty then [] :: before else resolved before rest
    else if isSingleDot s then
      if rest.isEmpty then [] :: before else resolved before rest
    else resolved (s :: before) rest

def pathOf (separates : Char → Bool) (cs : List Char) : List Char :=
  (resolved [] (cs.splitOnP separates)).reverse.flatMap ('/' :: ·)

end EventRelay.Url
