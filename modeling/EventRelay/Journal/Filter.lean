import EventRelay.Decimal.Reader
import EventRelay.Journal
import EventRelay.Journal.Pattern
import EventRelay.Text.Alphanumeric
import EventRelay.Text.Classes
import EventRelay.Text.Integer
import EventRelay.Text.Utf8

/-!
# Filtering the journal

A filter says which entries of the journal are shown. It is written as rules with commas between
them. A rule may be a level alone, as in `warn`, for all parts of the program; the name of a part
alone, which shows everything of it; or both, as in `outbox_domain=info`. Between brackets it may
name an activity, and between braces the fields that an entry must have, as in
`outbox_relay[{worker_id}]=info`. Of several rules for an entry the closest one counts.
-/

namespace EventRelay.Journal

open Text

/-- How much is shown: nothing at all, or the entries up to some rank. -/
abbrev Threshold := Nat

/-- The rank of a level; a lower one matters more. -/
def Level.rank : Level → Nat
  | .error => 1
  | .warn => 2
  | .info => 3
  | .debug => 4

def showAll : Threshold := 5

def thresholdNames : List (String × Threshold) :=
  [("off", 0), ("error", 1), ("warn", 2), ("info", 3), ("debug", 4), ("trace", 5)]

def threshold? (cs : List Char) : Option Threshold :=
  match nat64? cs with
  | some n => if n.toNat ≤ showAll then some n.toNat else none
  | none => thresholdNames.lookup (String.ofList (cs.map Char.toLower))

/-- A rule of a filter. -/
inductive Rule where
  /-- For the entries of the parts whose names begin with `target` and that have all the fields. -/
  | forEntries (target : String) (fields : List String) (threshold : Threshold)
  /-- For an activity that entries stand in. It never applies, since the program has none. -/
  | forActivity
deriving DecidableEq

namespace Rule

/-! ## Reading rules

A rule is read without the blanks around it, but its parts are cut out of the text as it stands, at
the places that they have without the blanks. So blanks in front move every part, and blanks at the
end belong to the last one. -/

/-- A text with blanks around it: as it stands, and without them. -/
structure Source where
  whole : List Char
  trimmed : List Char

def Source.of (whole : List Char) : Source := ⟨whole, trim whole⟩

/-- The place where a rest of the text without blanks begins, in bytes. -/
def Source.placeOf (s : Source) (rest : List Char) : Nat := byteCount s.trimmed - byteCount rest

def Source.between? (s : Source) (first behind : List Char) : Option (List Char) :=
  (dropBytes? (s.placeOf first) s.whole).bind
    (takeBytes? (s.placeOf behind - s.placeOf first))

def Source.onward? (s : Source) (first : List Char) : Option (List Char) :=
  dropBytes? (s.placeOf first) s.whole

/-- A character that a rule without brackets may begin with. -/
def isFirst (c : Char) : Bool := c == '-' || c == ':' || c == '_' || isAlphanumeric c

/-- What is asked of a field: that it is there, or also that its value fits a pattern. -/
structure Demand where
  field : String
  valued : Bool
deriving DecidableEq

/-- A demand, whose pattern must be well formed unless it is a number. -/
def readDemand? (cs : List Char) : Option Demand :=
  match cs.splitOn '=' with
  | [] => none
  | [name] => if name.isEmpty then none else some ⟨String.ofList name, false⟩
  | name :: pattern :: _ =>
    if (nat64? pattern).isSome || (int64? 10 pattern).isSome || (Binary64.read? pattern).isSome
        || Pattern.wellFormed pattern then
      some ⟨String.ofList name, true⟩
    else none

/-- The threshold behind the name of a part or an activity: everything is shown if none is
given. -/
def readThreshold? (s : Source) : List Char → Option Threshold
  | [] => some showAll
  | '=' :: rest =>
    match s.onward? rest with
    | none => none
    | some [] => some showAll
    | some name => threshold? name
  | _ => none

/-- What stands between brackets: whether an activity is named, what is asked of fields, and the
rest of the text. There are no commas in a rule, so that one field at most is asked for. -/
def readBrackets? (s : Source) (cs : List Char) : Option (Bool × List Demand × List Char) :=
  match cs.dropWhile fun c => c != ']' && c != '\x7b' with
  | ']' :: rest => some (true, [], rest)
  | '\x7b' :: fields =>
    match fields.dropWhile (· != '\x7d') with
    | '\x7d' :: ']' :: rest =>
      match s.between? cs ('\x7b' :: fields), s.between? fields ('\x7d' :: ']' :: rest) with
      | some activity, some field =>
        (readDemand? field).map fun d => (!activity.isEmpty, [d], rest)
      | _, _ => none
    | _ => none
  | _ => none

def readWithBrackets? (s : Source) (target : List Char) (cs : List Char) : Option Rule :=
  match readBrackets? s cs with
  | none => none
  | some (named, demands, rest) =>
    (readThreshold? s rest).map fun threshold =>
      if named || demands.any (·.valued) then .forActivity
      else .forEntries (String.ofList target) (demands.map (·.field)) threshold

def read? (text : List Char) : Option Rule :=
  let s := Source.of text
  match s.trimmed with
  | [] => none
  | '[' :: rest => readWithBrackets? s [] rest
  | c :: behind =>
    if !isFirst c then none
    else
      match behind.dropWhile fun c => c != '=' && c != '[' with
      | [] =>
        (s.onward? s.trimmed).map fun name =>
          match threshold? name with
          | some threshold => .forEntries "" [] threshold
          | none => .forEntries (String.ofList name) [] showAll
      | '[' :: rest =>
        (s.between? s.trimmed ('[' :: rest)).bind fun target => readWithBrackets? s target rest
      | rest =>
        (s.between? s.trimmed rest).bind fun target =>
          (readThreshold? s rest).map (.forEntries (String.ofList target) [] ·)

end Rule

/-- The rules of a filter. -/
structure Filter where
  rules : List Rule
deriving DecidableEq

namespace Filter

/-- Shows everything up to the level info. -/
def usual : Filter := ⟨[.forEntries "" [] 3]⟩

def read? (s : String) : Option Filter :=
  match (s.toList.splitOn ',').filter (!·.isEmpty) with
  | [] => some ⟨[.forEntries "" [] 1]⟩
  | texts => (texts.mapM Rule.read?).map Filter.mk

/-- The filter that a text asks for; the usual one if there is none or it cannot be read. -/
def ofText (s : Option String) : Filter := (s.bind read?).getD usual

/-! ## Applying rules -/

/-- How close a rule is to the entries that it applies to. -/
structure Closeness where
  target : String
  fields : List String

/-- Whether a rule is at least as close as another one: by the length of the name of its part, then
by the number of its fields, then by their names. -/
def Closeness.atLeast (a b : Closeness) : Bool :=
  if a.target.length ≠ b.target.length then b.target.length < a.target.length
  else if a.fields.length ≠ b.fields.length then b.fields.length < a.fields.length
  else !decide (a.fields < b.fields)

/-- Of a rule so far and a further one, the one that counts for an entry of a part with some fields:
the closer one, and of two that are equally close the later one. -/
def closer (target : String) (names : List String) (best : Option (Closeness × Threshold))
    (rule : Rule) : Option (Closeness × Threshold) :=
  match rule with
  | .forActivity => best
  | .forEntries part fields threshold =>
    let closeness : Closeness := ⟨part, fields⟩
    if part.toList.isPrefixOf target.toList && fields.all (names.contains ·)
        && (best.map fun b => closeness.atLeast b.1).getD true then
      some (closeness, threshold)
    else best

def shows (f : Filter) (target : String) (level : Level) (names : List String) : Bool :=
  match f.rules.foldl (closer target names) none with
  | some (_, threshold) => level.rank ≤ threshold
  | none => false

end Filter
end EventRelay.Journal
