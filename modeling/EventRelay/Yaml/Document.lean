import EventRelay.Yaml.Node
import EventRelay.Yaml.Token

/-!
# Documents of a YAML text

The nodes of a text are put together from its tokens. A node may have an anchor and a tag before
it; a node that is missing where the layout allows one is null, and one of which there is only an
anchor or a tag is an empty scalar. No key of a mapping has two values; but that is told only of a
text with which nothing else is wrong.

`documents` gives the root nodes of the documents of a text, or tells why it is not well formed.
-/

namespace EventRelay.Yaml

/-- The tokens that are left, and what earlier ones have defined. -/
structure Remainder where
  tokens : Tokens
  /-- What the handles of tags stand for. -/
  handles : List (List Char × List Char)
  /-- The anchors with their numbers, the latest first. -/
  anchors : List (List Char × Nat)
  /-- The nodes of the numbers, as far as they are complete. -/
  nodes : List (Nat × Node)
  /-- The first key that got a second value. -/
  repeated : Option Fault

namespace Remainder

def peek (r : Remainder) : Except Fault (Token × Mark) := r.tokens.head

/-- What is left behind the token at the place. -/
def next (r : Remainder) : Remainder := { r with tokens := r.tokens.tail }

/-- What comes before the content of a node: the number of its anchor, and what its tag says. -/
structure Properties where
  anchor : Option Nat
  kind : Node.Kind

def Properties.absent : Properties := ⟨none, .untagged⟩

def Properties.any (p : Properties) : Bool := p.anchor.isSome || p.kind != .untagged

/-- Gives an anchor its number. A later anchor of the same name takes the name over. -/
def defineAnchor (r : Remainder) (name : List Char) : Nat × Remainder :=
  let n := r.anchors.length
  (n, { r with anchors := (name, n) :: r.anchors })

def kindOf (expansion suffix : List Char) : Node.Kind :=
  if expansion = coreNamespace then .usual suffix else .other

/-- What a tag at a place says. A handle between exclamation marks has to be declared; `!!` is so
from the start. -/
def kind (r : Remainder) (mark : Mark) (handle suffix : List Char) : Except Fault Node.Kind :=
  match r.handles.lookup handle with
  | some expansion => .ok (kindOf expansion suffix)
  | none =>
    if handle = ['!', '!'] then .ok (.usual suffix)
    else if isClosedHandle handle then mark.fail .handleUnknown
    else .ok .other

def properties (r : Remainder) : Except Fault (Properties × Remainder) := do
  match ← r.peek with
  | (.anchor name, mark) =>
    let (n, r) := r.next.defineAnchor name
    match ← r.peek with
    | (.tag handle suffix, _) => .ok (⟨some n, ← r.kind mark handle suffix⟩, r.next)
    | _ => .ok (⟨some n, .untagged⟩, r)
  | (.tag handle suffix, mark) =>
    let kind ← r.kind mark handle suffix
    match ← r.next.peek with
    | (.anchor name, _) =>
      let (n, r) := r.next.next.defineAnchor name
      .ok (⟨some n, kind⟩, r)
    | _ => .ok (⟨none, kind⟩, r.next)
  | _ => .ok (.absent, r)

def complete (r : Remainder) (p : Properties) (node : Node) : Remainder :=
  match p.anchor with
  | some n => { r with nodes := (n, node) :: r.nodes }
  | none => r

/-- The node of an anchor; it cannot be used within itself. -/
def reference (r : Remainder) (mark : Mark) (name : List Char) : Except Fault Node :=
  match r.anchors.lookup name with
  | some n => .ok ((r.nodes.lookup n).getD .unusable)
  | none => mark.fail .anchorUnknown

/-- A mapping with a further node that ends at a mark. A key that gets a second value is noted. -/
def put (r : Remainder) (g : Node.Growing) (n : Node) (mark : Mark) : Node.Growing × Remainder :=
  let fault := g.repeated?.map fun key => ⟨.keyRepeated (String.ofList key.described), mark⟩
  (g.push n, { r with repeated := r.repeated.or fault })

end Remainder

/-- Where a node may stand. -/
structure Position where
  /-- Collections of lines may stand there. -/
  block : Bool
  /-- A sequence of lines that is not indented may stand there. -/
  unindented : Bool

def Position.inBrackets : Position := ⟨false, false⟩

/-- The root of a document or an item of a sequence of lines. -/
def Position.inSequence : Position := ⟨true, false⟩

/-- A key or a value of a mapping of lines. -/
def Position.inMapping : Position := ⟨true, true⟩

/-- Whether the value or the key of a mapping of lines is missing before a token. -/
def missingInLines : Token → Bool
  | .key | .value | .blockEnd => true
  | _ => false

def missingItem : Token → Bool
  | .item | .blockEnd => true
  | _ => false

def missingInBrackets : Token → Bool
  | .comma | .flowSequenceEnd => true
  | _ => false

def missingInBraces : Token → Bool
  | .comma | .flowMappingEnd => true
  | _ => false

/-- What has been read at a place: a node with the mark of its end, and what is left. -/
abbrev Parsed : Type := Node × Mark × Remainder

mutual
/-- A node. The number of tokens bounds the steps. -/
def node (position : Position) : Nat → Remainder → Except Fault Parsed
  | 0, r => do (← r.peek).2.fail .nodeMissing
  | fuel + 1, r => do
    match ← r.peek with
    | (.reference name, mark) => .ok (← r.reference mark name, mark, r.next)
    | _ =>
      let (p, r) ← r.properties
      let (n, mark, r) ← content position fuel p r
      .ok (n, mark, r.complete p n)

def content (position : Position) : Nat → Remainder.Properties → Remainder → Except Fault Parsed
  | 0, _, r => do (← r.peek).2.fail .nodeMissing
  | fuel + 1, p, r => do
    let (t, mark) ← r.peek
    match t with
    | .scalar plain text => .ok (.ofScalar plain p.kind text, mark, r.next)
    | .flowSequence => bracketItems fuel true [] r.next
    | .flowMapping => braceNodes fuel true .empty r.next
    | t =>
      if t = .item && position.unindented then unindentedItems fuel [] r
      else if t = .blockSequence && position.block then lineItems fuel [] r.next
      else if t = .blockMapping && position.block then lineNodes fuel .empty r.next
      else if p.any then .ok (.ofScalar true p.kind [], mark, r)
      else mark.fail .nodeMissing

/-- A sequence of lines with the items before the place, the latest first, up to its end. -/
def lineItems : Nat → List Node → Remainder → Except Fault Parsed
  | 0, _, r => do (← r.peek).2.fail .itemExpected
  | fuel + 1, items, r => do
    match ← r.peek with
    | (.blockEnd, mark) => .ok (.sequence items.reverse, mark, r.next)
    | (.item, _) =>
      let (t, mark) ← r.next.peek
      let (n, _, r) ←
        if missingItem t then .ok (.null, mark, r.next) else node .inSequence fuel r.next
      lineItems fuel (n :: items) r
    | (_, mark) => mark.fail .itemExpected

/-- A sequence of lines that are not indented with the items before the place, the latest first, up
to something else. -/
def unindentedItems : Nat → List Node → Remainder → Except Fault Parsed
  | 0, _, r => do (← r.peek).2.fail .itemExpected
  | fuel + 1, items, r => do
    match ← r.peek with
    | (.item, _) =>
      let (t, mark) ← r.next.peek
      let (n, _, r) ←
        if missingItem t || missingInLines t then .ok (.null, mark, r.next)
        else node .inSequence fuel r.next
      unindentedItems fuel (n :: items) r
    | (_, mark) => .ok (.sequence items.reverse, mark, r)

def lineNodes : Nat → Node.Growing → Remainder → Except Fault Parsed
  | 0, _, r => do (← r.peek).2.fail .keyExpected
  | fuel + 1, g, r => do
    match ← r.peek with
    | (.blockEnd, mark) => .ok (g.toNode, mark, r.next)
    | (.value, mark) =>
      let (g, r) := r.put g .null mark
      lineValue fuel g r
    | (.key, _) =>
      let (t, mark) ← r.next.peek
      let (n, mark, r) ←
        if missingInLines t then .ok (.null, mark, r.next) else node .inMapping fuel r.next
      let (g, r) := r.put g n mark
      lineValue fuel g r
    | (_, mark) => mark.fail .keyExpected

def lineValue : Nat → Node.Growing → Remainder → Except Fault Parsed
  | 0, _, r => do (← r.peek).2.fail .keyExpected
  | fuel + 1, g, r => do
    let (t, mark) ← r.peek
    let (n, mark, r) ←
      if t = .value then do
        let (t, mark) ← r.next.peek
        if missingInLines t then .ok (.null, mark, r.next) else node .inMapping fuel r.next
      else .ok (.null, mark, r)
    let (g, r) := r.put g n mark
    lineNodes fuel g r

/-- A sequence between brackets with the items before the place, the latest first, up to its end. A
comma may stand behind the last item. -/
def bracketItems : Nat → Bool → List Node → Remainder → Except Fault Parsed
  | 0, _, _, r => do (← r.peek).2.fail .bracketUnclosed
  | fuel + 1, first, items, r => do
    match ← r.peek with
    | (.flowSequenceEnd, mark) => .ok (.sequence items.reverse, mark, r.next)
    | (t, mark) =>
      if !first && t != .comma then mark.fail .bracketUnclosed
      else
        let r := if first then r else r.next
        match ← r.peek with
        | (.flowSequenceEnd, mark) => .ok (.sequence items.reverse, mark, r.next)
        | (.key, _) =>
          let (n, _, r) ← bracketPair fuel r.next
          bracketItems fuel false (n :: items) r
        | _ =>
          let (n, _, r) ← node .inBrackets fuel r
          bracketItems fuel false (n :: items) r

/-- A pair in a sequence between brackets, behind the beginning of its key. If the key is missing,
the token where it should be is passed over. -/
def bracketPair : Nat → Remainder → Except Fault Parsed
  | 0, r => do (← r.peek).2.fail .nodeMissing
  | fuel + 1, r => do
    let (t, mark) ← r.peek
    let (n, mark, r) ←
      if t = .value || missingInBrackets t then .ok (.null, mark, r.next)
      else node .inBrackets fuel r
    let (g, r) := r.put .empty n mark
    let (t, mark) ← r.peek
    let (n, mark, r) ←
      if t = .value then do
        let (t, mark) ← r.next.peek
        if missingInBrackets t then .ok (.null, mark, r.next) else node .inBrackets fuel r.next
      else .ok (.null, mark, r)
    let (g, r) := r.put g n mark
    .ok (g.toNode, mark, r)

/-- A mapping between braces from a key on up to its end. A comma may stand behind the last value,
and a key alone has the value null. -/
def braceNodes : Nat → Bool → Node.Growing → Remainder → Except Fault Parsed
  | 0, _, _, r => do (← r.peek).2.fail .braceUnclosed
  | fuel + 1, first, g, r => do
    match ← r.peek with
    | (.flowMappingEnd, mark) => .ok (g.toNode, mark, r.next)
    | (t, mark) =>
      if !first && t != .comma then mark.fail .braceUnclosed
      else
        let r := if first then r else r.next
        match ← r.peek with
        | (.flowMappingEnd, mark) => .ok (g.toNode, mark, r.next)
        | (.value, mark) =>
          let (g, r) := r.put g .null mark
          braceValue fuel g r
        | (.key, _) =>
          let (t, mark) ← r.next.peek
          let (n, mark, r) ←
            if t = .value || missingInBraces t then .ok (.null, mark, r.next)
            else node .inBrackets fuel r.next
          let (g, r) := r.put g n mark
          braceValue fuel g r
        | _ =>
          let (n, mark, r) ← node .inBrackets fuel r
          let (g, r) := r.put g n mark
          let (_, mark) ← r.peek
          let (g, r) := r.put g .null mark
          braceNodes fuel false g r

def braceValue : Nat → Node.Growing → Remainder → Except Fault Parsed
  | 0, _, r => do (← r.peek).2.fail .braceUnclosed
  | fuel + 1, g, r => do
    let (t, mark) ← r.peek
    let (n, mark, r) ←
      if t = .value then do
        let (t, _) ← r.next.peek
        if missingInBraces t then .ok (.null, mark, r.next) else node .inBrackets fuel r.next
      else .ok (.null, mark, r)
    let (g, r) := r.put g n mark
    braceNodes fuel false g r
end

/-! ## Documents -/

def Token.isOutside : Token → Bool
  | .directive _ | .documentStart | .documentEnd | .textEnd => true
  | _ => false

/-- The tokens behind marks at the end of documents. -/
def behindEnds : Tokens → Tokens
  | .next .documentEnd _ rest => behindEnds rest
  | ts => ts

/-- The directives in front of a document and what is left behind them. Each one makes those
before it void; the version must not be given twice. -/
def directives (versionGiven : Bool) (handles : List (List Char × List Char)) :
    Tokens → Except Fault (List (List Char × List Char) × Tokens)
  | .next (.directive .version) mark rest =>
    if versionGiven then mark.fail .versionRepeated else directives true [] rest
  | .next (.directive (.handle name expansion)) _ rest =>
    directives versionGiven [(name, expansion)] rest
  | .broken fault => .error fault
  | rest => .ok (handles, rest)

/-- The root of a document that begins at the place. If the mark of its beginning was given, it may
be missing. -/
def root (marked : Bool) (r : Remainder) : Except Fault Parsed := do
  let (t, mark) ← r.peek
  if marked && t.isOutside then .ok (.null, mark, r)
  else node .inSequence (4 * r.tokens.length + 4) r

/-- The roots of the documents that are left, and the first key with two values. Where `marked` is
true, a document begins with its mark; it does so too behind directives. The number of tokens bounds
the steps. -/
def roots : Nat → Bool → Tokens → Except Fault (List Node × Option Fault)
  | 0, _, _ => .ok ([], none)
  | fuel + 1, marked, tokens => do
    let tokens := behindEnds tokens
    let (t, _) ← tokens.head
    if t = .textEnd then .ok ([], none)
    else
      let (handles, tokens) ← directives false [] tokens
      let (next, mark) ← tokens.head
      let (marked, tokens) ←
        if next = .documentStart then .ok (true, tokens.tail)
        else if marked || t.isOutside then mark.fail .documentStartMissing
        else .ok (false, tokens)
      let (root, _, r) ← root marked ⟨tokens, handles, [], [], none⟩
      let (t, mark) ← r.peek
      let (rest, repeated) ←
        match t with
        | .documentEnd => roots fuel false r.tokens.tail
        | .directive _ => mark.fail .documentEndMissing
        | _ => roots fuel true r.tokens
      .ok (root :: rest, r.repeated.or repeated)

def documents (s : String) : Except Fault (List Node) := do
  let tokens := Token.scan s
  match ← roots (tokens.length + 2) false tokens with
  | (_, some fault) => .error fault
  | (nodes, none) => .ok nodes

end EventRelay.Yaml
