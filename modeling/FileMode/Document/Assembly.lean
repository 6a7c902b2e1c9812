import FileMode.Document.Node
import FileMode.Document.Token

/-!
Nodes from tokens. The collections that are still open form a stack; each token is taken by the
innermost of them, which either waits for a node or for what separates its members. Where a node is
due and the token cannot begin one, the node that stands for nothing is put in.

Mirrors `compose_node` and the states of the parser before it, but for two things. An alias may
stand inside of the collection that it names: `compose_node` puts that very collection there, which
then holds itself, and here, where nodes are trees, a collection without members stands in its
place. And `compose_node` calls itself for each collection inside of another one, so that the stack
limits how many of them are open at once; here nothing does.
-/

namespace FileMode.Document

/-- What is written before a node: the name that aliases know it by, and its tag. -/
structure Properties where
  anchor : Option String
  tag : Option String
deriving DecidableEq, Repr

namespace Properties

def none : Properties := ⟨Option.none, Option.none⟩

def isSome (p : Properties) : Bool := p.anchor.isSome || p.tag.isSome

/-- The kind of a scalar with these properties. A lone exclamation mark leaves the kind to the text,
even if that is quoted. -/
def scalarTag (p : Properties) (text : List Char) (plain : Bool) : Tag :=
  match p.tag with
  | Option.none => if plain then .ofPlain text else .text
  | some uri => if uri = "!" then .ofPlain text else .ofUri uri

def collectionTag (p : Properties) (usual : Tag) : Tag :=
  match p.tag with
  | Option.none => usual
  | some uri => if uri = "!" then usual else .ofUri uri

end Properties

/-- What an open mapping waits for. -/
inductive PairStage where
  /-- A key or the end; in a flow mapping also a node without a colon. -/
  | start
  | key
  /-- The colon after a key. -/
  | colon (key : Node)
  | value (key : Node)
  /-- The comma after a member of a flow collection, or the end. -/
  | comma

/-- What an open block sequence waits for. -/
inductive ItemStage where
  | dash
  | item

/-- An open collection with its members so far, last first. -/
inductive OpenNode where
  | blockSequence (p : Properties) (items : List Node) (stage : ItemStage)
  /-- A sequence whose dashes stand at the column of the mapping around it. -/
  | flushSequence (p : Properties) (items : List Node) (stage : ItemStage)
  | blockMapping (p : Properties) (entries : List (Node × Node)) (stage : PairStage)
  /-- A member of a flow sequence may be a single pair, whose stages the sequence keeps. -/
  | flowSequence (p : Properties) (items : List Node) (stage : PairStage)
  | flowMapping (p : Properties) (entries : List (Node × Node)) (stage : PairStage)

/-- How far a text has been read outside of collections. -/
inductive Root where
  | start
  /-- Directives have been read: whether a version is among them, and the handles. -/
  | directives (version : Bool) (handles : List (String × String))
  /-- The node of the document is due; after a marker it may be missing. -/
  | content (marked : Bool)
  | complete (n : Node)
  | closed (n : Node)
  | ended (n : Option Node)

/-- The state of making nodes. -/
structure Assembly where
  root : Root
  /-- The open collections, innermost first. -/
  openNodes : List OpenNode
  pending : Properties
  /-- The nodes that aliases can name. An open collection is entered without its members. -/
  anchors : List (String × Node)
  /-- What the tag handles stand for. -/
  handles : List (String × String)

namespace Assembly

def usualHandles : List (String × String) := [("!", "!"), ("!!", Tag.standard)]

def start : Assembly := ⟨.start, [], .none, [], usualHandles⟩

/-- Which tokens may begin a node at some place, and which mean that none is written there. -/
structure Due where
  block : Bool
  flush : Bool
  /-- The tokens before which a node may be missing. -/
  mayMiss : Token → Bool

/-- Whether a token ends a key or a value in a block mapping. -/
def endsPair (t : Token) : Bool := t = .key || t = .value || t = .blockEnd

def duePair : Due := ⟨true, true, endsPair⟩

/-- The node that is due, if the innermost open collection waits for one. -/
def due? (a : Assembly) : Option Due :=
  match a.openNodes with
  | .blockSequence _ _ .item :: _ =>
    some ⟨true, false, fun t => t = .blockEntry || t = .blockEnd⟩
  | .flushSequence _ _ .item :: _ => some ⟨true, false, fun t => t = .blockEntry || endsPair t⟩
  | .blockMapping _ _ .key :: _ => some duePair
  | .blockMapping _ _ (.value _) :: _ => some duePair
  | .flowSequence _ _ .start :: _ => some ⟨false, false, fun _ => false⟩
  | .flowSequence _ _ .key :: _ =>
    some ⟨false, false, fun t => t = .value || t = .flowEntry || t = .flowSequenceEnd⟩
  | .flowSequence _ _ (.value _) :: _ =>
    some ⟨false, false, fun t => t = .flowEntry || t = .flowSequenceEnd⟩
  | .flowMapping _ _ .start :: _ => some ⟨false, false, fun _ => false⟩
  | .flowMapping _ _ .key :: _ =>
    some ⟨false, false, fun t => t = .value || t = .flowEntry || t = .flowMappingEnd⟩
  | .flowMapping _ _ (.value _) :: _ =>
    some ⟨false, false, fun t => t = .flowEntry || t = .flowMappingEnd⟩
  | _ :: _ => none
  | [] =>
    match a.root with
    | .content marked =>
      some ⟨true, false, fun t =>
        marked && match t with
          | .directive _ | .documentStart | .documentEnd | .textEnd => true
          | _ => false⟩
    | _ => none

/-! ### Nodes -/

/-- Gives a finished node to the innermost open collection, or to the document. -/
def place (a : Assembly) (n : Node) : Except Fault Assembly :=
  let into (o : OpenNode) (rest : List OpenNode) : Except Fault Assembly :=
    .ok { a with openNodes := o :: rest, pending := .none }
  match a.openNodes with
  | .blockSequence p items .item :: rest => into (.blockSequence p (n :: items) .dash) rest
  | .flushSequence p items .item :: rest => into (.flushSequence p (n :: items) .dash) rest
  | .blockMapping p entries .key :: rest => into (.blockMapping p entries (.colon n)) rest
  | .blockMapping p entries (.value k) :: rest =>
    into (.blockMapping p ((k, n) :: entries) .start) rest
  | .flowSequence p items .start :: rest => into (.flowSequence p (n :: items) .comma) rest
  | .flowSequence p items .key :: rest => into (.flowSequence p items (.colon n)) rest
  | .flowSequence p items (.value k) :: rest =>
    into (.flowSequence p (.mapping .mapping [(k, n)] :: items) .comma) rest
  | .flowMapping p entries .start :: rest =>
    into (.flowMapping p ((n, .missing) :: entries) .comma) rest
  | .flowMapping p entries .key :: rest => into (.flowMapping p entries (.colon n)) rest
  | .flowMapping p entries (.value k) :: rest =>
    into (.flowMapping p ((k, n) :: entries) .comma) rest
  | [] =>
    match a.root with
    | .content _ => .ok { a with root := .complete n, pending := .none }
    | _ => .error .malformed
  | _ => .error .malformed

/-- Enters a node under an anchor, which must be new. -/
def enter (a : Assembly) (anchor : Option String) (n : Node) : Except Fault Assembly :=
  match anchor with
  | none => .ok a
  | some name =>
    if (a.anchors.lookup name).isSome then .error .malformed
    else .ok { a with anchors := (name, n) :: a.anchors }

def scalar (a : Assembly) (text : List Char) (plain : Bool) : Except Fault Assembly := do
  let n := Node.scalar (a.pending.scalarTag text plain) text
  (← a.enter a.pending.anchor n).place n

/-- Opens a collection, which is empty so far. -/
def openWith (a : Assembly) (usual : Tag) (empty : Tag → Node)
    (make : Properties → OpenNode) : Except Fault Assembly := do
  let p := a.pending
  let a ← a.enter p.anchor (empty (p.collectionTag usual))
  return { a with openNodes := make p :: a.openNodes, pending := .none }

def openSequence (a : Assembly) (make : Properties → OpenNode) : Except Fault Assembly :=
  a.openWith .sequence (Node.sequence · []) make

def openMapping (a : Assembly) (make : Properties → OpenNode) : Except Fault Assembly :=
  a.openWith .mapping (Node.mapping · []) make

def closeWith (a : Assembly) (p : Properties) (n : Node) : Except Fault Assembly :=
  let anchors := match p.anchor with
    | none => a.anchors
    | some name => a.anchors.map fun e => if e.1 = name then (name, n) else e
  { a with openNodes := a.openNodes.drop 1, anchors := anchors }.place n

def closeSequence (a : Assembly) (p : Properties) (items : List Node) : Except Fault Assembly :=
  a.closeWith p (.sequence (p.collectionTag .sequence) items.reverse)

def closeMapping (a : Assembly) (p : Properties) (entries : List (Node × Node)) :
    Except Fault Assembly :=
  a.closeWith p (.mapping (p.collectionTag .mapping) entries.reverse)

/-! ### Tokens between nodes -/

def setTop (a : Assembly) (o : OpenNode) : Except Fault Assembly :=
  .ok { a with openNodes := o :: a.openNodes.drop 1 }

def pairStart (a : Assembly) (p : Properties) (entries : List (Node × Node)) (t : Token) :
    Except Fault Assembly :=
  match t with
  | .key => a.setTop (.blockMapping p entries .key)
  | .blockEnd => a.closeMapping p entries
  | _ => .error .malformed

/-- Takes a token where a block mapping waits for a key or a colon. -/
def blockPair (a : Assembly) (t : Token) : Except Fault Assembly :=
  match a.openNodes with
  | .blockMapping p entries .start :: _ => a.pairStart p entries t
  | .blockMapping p entries (.colon k) :: _ =>
    if t = .value then a.setTop (.blockMapping p entries (.value k))
    else a.pairStart p ((k, .missing) :: entries) t
  | _ => .error .malformed

def sequenceComma (a : Assembly) (p : Properties) (items : List Node) (t : Token) :
    Except Fault Assembly :=
  match t with
  | .flowEntry => a.setTop (.flowSequence p items .start)
  | .flowSequenceEnd => a.closeSequence p items
  | _ => .error .malformed

def mappingComma (a : Assembly) (p : Properties) (entries : List (Node × Node)) (t : Token) :
    Except Fault Assembly :=
  match t with
  | .flowEntry => a.setTop (.flowMapping p entries .start)
  | .flowMappingEnd => a.closeMapping p entries
  | _ => .error .malformed

/-- Adds a directive to those that have been read. There is at most one version, of which the first
number is 1, and each handle is set at most once. -/
def addDirective (a : Assembly) (version : Bool) (handles : List (String × String))
    (d : Directive) : Except Fault Assembly :=
  match d with
  | .version major _ =>
    if version || major ≠ 1 then .error .malformed
    else .ok { a with root := .directives true handles }
  | .handle name target =>
    if (handles.lookup name).isSome then .error .malformed
    else .ok { a with root := .directives version ((name, target) :: handles) }
  | .other => .ok { a with root := .directives version handles }

/-- Takes a token outside of collections where no node is due. -/
def atRoot (a : Assembly) (t : Token) : Except Fault Assembly :=
  match a.root, t with
  | .start, .directive d => a.addDirective false [] d
  | .start, .documentStart => .ok { a with root := .content true }
  | .start, .textEnd => .ok { a with root := .ended none }
  | .directives version handles, .directive d => a.addDirective version handles d
  | .directives _ handles, .documentStart =>
    .ok { a with root := .content true, handles := handles ++ usualHandles }
  | .complete n, .documentEnd => .ok { a with root := .closed n }
  | .complete n, .textEnd => .ok { a with root := .ended (some n) }
  | .closed n, .documentEnd => .ok { a with root := .closed n }
  | .closed n, .textEnd => .ok { a with root := .ended (some n) }
  | _, _ => .error .malformed

/-- Takes a token where no node is due. A sequence at the column of its mapping ends at the first
token that is no dash, which the mapping then takes. -/
def between (a : Assembly) (t : Token) : Except Fault Assembly :=
  match a.openNodes with
  | [] => a.atRoot t
  | .blockSequence p items .dash :: _ =>
    match t with
    | .blockEntry => a.setTop (.blockSequence p items .item)
    | .blockEnd => a.closeSequence p items
    | _ => .error .malformed
  | .flushSequence p items .dash :: _ =>
    if t = .blockEntry then a.setTop (.flushSequence p items .item)
    else do
      let a ← a.closeSequence p items
      a.blockPair t
  | .blockMapping .. :: _ => a.blockPair t
  | .flowSequence p items .comma :: _ => a.sequenceComma p items t
  | .flowSequence p items (.colon k) :: _ =>
    if t = .value then a.setTop (.flowSequence p items (.value k))
    else a.sequenceComma p (.mapping .mapping [(k, .missing)] :: items) t
  | .flowMapping p entries .comma :: _ => a.mappingComma p entries t
  | .flowMapping p entries (.colon k) :: _ =>
    if t = .value then a.setTop (.flowMapping p entries (.value k))
    else a.mappingComma p ((k, .missing) :: entries) t
  | _ => .error .malformed

/-! ### Tokens at nodes -/

def expand (a : Assembly) : TagText → Except Fault String
  | .full uri => .ok uri
  | .short handle suffix =>
    match a.handles.lookup handle with
    | some target => .ok (target ++ suffix)
    | none => .error .malformed

/-- Takes a token that begins no node where one is due. -/
def miss (a : Assembly) (d : Due) (t : Token) : Except Fault Assembly :=
  if a.pending.isSome || d.mayMiss t then do
    let a ← a.scalar [] true
    a.between t
  else
    match a.openNodes, t with
    | .flowSequence p items .start :: _, .key => a.setTop (.flowSequence p items .key)
    | .flowSequence p items .start :: _, .flowSequenceEnd => a.closeSequence p items
    | .flowMapping p entries .start :: _, .key => a.setTop (.flowMapping p entries .key)
    | .flowMapping p entries .start :: _, .flowMappingEnd => a.closeMapping p entries
    | _, _ => .error .malformed

def node (a : Assembly) (d : Due) (t : Token) : Except Fault Assembly :=
  match t with
  | .anchor name =>
    if a.pending.anchor.isSome then .error .malformed
    else .ok { a with pending := { a.pending with anchor := some name } }
  | .tag text =>
    if a.pending.tag.isSome then .error .malformed
    else do
      let uri ← a.expand text
      return { a with pending := { a.pending with tag := some uri } }
  | .alias name =>
    if a.pending.isSome then .error .malformed
    else match a.anchors.lookup name with
      | some n => a.place n
      | none => .error .malformed
  | .scalar text plain => a.scalar text.toList plain
  | .flowSequence => a.openSequence (.flowSequence · [] .start)
  | .flowMapping => a.openMapping (.flowMapping · [] .start)
  | .blockSequence =>
    if d.block then a.openSequence (.blockSequence · [] .dash) else a.miss d t
  | .blockMapping =>
    if d.block then a.openMapping (.blockMapping · [] .start) else a.miss d t
  | .blockEntry =>
    if d.flush then a.openSequence (.flushSequence · [] .item) else a.miss d t
  | _ => a.miss d t

/-- Whether the first token of a text begins the node of a document that no marker opens. -/
def beginsContent : Token → Bool
  | .directive _ | .documentStart | .textEnd => false
  | _ => true

def take (a : Assembly) (t : Token) : Except Fault Assembly :=
  let a := match a.root with
    | .start => if beginsContent t then { a with root := .content false } else a
    | _ => a
  match t with
  | .fault f => .error f
  | _ =>
    match a.due? with
    | some d => a.node d t
    | none => a.between t

end Assembly

/-- The node of the one document that some tokens make; nothing if they hold no document. -/
def Node.ofTokens (ts : List Token) : Except Fault (Option Node) := do
  let a ← ts.foldlM Assembly.take Assembly.start
  match a.root with
  | .ended n => return n
  | _ => throw .malformed

end FileMode.Document
