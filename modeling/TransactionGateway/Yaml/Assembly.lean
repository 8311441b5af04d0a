import TransactionGateway.Yaml.Node
import TransactionGateway.Yaml.Scan

/-! # From tokens to a document

* **Document.** A text holds one document at most, with directives only above a start mark. What
  comes after the document is an end mark at most.
* **Nodes.** An anchor and a tag, in either order, come before what they label; without anything to
  label they label an empty scalar. What is left out of an entry is an empty scalar.
* **Tags.** A handle has to be one that abbreviates something.
* **Single pairs.** A key inside the brackets of a sequence makes a mapping of one entry.
* **Faults.** What comes before a fault is assembled all the same. A part that has been assembled
  comes with the way it goes on: the state behind it, or the fault that ends it (`Part`). -/

namespace TransactionGateway.Yaml

open TransactionGateway.Text

/-- The tokens still to come, what ends them, what tag handles abbreviate, and the numbers of the
anchors so far. -/
structure Assembly where
  tokens : List PlacedToken
  ending : Except Fault Position
  handles : List (List Char × Octets)
  anchors : List (List Char × Nat) := []

/-- What has been assembled, and how it goes on. -/
abbrev Part (α : Type) := α × Except Fault Assembly

namespace Part

variable {α β : Type}

/-- A part from which it goes on. -/
def whole (a : α) (c : Assembly) : Part α := (a, .ok c)

/-- A part at whose end there is a fault. -/
def struck (a : α) (f : Fault) : Part α := (a, .error f)

/-- The part as a part of another one. -/
def map (f : α → β) (p : Part α) : Part β := (f p.1, p.2)

/-- One part and the next; `alone` is what the first makes up when it ends with a fault. -/
def next (p : Part α) (alone : α → Fault → β) (rest : α → Assembly → Part β) : Part β :=
  match p with
  | (a, .ok c) => rest a c
  | (a, .error f) => struck (alone a f) f

@[simp] theorem next_whole (a : α) (c : Assembly) (alone : α → Fault → β)
    (rest : α → Assembly → Part β) : (whole a c).next alone rest = rest a c := rfl

end Part

namespace Assembly

/-- The assembly without the next token. -/
def skip (c : Assembly) : Assembly := { c with tokens := c.tokens.tail }

/-- What is made of the next token, or of the fault that comes instead. The end of the text is a
token that never passes. -/
def ask {α : Type} (ifStruck : Fault → α) (c : Assembly) (go : PlacedToken → Part α) : Part α :=
  match c.tokens, c.ending with
  | t :: _, _ => go t
  | [], .ok p => go ⟨.textEnd, p, p⟩
  | [], .error f => .struck (ifStruck f) f

/-- The number of different names of the anchors so far. -/
def names (c : Assembly) : Nat := (c.anchors.map (·.1)).eraseDups.length

/-- The assembly with one more anchor, and its number. -/
def withAnchor (name : List Char) (c : Assembly) : Nat × Assembly :=
  (c.names, { c with anchors := (name, c.names) :: c.anchors })

/-- A problem at a token, in something that began at a position. -/
def problemAt (t : PlacedToken) (p : Problem) (activity : Activity) (since : Position) : Fault :=
  .problem p t.start (some (activity, since))

/-! ### Labels -/

/-- What comes before a node: where it begins, its anchor, and its tag as it is written, with the
place of the tag. -/
structure Written where
  start : Position
  anchor : Option (List Char) := none
  tag : Option (WrittenTag × Position) := none
deriving DecidableEq, Repr

/-- The anchor and the tag that come next, each at most once, and the tokens behind them. -/
def written : Written → List PlacedToken → Written × List PlacedToken
  | w, [] => (w, [])
  | w, t :: rest =>
    match t.token, w.anchor, w.tag with
    | .anchor name, none, _ => written { w with anchor := some name } rest
    | .tag tag, _, none => written { w with tag := some (tag, t.start) } rest
    | _, _, _ => (w, t :: rest)

/-- The tag that a written tag stands for. -/
def tagOf (t : WrittenTag) (c : Assembly) : Option Octets :=
  if t.handle = [] then some t.suffix else (c.handles.lookup t.handle).map (· ++ t.suffix)

/-- The tag of a node. -/
def tagOfWritten (w : Written) (c : Assembly) : Except Fault (Option Octets) :=
  match w.tag with
  | none => .ok none
  | some (t, position) =>
    match c.tagOf t with
    | some tag => .ok (some tag)
    | none => .error (.problem .unknownHandle position (some (.node, w.start)))

/-- The label of a node, and the assembly in which its anchor is known. -/
def label (w : Written) (c : Assembly) : Except Fault (Label × Assembly) := do
  let tag ← c.tagOfWritten w
  match w.anchor with
  | none => return ({ tag, start := w.start }, c)
  | some name =>
    let (n, c) := c.withAnchor name
    return ({ tag, anchor := some n, start := w.start }, c)

/-- The label says something. -/
def isLabelled (label : Label) : Bool := label.tag.isSome || label.anchor.isSome

/-! ### Nodes -/

/-- A token ends the part of an entry that a block collection leaves out. -/
def endsBlockPart : Token → Bool
  | .key | .value | .blockEnd => true
  | _ => false

/-- A token ends an entry of a block sequence that is left out. -/
def endsBlockEntry (indentless : Bool) : Token → Bool
  | .entry | .blockEnd => true
  | .key | .value => indentless
  | _ => false

/-- A token ends a value inside brackets that is left out. -/
def endsFlowValue (close : Token) (t : Token) : Bool := t == .separator || t == close

/-- A token ends a key inside brackets that is left out. -/
def endsFlowKey (close : Token) (t : Token) : Bool := t == .value || endsFlowValue close t

/-- The entries of a mapping that is cut before a key. -/
def cutEntries (f : Fault) : List (Node × Node) := [(.cut f, .cut f)]

mutual

/-- The node that comes next; a block collection only where `inBlock`, and a block sequence without
an indentation of its own only where `indentless`. -/
def node : Nat → (inBlock indentless : Bool) → Assembly → Part Node
  | 0, _, _, c => .whole (.missing {}) c
  | n + 1, inBlock, indentless, c =>
    c.ask .cut fun first =>
      match first.token with
      | .reference name =>
        match c.anchors.lookup name with
        | some k => .whole (.reference k) c.skip
        | none => .struck (.cut (.unknownAnchor first.start)) (.unknownAnchor first.start)
      | _ =>
        let (w, tokens) := written { start := first.start } c.tokens
        let c := { c with tokens }
        c.ask .cut fun t =>
          match c.label w with
          | .error f => .struck (.cut f) f
          | .ok (label, c) => content n inBlock indentless label t c

/-- What a label labels, which begins with a token. -/
def content : Nat → (inBlock indentless : Bool) → Label → PlacedToken → Assembly → Part Node
  | 0, _, _, _, _, c => .whole (.missing {}) c
  | n + 1, inBlock, indentless, label, t, c =>
    match t.token with
    | .scalar text style => .whole (.scalar label (String.ofList text) style) c.skip
    | .flowSequenceStart => (flowItems n t.start true c.skip).map (.sequence label)
    | .flowMappingStart => (flowEntries n t.start true c.skip).map (.mapping label)
    | token =>
      match inBlock, indentless, token with
      | _, true, .entry => (blockItems n t.start true c).map (.sequence label)
      | true, _, .sequenceStart => (blockItems n t.start false c.skip).map (.sequence label)
      | true, _, .mappingStart => (blockEntries n t.start c.skip).map (.mapping label)
      | _, _, _ =>
        if isLabelled label then .whole (.scalar label "" .plain) c
        else
          let f := problemAt t .noContent (if inBlock then .blockNode else .flowNode) t.start
          .struck (.cut f) f

/-- The items of a block sequence that began at a position. -/
def blockItems : Nat → (since : Position) → (indentless : Bool) → Assembly →
    Part (List Node)
  | 0, _, _, c => .whole [] c
  | n + 1, since, indentless, c =>
    c.ask (fun f => [.cut f]) fun t =>
      match t.token with
      | .entry =>
        let c := c.skip
        (c.ask .cut fun u =>
            if endsBlockEntry indentless u.token then .whole (.missing t.finish) c
            else node n true false c).next
          (fun x _ => [x]) fun x c => (blockItems n since indentless c).map (x :: ·)
      | .blockEnd => .whole [] (if indentless then c else c.skip)
      | _ =>
        if indentless then .whole [] c
        else
          let f := problemAt t .noEntry .blockSequence since
          .struck [.cut f] f

/-- The entries of a block mapping that began at a position. -/
def blockEntries : Nat → (since : Position) → Assembly → Part (List (Node × Node))
  | 0, _, c => .whole [] c
  | n + 1, since, c =>
    c.ask cutEntries fun t =>
      match t.token with
      | .key =>
        let c := c.skip
        (c.ask .cut fun u =>
            if endsBlockPart u.token then .whole (.missing t.finish) c
            else node n true true c).next
          (fun k f => [(k, .cut f)]) fun k c => blockValue n since k c
      | .blockEnd => .whole [] c.skip
      | _ =>
        let f := problemAt t .noKey .blockMapping since
        .struck (cutEntries f) f

/-- The value of a key in a block mapping, and the entries after it. -/
def blockValue : Nat → (since : Position) → Node → Assembly → Part (List (Node × Node))
  | 0, _, _, c => .whole [] c
  | n + 1, since, k, c =>
    (c.ask .cut fun t =>
        match t.token with
        | .value =>
          let c := c.skip
          c.ask .cut fun u =>
            if endsBlockPart u.token then .whole (.missing t.finish) c else node n true true c
        | _ => .whole (.missing t.start) c).next
      (fun v _ => [(k, v)]) fun v c => (blockEntries n since c).map ((k, v) :: ·)

/-- The items of a flow sequence that began at a position. -/
def flowItems : Nat → (since : Position) → (first : Bool) → Assembly → Part (List Node)
  | 0, _, _, c => .whole [] c
  | n + 1, since, first, c =>
    c.ask (fun f => [.cut f]) fun t =>
      match first, t.token with
      | _, .flowSequenceEnd => .whole [] c.skip
      | true, _ => flowItem n since c
      | false, .separator => flowItem n since c.skip
      | false, _ =>
        let f := problemAt t .noSequenceEnd .flowSequence since
        .struck [.cut f] f

/-- An item of a flow sequence, or its end, and the items after it. -/
def flowItem : Nat → (since : Position) → Assembly → Part (List Node)
  | 0, _, c => .whole [] c
  | n + 1, since, c =>
    c.ask (fun f => [.cut f]) fun t =>
      match t.token with
      | .flowSequenceEnd => .whole [] c.skip
      | .key =>
        ((flowPair n c.skip).map fun pair => Node.mapping { start := t.start } [pair]).next
          (fun x _ => [x]) fun x c => (flowItems n since false c).map (x :: ·)
      | _ =>
        (node n false false c).next
          (fun x _ => [x]) fun x c => (flowItems n since false c).map (x :: ·)

/-- The single pair behind the key's token in a flow sequence. -/
def flowPair : Nat → Assembly → Part (Node × Node)
  | 0, c => .whole (.missing {}, .missing {}) c
  | n + 1, c =>
    (c.ask .cut fun t =>
        if endsFlowKey .flowSequenceEnd t.token then .whole (.missing t.finish) c.skip
        else node n false false c).next
      (fun k f => (k, .cut f)) fun k c => (flowValue n .flowSequenceEnd c).map (k, ·)

/-- The value behind a key inside brackets. -/
def flowValue : Nat → (close : Token) → Assembly → Part Node
  | 0, _, c => .whole (.missing {}) c
  | n + 1, close, c =>
    c.ask .cut fun t =>
      match t.token with
      | .value =>
        let c := c.skip
        c.ask .cut fun u =>
          if endsFlowValue close u.token then .whole (.missing u.start) c
          else node n false false c
      | _ => .whole (.missing t.start) c

/-- The entries of a flow mapping that began at a position. -/
def flowEntries : Nat → (since : Position) → (first : Bool) → Assembly →
    Part (List (Node × Node))
  | 0, _, _, c => .whole [] c
  | n + 1, since, first, c =>
    c.ask cutEntries fun t =>
      match first, t.token with
      | _, .flowMappingEnd => .whole [] c.skip
      | true, _ => flowEntry n since c
      | false, .separator => flowEntry n since c.skip
      | false, _ =>
        let f := problemAt t .noMappingEnd .flowMapping since
        .struck (cutEntries f) f

/-- An entry of a flow mapping, or its end, and the entries after it. -/
def flowEntry : Nat → (since : Position) → Assembly → Part (List (Node × Node))
  | 0, _, c => .whole [] c
  | n + 1, since, c =>
    c.ask cutEntries fun t =>
      match t.token with
      | .flowMappingEnd => .whole [] c.skip
      | .key =>
        let c := c.skip
        (c.ask .cut fun u =>
            if endsFlowKey .flowMappingEnd u.token then .whole (.missing u.start) c
            else node n false false c).next
          (fun k f => [(k, .cut f)]) fun k c =>
            (flowValue n .flowMappingEnd c).next
              (fun v _ => [(k, v)]) fun v c => (flowEntries n since false c).map ((k, v) :: ·)
      | _ =>
        (node n false false c).next (fun k f => [(k, .cut f)]) fun k c =>
          (c.ask .cut fun u => .whole (Node.missing u.start) c).next
            (fun v _ => [(k, v)]) fun v c => (flowEntries n since false c).map ((k, v) :: ·)

end

/-! ### Documents -/

/-- What tag handles abbreviate when no directive says otherwise. -/
def commonHandles : List (List Char × Octets) :=
  [(['!'], octetsOf ['!']), (['!', '!'], octetsOf "tag:yaml.org,2002:".toList)]

/-- What the directives that come next let tag handles abbreviate, and the tokens behind them: at
most one version, which is 1.1 or 1.2, and at most one tag directive for each handle. -/
def directives : (versioned : Bool) → List (List Char × Octets) → List PlacedToken →
    Except Fault (List (List Char × Octets) × List PlacedToken)
  | _, handles, [] => .ok (handles, [])
  | versioned, handles, t :: rest =>
    match t.token with
    | .directive (.version major minor) =>
      if versioned then .error (.problem .secondVersion t.start none)
      else if major != 1 || (minor != 1 && minor != 2) then
        .error (.problem .otherVersion t.start none)
      else directives true handles rest
    | .directive (.tag handle stands) =>
      if (handles.lookup handle).isSome then .error (.problem .secondHandle t.start none)
      else directives versioned ((handle, stands) :: handles) rest
    | _ => .ok (handles, t :: rest)

/-- A token ends a document that is left out. -/
def endsDocument : Token → Bool
  | .directive _ | .documentStart | .documentEnd | .textEnd => true
  | _ => false

/-- More than marks of a document's end comes next. -/
def goesOn (c : Assembly) : Bool := c.tokens.any (·.token != .documentEnd) || !c.ending.isOk

/-- A document that is nothing but a fault. -/
def broken (f : Fault) : Document := { root := some (.cut f), fault := some f }

/-- The document of a root and what comes after it. -/
def documentOf : Part Node → Document
  | (x, .error f) => { root := some x, fault := some f }
  | (x, .ok c) =>
    match c.tokens, c.ending with
    | [], .error f => { root := some x, fault := some f }
    | _, _ => { root := some x, isFollowed := c.goesOn }

/-- The calls of the readers of nodes that some tokens need at most. -/
def enoughFor (tokens : List PlacedToken) : Nat := 8 * tokens.length + 8

/-- The node of a whole document. -/
def root (c : Assembly) : Part Node := node (enoughFor c.tokens) true false c

/-- The document below its directives. -/
def explicitDocument (c : Assembly) : Document :=
  documentOf (c.ask .cut fun t =>
    match t.token with
    | .documentStart =>
      let c := c.skip
      c.ask .cut fun u =>
        if endsDocument u.token then .whole (.missing u.start) c else root c
    | _ =>
      let f := .problem .noDocumentStart t.start none
      .struck (.cut f) f)

end Assembly

/-- The document that a run of tokens makes up. -/
def TokenRun.document (r : TokenRun) : Document :=
  match r.tokens, r.ending with
  | [], .ok p => { root := none, finish := p }
  | [], .error f => Assembly.broken f
  | t :: _, _ =>
    match t.token with
    | .directive _ | .documentStart =>
      match Assembly.directives false [] r.tokens with
      | .error f => Assembly.broken f
      | .ok (handles, tokens) =>
        Assembly.explicitDocument
          { tokens, ending := r.ending, handles := handles ++ Assembly.commonHandles }
    | _ =>
      Assembly.documentOf (Assembly.root
        { tokens := r.tokens, ending := r.ending, handles := Assembly.commonHandles })

/-- The document of a text. -/
def Document.ofText (text : String) : Document := (TokenRun.ofText text).document

end TransactionGateway.Yaml
