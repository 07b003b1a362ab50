import ShardStore.Document.Layout
import ShardStore.Document.Node

/-!
# From tokens to trees

Reading the tokens of exactly one document as a tree. A second document, an alias without an anchor before it and a tag
handle that stands for nothing are refused, as is everything that does not fit together.
-/

namespace ShardStore

/-- The tokens that are left, and the anchors so far. -/
structure TreeState where
  tokens : List Token
  /-- The slot of each anchor that was met, the first one last. -/
  anchors : List (String × Nat) := []

/-- Reading a part of a tree. -/
abbrev TreeReader := StateT TreeState (Except Malformed)

namespace TreeReader

/-- The next token; the last one of a text is never passed. -/
def peek : TreeReader Token := do
  match (← get).tokens with
  | t :: _ => return t
  | [] => throw ⟨default⟩

/-- Passes the next token. -/
def advance : TreeReader Unit := modify fun s => { s with tokens := s.tokens.tail }

/-- Refuses the next token. -/
def refuse {α : Type} : TreeReader α := do throw ⟨(← peek).start⟩

/-- Passes the next token if it is of some kind. -/
def skipIf (p : TokenKind → Bool) : TreeReader Bool := do
  if p (← peek).kind then
    advance
    return true
  else return false

/-- Whether the next token is one of these. -/
def nextIn (kinds : List TokenKind) : TreeReader Bool := return kinds.contains (← peek).kind

/-! ## Anchors and tags -/

/-- The slot of an anchor that is met now: the number of different anchors before it. -/
def takeSlot (name : String) : TreeReader Nat := do
  let s ← get
  let slot := s.anchors.length
  let others := s.anchors.filter (·.1 ≠ name)
  set { s with anchors := (name, slot) :: others }
  return slot

/-- The slot that an alias names. -/
def slotOf (name : String) : TreeReader Nat := do
  match (← get).anchors.lookup name with
  | some slot => return slot
  | none => refuse

/-- What is written in front of a node. -/
structure Properties where
  anchor : Option String := none
  tag : Option (String × String) := none

/-- Reads an anchor and a tag, in either order. -/
def properties : TreeReader Properties := do
  match (← peek).kind with
  | .anchor name =>
    advance
    match (← peek).kind with
    | .tag handle suffix => advance; return { anchor := some name, tag := some (handle, suffix) }
    | _ => return { anchor := some name }
  | .tag handle suffix =>
    advance
    match (← peek).kind with
    | .anchor name => advance; return { anchor := some name, tag := some (handle, suffix) }
    | _ => return { tag := some (handle, suffix) }
  | _ => return {}

/-- The tag handles that need no directive. -/
def defaultHandles : List (String × String) := [("!", "!"), ("!!", "tag:yaml.org,2002:")]

/-- The full text of a tag. -/
def resolveTag (handles : List (String × String)) (handle suffix : String) : TreeReader String :=
  if handle.isEmpty then return suffix
  else
    match handles.lookup handle with
    | some text => return text ++ suffix
    | none => refuse

/-- The mark of a node that starts at `pos` with some properties. -/
def markOf (handles : List (String × String)) (pos : Position) (p : Properties) : TreeReader NodeMark := do
  let tag ← p.tag.mapM fun (handle, suffix) => resolveTag handles handle suffix
  let slot ← p.anchor.mapM takeSlot
  return { pos, slot, tag }

/-! ## Nodes -/

mutual

/-- Reads a node. Block collections are allowed only where `block` holds; `dashes` allows the dashes of a sequence in the
column of the mapping around it. `fuel` bounds the tokens that are read. -/
def node (handles : List (String × String)) (fuel : Nat) (block dashes : Bool) : TreeReader Node := do
  match fuel with
  | 0 => refuse
  | fuel + 1 =>
    let t ← peek
    if let .alias name := t.kind then
      let slot ← slotOf name
      advance
      return .alias slot
    let p ← properties
    let mark ← markOf handles t.start p
    match (← peek).kind, block, dashes with
    | .entry, _, true => return .sequence mark (← dashItems handles fuel)
    | .scalar style text, _, _ => advance; return .scalar mark style text
    | .openBracket, _, _ => advance; return .sequence mark (← flowItems handles fuel true)
    | .openBrace, _, _ => advance; return .mapping mark (← flowEntries handles fuel true)
    | .blockSequence, true, _ => advance; return .sequence mark (← blockItems handles fuel)
    | .blockMapping, true, _ => advance; return .mapping mark (← blockEntries handles fuel)
    | _, _, _ => if p.anchor.isSome || p.tag.isSome then return .scalar mark .plain "" else refuse

/-- Reads a node of a block, unless one of the given tokens comes next: then nothing stands at `pos`. -/
def blockNode (handles : List (String × String)) (fuel : Nat) (stops : List TokenKind) (dashes : Bool)
    (pos : Position) : TreeReader Node := do
  match fuel with
  | 0 => refuse
  | fuel + 1 => if ← nextIn stops then return .empty pos else node handles fuel true dashes

/-- Reads the items of a block sequence to its end. -/
def blockItems (handles : List (String × String)) (fuel : Nat) : TreeReader (List Node) := do
  match fuel with
  | 0 => refuse
  | fuel + 1 =>
    let t ← peek
    if ← skipIf (· == .blockEnd) then return []
    if ← skipIf (· == .entry) then
      let item ← blockNode handles fuel [.entry, .blockEnd] false t.stop
      return item :: (← blockItems handles fuel)
    refuse

/-- Reads items as long as there are dashes. -/
def dashItems (handles : List (String × String)) (fuel : Nat) : TreeReader (List Node) := do
  match fuel with
  | 0 => refuse
  | fuel + 1 =>
    let t ← peek
    if ← skipIf (· == .entry) then
      let item ← blockNode handles fuel [.entry, .key, .value, .blockEnd] false t.stop
      return item :: (← dashItems handles fuel)
    return []

/-- Reads the entries of a block mapping to its end. -/
def blockEntries (handles : List (String × String)) (fuel : Nat) : TreeReader (List (Node × Node)) := do
  match fuel with
  | 0 => refuse
  | fuel + 1 =>
    let t ← peek
    if ← skipIf (· == .blockEnd) then return []
    if ← skipIf (· == .key) then
      let key ← blockNode handles fuel [.key, .value, .blockEnd] true t.stop
      let t ← peek
      let value ←
        if ← skipIf (· == .value) then blockNode handles fuel [.key, .value, .blockEnd] true t.stop
        else pure (.empty t.start)
      return (key, value) :: (← blockEntries handles fuel)
    refuse

/-- Reads a node inside brackets, unless one of the given tokens comes next: then nothing stands there. -/
def flowNode (handles : List (String × String)) (fuel : Nat) (stops : List TokenKind) : TreeReader Node := do
  match fuel with
  | 0 => refuse
  | fuel + 1 => if ← nextIn stops then return .empty (← peek).start else node handles fuel false false

/-- Reads the value behind a key inside brackets that close with `close`. -/
def flowValue (handles : List (String × String)) (fuel : Nat) (close : TokenKind) : TreeReader Node := do
  match fuel with
  | 0 => refuse
  | fuel + 1 =>
    if ← skipIf (· == .value) then flowNode handles fuel [.comma, close]
    else return .empty (← peek).start

/-- Reads the items of a bracketed sequence to its end. An item with a key is a mapping of one entry; a missing key takes
the token after it with it. -/
def flowItems (handles : List (String × String)) (fuel : Nat) (first : Bool) : TreeReader (List Node) := do
  match fuel with
  | 0 => refuse
  | fuel + 1 =>
    if ← skipIf (· == .closeBracket) then return []
    if !first then
      if !(← skipIf (· == .comma)) then refuse
    let t ← peek
    if ← skipIf (· == .closeBracket) then return []
    if ← skipIf (· == .key) then
      let after ← peek
      let key ←
        if ← nextIn [.value, .comma, .closeBracket] then
          advance
          pure (.empty after.stop)
        else node handles fuel false false
      let value ← flowValue handles fuel .closeBracket
      return .mapping { pos := t.start } [(key, value)] :: (← flowItems handles fuel false)
    let item ← node handles fuel false false
    return item :: (← flowItems handles fuel false)

/-- Reads the entries of a mapping in braces to its end. An entry without a key token has no value. -/
def flowEntries (handles : List (String × String)) (fuel : Nat) (first : Bool) : TreeReader (List (Node × Node)) := do
  match fuel with
  | 0 => refuse
  | fuel + 1 =>
    if ← skipIf (· == .closeBrace) then return []
    if !first then
      if !(← skipIf (· == .comma)) then refuse
    if ← skipIf (· == .closeBrace) then return []
    if ← skipIf (· == .key) then
      let key ← flowNode handles fuel [.value, .comma, .closeBrace]
      let value ← flowValue handles fuel .closeBrace
      return (key, value) :: (← flowEntries handles fuel false)
    let key ← node handles fuel false false
    let value := .empty (← peek).start
    return (key, value) :: (← flowEntries handles fuel false)

end

/-! ## Documents -/

/-- What the directives in front of a document say. -/
structure Directives where
  versioned : Bool := false
  handles : List (String × String) := []

/-- Reads the directives in front of a document. Only versions 1.1 and 1.2 are known, and nothing may be said twice. -/
def directives : Nat → Directives → TreeReader Directives
  | 0, _ => refuse
  | fuel + 1, d => do
    match (← peek).kind with
    | .version major minor =>
      if d.versioned || major ≠ 1 || !(minor == 1 || minor == 2) then refuse
      else
        advance
        directives fuel { d with versioned := true }
    | .handle name text =>
      if (d.handles.lookup name).isSome then refuse
      else
        advance
        directives fuel { d with handles := (name, text) :: d.handles }
    | _ => return d

/-- Whether a token can only stand outside documents. -/
def isOutside : TokenKind → Bool
  | .version .. | .handle .. | .documentStart | .documentEnd | .finish => true
  | _ => false

/-- Passes tokens of a kind. -/
def skipAll (p : TokenKind → Bool) : Nat → TreeReader Unit
  | 0 => return ()
  | fuel + 1 => do
    if ← skipIf p then skipAll p fuel

/-- Reads the only document of a text. Where there is none, nothing stands at the end of the text. -/
def document (fuel : Nat) : TreeReader Node := do
  let t ← peek
  let root ←
    if t.kind == .finish then pure (.empty t.start)
    else if isOutside t.kind && t.kind ≠ .documentEnd then do
      let d ← directives fuel {}
      if !(← skipIf (· == .documentStart)) then refuse
      let t ← peek
      if isOutside t.kind then pure (.empty t.start)
      else node (d.handles ++ defaultHandles) fuel true false
    else node defaultHandles fuel true false
  skipAll (· == .documentEnd) fuel
  if (← peek).kind == .finish then return root else refuse

end TreeReader

/-- Reads a text that is one document. -/
def Document.parse (text : String) : Except Malformed Document := do
  let tokens ← Token.ofText text
  let (root, _) ← (TreeReader.document (4 * tokens.length + 8)).run { tokens }
  return .ofRoot root

end ShardStore
