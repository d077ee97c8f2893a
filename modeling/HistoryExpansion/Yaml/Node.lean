import HistoryExpansion.Yaml.Scanner
import HistoryExpansion.Yaml.Tag

/-!
# YAML nodes

The tree that a YAML text writes. `Node.ofTokens` reads one node off the front of the tokens;
`Node.parse` reads the only document of a text. An alias is read as a copy of the node that it
refers to, so limits keep a short text from standing for a huge tree.
-/

namespace HistoryExpansion.Yaml

/-- A node of a YAML document. An alias is read as the node that it refers to. -/
inductive Node where
  /-- A text with the way it was written. -/
  | scalar (tag : Option Tag) (style : Style) (text : String)
  /-- A list of nodes. -/
  | sequence (items : List Node)
  /-- Keys with their values, in the order they were written. -/
  | mapping (entries : List (Node × Node))
  deriving Repr

namespace Node

/-! ## Equality -/

mutual

/-- Whether two nodes are equal. -/
def decEq : (node node' : Node) → Decidable (node = node')
  | .scalar tag style text, .scalar tag' style' text' =>
    decidable_of_iff (tag = tag' ∧ style = style' ∧ text = text') (scalar.injEq ..).symm.to_iff
  | .sequence items, .sequence items' =>
    have := decEqItems items items'
    decidable_of_iff (items = items') (sequence.injEq ..).symm.to_iff
  | .mapping entries, .mapping entries' =>
    have := decEqEntries entries entries'
    decidable_of_iff (entries = entries') (mapping.injEq ..).symm.to_iff
  | .scalar .., .sequence _ | .scalar .., .mapping _ | .sequence _, .scalar ..
  | .sequence _, .mapping _ | .mapping _, .scalar .. | .mapping _, .sequence _ => isFalse nofun

/-- Whether some nodes are equal in the same order. -/
def decEqItems : (items items' : List Node) → Decidable (items = items')
  | [], [] => isTrue rfl
  | item :: items, item' :: items' =>
    have := decEq item item'
    have := decEqItems items items'
    decidable_of_iff (item = item' ∧ items = items') (List.cons.injEq ..).symm.to_iff
  | [], _ :: _ | _ :: _, [] => isFalse nofun

/-- Whether some keys and values are equal in the same order. -/
def decEqEntries : (entries entries' : List (Node × Node)) → Decidable (entries = entries')
  | [], [] => isTrue rfl
  | (key, value) :: entries, (key', value') :: entries' =>
    have := decEq key key'
    have := decEq value value'
    have := decEqEntries entries entries'
    decidable_of_iff ((key = key' ∧ value = value') ∧ entries = entries') (by simp)
  | [], _ :: _ | _ :: _, [] => isFalse nofun

end

instance : DecidableEq Node := decEq

/-- The node of a place where nothing is written. -/
def blank : Node := scalar none .plain ""

mutual

/-- The size of a node: one for a scalar and two for the ends of a collection. -/
def size : Node → Nat
  | .scalar _ _ _ => 1
  | .sequence items => sizeOfItems items + 2
  | .mapping entries => sizeOfEntries entries + 2

/-- The size of some nodes. -/
def sizeOfItems : List Node → Nat
  | [] => 0
  | item :: items => size item + sizeOfItems items

/-- The size of some keys and values. -/
def sizeOfEntries : List (Node × Node) → Nat
  | [] => 0
  | (key, value) :: entries => size key + size value + sizeOfEntries entries

end

/-! ## Reading -/

/-- A place among the tokens of a document. -/
structure Reading where
  /-- The tokens not yet read. -/
  tokens : List Token
  /-- What the handles of tags stand for. -/
  handles : Handles := []
  /-- The names that anchors have given, latest first, each with its number. -/
  names : List (String × Nat) := []
  /-- The nodes that have been read to their ends, by the numbers of their anchors. -/
  nodes : List (Nat × Node) := []
  /-- The number of aliases read. -/
  aliases : Nat := 0
  /-- The size of all nodes that aliases were read as. -/
  copied : Nat := 0
  /-- The number of open collections. -/
  depth : Nat := 0

/-- What is written before a node. -/
structure Properties where
  /-- Its tag. -/
  tag : Option Tag := none
  /-- The number of its anchor. -/
  anchor : Option Nat := none

/-- Whether nothing is written before a node. -/
def Properties.isEmpty (properties : Properties) : Bool :=
  properties.tag.isNone && properties.anchor.isNone

namespace Reading

/-- The greatest number of open collections. -/
def deepest : Nat := 2000

/-- The greatest size of all nodes that aliases are read as. -/
def mostCopied : Nat := 1000000

/-- The place with other tokens ahead. -/
def withTokens (tokens : List Token) (r : Reading) : Reading :=
  { r with tokens := tokens }

/-- The place within a collection that starts before some tokens. -/
def enter (tokens : List Token) (r : Reading) : Option Reading :=
  if r.depth ≥ deepest then none else some { r with tokens := tokens, depth := r.depth + 1 }

/-- The place behind a collection, at its end. -/
def leave (r : Reading) : Reading :=
  { r with depth := r.depth - 1 }

/-- Gives a name to the node that follows. Any earlier node of the name is forgotten. -/
def addName (name : String) (r : Reading) : Nat × Reading :=
  (r.names.length, { r with names := (name, r.names.length) :: r.names })

/-- The node that a name refers to. A node cannot be referred to from within. -/
def refer (name : String) (r : Reading) : Option (Node × Reading) :=
  match (r.names.lookup name).bind fun number => r.nodes.lookup number with
  | none => none
  | some node =>
    let copied := r.copied + node.size
    if copied > mostCopied then none
    else some (node, { r with aliases := r.aliases + 1, copied := copied })

/-- Notes that the node with some properties has been read to its end. -/
def note (properties : Properties) (node : Node) (r : Reading) : Node × Reading :=
  match properties.anchor with
  | none => (node, r)
  | some number => (node, { r with nodes := (number, node) :: r.nodes })

/-- Reads an anchor, if there is one. -/
def takeAnchor (r : Reading) : Option Nat × Reading :=
  match r.tokens with
  | .anchor name :: tokens =>
    let (number, r) := r.addName name
    (some number, r.withTokens tokens)
  | _ => (none, r)

/-- Reads a tag, if there is one. -/
def takeTag (r : Reading) : Option (Option Tag × Reading) :=
  match r.tokens with
  | .tag handle suffix :: tokens =>
    (r.handles.tag? handle suffix).map fun tag => (some tag, r.withTokens tokens)
  | _ => some (none, r)

/-- Reads the tag and the anchor before a node, each at most once and in either order. -/
def takeProperties (r : Reading) : Option (Properties × Reading) :=
  let (before, r) := r.takeAnchor
  match r.takeTag with
  | none => none
  | some (tag, r) =>
    if before.isSome || tag.isNone then some (⟨tag, before⟩, r)
    else
      let (behind, r) := r.takeAnchor
      some (⟨tag, behind⟩, r)

/-- The greatest number of aliases that may refer to few anchors. -/
def freeAliases : Nat := 99

/-- The number of aliases for each anchor that are not too many. -/
def aliasesPerAnchor : Nat := 10

/-- Whether there are too many aliases for the number of anchors. -/
def overused (r : Reading) : Bool :=
  decide (r.aliases > freeAliases) && decide (r.aliases > aliasesPerAnchor * r.names.length)

end Reading

/-- The scalar with some properties. An empty one between quotes counts as unquoted if it has an
anchor. -/
def Properties.scalar (properties : Properties) (style : Style) (text : String) : Node :=
  let quoted := style == .single || style == .double
  if properties.anchor.isSome && text.isEmpty && quoted then .scalar properties.tag .plain text
  else .scalar properties.tag style text

/-! ## Ends -/

/-- Whether a token ends the value of a block mapping before it has started. -/
def endsBlockValue : Token → Bool
  | .key | .value | .blockEnd => true
  | _ => false

/-- Whether a token ends an item of a block sequence before it has started. -/
def endsBlockItem : Token → Bool
  | .blockEntry | .blockEnd => true
  | _ => false

/-- Whether a token ends an item of an unindented sequence before it has started. -/
def endsFlatItem : Token → Bool
  | .blockEntry | .key | .value | .blockEnd => true
  | _ => false

/-- Whether a token ends the key of a flow mapping before it has started. -/
def endsFlowKey : Token → Bool
  | .value | .flowEntry | .flowMappingEnd => true
  | _ => false

/-- Whether a token ends the value of a flow mapping before it has started. -/
def endsFlowValue : Token → Bool
  | .flowEntry | .flowMappingEnd => true
  | _ => false

/-- Whether a token stands in place of the key of an entry in a flow sequence. -/
def isPairKey : Token → Bool
  | .value | .flowEntry | .flowSequenceEnd => true
  | _ => false

/-- Whether a token ends the value of an entry in a flow sequence before it has started. -/
def endsPairValue : Token → Bool
  | .flowEntry | .flowSequenceEnd => true
  | _ => false

/-! ## Nodes -/

mutual

/-- Reads a node. Outside of flow collections it may be a block collection, and as the value of a
block mapping a sequence need not be indented. -/
def ofTokens : (fuel : Nat) → (block flat : Bool) → Reading → Option (Node × Reading)
  | 0, _, _, _ => none
  | fuel + 1, block, flat, r =>
    match r.tokens with
    | .alias name :: tokens => (r.withTokens tokens).refer name
    | _ =>
      match r.takeProperties with
      | none => none
      | some (properties, r) =>
        let collection (tokens : List Token) (read : Reading → Option (Node × Reading)) :
            Option (Node × Reading) :=
          ((r.enter tokens).bind read).map fun (node, r) => r.leave.note properties node
        match r.tokens with
        | .scalar style text :: tokens =>
          some ((r.withTokens tokens).note properties (properties.scalar style text))
        | .flowSequenceStart :: tokens => collection tokens (flowItems fuel true)
        | .flowMappingStart :: tokens => collection tokens (flowEntries fuel true)
        | .blockSequenceStart :: tokens =>
          if block then collection tokens (blockItems fuel false) else none
        | .blockMappingStart :: tokens =>
          if block then collection tokens (blockEntries fuel) else none
        | tokens =>
          if flat && tokens.head? == some .blockEntry then collection tokens (blockItems fuel true)
          else if properties.isEmpty then none
          else some (r.note properties (properties.scalar .plain ""))

/-- Reads a node unless one of the given tokens comes first, which leaves the place blank. -/
def ofTokensUnless (ends : Token → Bool) : (fuel : Nat) → (block flat : Bool) → Reading →
    Option (Node × Reading)
  | 0, _, _, _ => none
  | fuel + 1, block, flat, r =>
    match r.tokens with
    | [] => none
    | token :: _ => if ends token then some (blank, r) else ofTokens fuel block flat r

/-- Reads the items of a block sequence. One that is not indented ends before any other token. -/
def blockItems : (fuel : Nat) → (flat : Bool) → Reading → Option (Node × Reading)
  | 0, _, _ => none
  | fuel + 1, flat, r =>
    match r.tokens with
    | .blockEntry :: tokens =>
      match ofTokensUnless (if flat then endsFlatItem else endsBlockItem) fuel true false
        (r.withTokens tokens) with
      | none => none
      | some (item, r) =>
        match blockItems fuel flat r with
        | some (sequence items, r) => some (sequence (item :: items), r)
        | _ => none
    | .blockEnd :: tokens =>
      if flat then some (sequence [], r) else some (sequence [], r.withTokens tokens)
    | _ => if flat then some (sequence [], r) else none

/-- Reads the entries of a block mapping. -/
def blockEntries : (fuel : Nat) → Reading → Option (Node × Reading)
  | 0, _ => none
  | fuel + 1, r =>
    let key? :=
      match r.tokens with
      | .key :: tokens => ofTokensUnless endsBlockValue fuel true true (r.withTokens tokens)
      | .value :: _ => some (blank, r)
      | _ => none
    match r.tokens with
    | .blockEnd :: tokens => some (mapping [], r.withTokens tokens)
    | _ =>
      match key? with
      | none => none
      | some (key, r) =>
        let value? :=
          match r.tokens with
          | .value :: tokens => ofTokensUnless endsBlockValue fuel true true (r.withTokens tokens)
          | _ => some (blank, r)
        match value? with
        | none => none
        | some (value, r) =>
          match blockEntries fuel r with
          | some (mapping entries, r) => some (mapping ((key, value) :: entries), r)
          | _ => none

/-- Reads the items of a flow sequence; an entry of a mapping among them is a mapping of its own. -/
def flowItems : (fuel : Nat) → (first : Bool) → Reading → Option (Node × Reading)
  | 0, _, _ => none
  | fuel + 1, first, r =>
    match r.tokens with
    | .flowSequenceEnd :: tokens => some (sequence [], r.withTokens tokens)
    | tokens =>
      let tokens? :=
        if first then some tokens
        else
          match tokens with
          | .flowEntry :: tokens => some tokens
          | _ => none
      match tokens? with
      | none => none
      | some (.flowSequenceEnd :: tokens) => some (sequence [], r.withTokens tokens)
      | some tokens =>
        let item? :=
          match tokens with
          | .key :: tokens =>
            ((r.enter tokens).bind (flowPair fuel)).map fun (pair, r) => (pair, r.leave)
          | tokens => ofTokens fuel false false (r.withTokens tokens)
        match item? with
        | none => none
        | some (item, r) =>
          match flowItems fuel false r with
          | some (sequence items, r) => some (sequence (item :: items), r)
          | _ => none

/-- Reads a single entry among the items of a flow sequence, from behind the mark of its key. A
token that stands in place of the key is passed over. -/
def flowPair : (fuel : Nat) → Reading → Option (Node × Reading)
  | 0, _ => none
  | fuel + 1, r =>
    let key? :=
      match r.tokens with
      | [] => none
      | token :: tokens =>
        if isPairKey token then some (blank, r.withTokens tokens) else ofTokens fuel false false r
    match key? with
    | none => none
    | some (key, r) =>
      match r.tokens with
      | .value :: tokens =>
        match ofTokensUnless endsPairValue fuel false false (r.withTokens tokens) with
        | none => none
        | some (value, r) => some (mapping [(key, value)], r)
      | _ => some (mapping [(key, blank)], r)

/-- Reads the entries of a flow mapping. A key that nothing marks for one has no value. -/
def flowEntries : (fuel : Nat) → (first : Bool) → Reading → Option (Node × Reading)
  | 0, _, _ => none
  | fuel + 1, first, r =>
    match r.tokens with
    | .flowMappingEnd :: tokens => some (mapping [], r.withTokens tokens)
    | tokens =>
      let tokens? :=
        if first then some tokens
        else
          match tokens with
          | .flowEntry :: tokens => some tokens
          | _ => none
      match tokens? with
      | none => none
      | some (.flowMappingEnd :: tokens) => some (mapping [], r.withTokens tokens)
      | some tokens =>
        let r := r.withTokens tokens
        let key? :=
          match tokens with
          | .key :: tokens => ofTokensUnless endsFlowKey fuel false false (r.withTokens tokens)
          | .value :: _ => some (blank, r)
          | _ => ofTokens fuel false false r
        match key? with
        | none => none
        | some (key, r) =>
          let marked :=
            match tokens with
            | .key :: _ | .value :: _ => true
            | _ => false
          let value? :=
            match r.tokens with
            | .value :: tokens =>
              if marked then ofTokensUnless endsFlowValue fuel false false (r.withTokens tokens)
              else none
            | _ => some (blank, r)
          match value? with
          | none => none
          | some (value, r) =>
            match flowEntries fuel false r with
            | some (mapping entries, r) => some (mapping ((key, value) :: entries), r)
            | _ => none

end

/-! ## Documents -/

/-- What the tokens of a text hold. -/
inductive Stream where
  /-- No document. -/
  | empty
  /-- A document, with its node and the place behind it. -/
  | document (node : Node) (behind : Reading)
  /-- No YAML. -/
  | broken

/-- Drops the markers of ended documents. -/
def dropEnds (tokens : List Token) : List Token :=
  tokens.dropWhile (· = .documentEnd)

/-- Reads the directives before a document. The version of YAML must not be given twice. -/
def takeDirectives : (versionGiven : Bool) → Handles → List Token → Option (Handles × List Token)
  | versionGiven, _, .directive directive :: tokens =>
    if directive = .version ∧ versionGiven then none
    else
      takeDirectives (versionGiven || directive = .version) (Handles.ofDirective directive) tokens
  | _, handles, tokens => some (handles, tokens)

/-- Reads the node of a document, from behind its marker if it has one. -/
def readDocument (marked : Bool) (handles : Handles) (tokens : List Token) : Stream :=
  let r : Reading := { tokens := tokens, handles := handles }
  match tokens with
  | .streamEnd :: _ | .documentStart :: _ | .documentEnd :: _ | .directive _ :: _ =>
    if marked then .document blank r else .broken
  | tokens =>
    match ofTokens (3 * tokens.length + 3) true false r with
    | none => .broken
    | some (node, r) => .document node r

/-- Reads the first document. Directives must stand before a marked document. -/
def Stream.read (tokens : List Token) : Stream :=
  match dropEnds tokens with
  | .streamEnd :: _ => .empty
  | .documentStart :: rest => readDocument true [] rest
  | .directive directive :: rest =>
    match takeDirectives false [] (.directive directive :: rest) with
    | some (handles, .documentStart :: rest) => readDocument true handles rest
    | _ => .broken
  | tokens => readDocument false [] tokens

/-- Whether a document starts at some tokens, even one that then is found not to be YAML. -/
def startsDocument (tokens : List Token) : Bool :=
  match tokens with
  | .streamEnd :: _ | .broken :: _ | [] => false
  | .directive _ :: _ =>
    match takeDirectives false [] tokens with
    | some (_, .documentStart :: _) => true
    | _ => false
  | _ => true

/-- Whether what stands behind the first document counts: whether a second document starts there.
Anything else behind the end of a document is passed over, be it YAML or not, but a text that is not
YAML from within the document on is refused. -/
def continues : List Token → Bool
  | .broken :: _ | .documentStart :: _ | .directive _ :: _ => true
  | .documentEnd :: rest => startsDocument (dropEnds rest)
  | _ => false

/-- The node of the only document of a text. A text without documents has a blank one. -/
def parse (text : List Char) : Option Node :=
  match Stream.read (tokens text) with
  | .empty => some blank
  | .broken => none
  | .document node behind =>
    if continues behind.tokens || behind.overused then none else some node

end Node

end HistoryExpansion.Yaml
