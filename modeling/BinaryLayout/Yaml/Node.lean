import BinaryLayout.Yaml.Tokens

/-!
# Documents

A document is a tree of scalars, sequences and mappings. Anchors are numbered, and an alias stands for
the last node with its number.
-/

namespace BinaryLayout.Yaml

inductive Node
  | scalar (anchor : Option Nat) (tag : Option (List UInt8)) (style : ScalarStyle) (text : String)
  | sequence (anchor : Option Nat) (items : List Node)
  | mapping (anchor : Option Nat) (pairs : List (Node × Node))
  | alias (number : Nat)
deriving Repr

namespace Node

/-- A node that is not written out. -/
def empty : Node :=
  .scalar none none .plain ""

mutual

/-- The nodes with an anchor, each before those inside it. -/
def anchored : Node → List (Nat × Node)
  | .scalar (some number) tag style text => [(number, .scalar (some number) tag style text)]
  | .scalar none _ _ _ => []
  | .sequence (some number) items => (number, .sequence (some number) items) :: anchoredItems items
  | .sequence none items => anchoredItems items
  | .mapping (some number) pairs => (number, .mapping (some number) pairs) :: anchoredPairs pairs
  | .mapping none pairs => anchoredPairs pairs
  | .alias _ => []

def anchoredItems : List Node → List (Nat × Node)
  | [] => []
  | item :: rest => anchored item ++ anchoredItems rest

def anchoredPairs : List (Node × Node) → List (Nat × Node)
  | [] => []
  | (key, value) :: rest => anchored key ++ anchored value ++ anchoredPairs rest

end

mutual

/-- The number of scalars and aliases, and of starts and ends of collections. -/
def size : Node → Nat
  | .scalar _ _ _ _ => 1
  | .sequence _ items => 2 + sizeItems items
  | .mapping _ pairs => 2 + sizePairs pairs
  | .alias _ => 1

def sizeItems : List Node → Nat
  | [] => 0
  | item :: rest => size item + sizeItems rest

def sizePairs : List (Node × Node) → Nat
  | [] => 0
  | (key, value) :: rest => size key + size value + sizePairs rest

end

end Node

/-- What is known between two nodes. -/
structure Parse where
  tokens : List Token
  /-- The starts of tags by their handles. -/
  handles : List (String × List UInt8)
  /-- The anchors by their names. -/
  anchors : List (String × Nat) := []

abbrev Parser := StateT Parse (Except Problem)

namespace Parser

/-- The next token. -/
def peek : Parser Token := do
  return ((← get).tokens.head?).getD .streamEnd

def skip : Parser Unit :=
  modify fun parse ↦ { parse with tokens := parse.tokens.tail }

/-- The bytes of a tag whose handle is known. -/
def resolve (tag : Tag) : Parser (List UInt8) := do
  if tag.handle.isEmpty then return tag.suffix
  match (← get).handles.lookup tag.handle with
  | some start => return start ++ tag.suffix
  | none => throw (.unknownHandle tag.handle)

/-- Numbers an anchor: as many names as there are have come before it. -/
def mark (name : Option String) : Parser (Option Nat) := do
  match name with
  | none => return none
  | some name =>
    let anchors := (← get).anchors
    let number := anchors.length
    let known := anchors.filter fun (other, _) ↦ other != name
    modify fun parse ↦ { parse with anchors := known ++ [(name, number)] }
    return some number

/-- The anchor and the tag before a node, in either order. -/
def properties : Parser (Option String × Option Tag) := do
  match ← peek with
  | .anchor name =>
    skip
    match ← peek with
    | .tag found => skip; return (some name, some found)
    | _ => return (some name, none)
  | .tag found =>
    skip
    match ← peek with
    | .anchor name => skip; return (some name, some found)
    | _ => return (none, some found)
  | _ => return (none, none)

def aliasNode (name : String) : Parser Node := do
  match (← get).anchors.lookup name with
  | some number => skip; return .alias number
  | none => throw (.unknownAnchor name)

/-- An empty node if the next token is one of those given, and else what `read` reads. -/
def emptyBefore (tokens : List Token) (read : Parser Node) : Parser Node := do
  if tokens.contains (← peek) then return Node.empty else read

mutual

/-- A node. Block collections can stand only where `inBlock` holds, and a sequence that is not indented
only where `indentless` holds. -/
def node (fuel : Nat) (inBlock indentless : Bool) : Parser Node := do
  match fuel with
  | 0 => throw .contentExpected
  | fuel + 1 =>
    match ← peek with
    | .alias name => aliasNode name
    | _ =>
      let (name, written) ← properties
      let tag ← written.mapM resolve
      let absent : Parser Node := do
        if name.isNone && tag.isNone then throw .contentExpected
        return .scalar (← mark name) tag .plain ""
      match ← peek with
      | .scalar style text => skip; return .scalar (← mark name) tag style text
      | .flowSequenceStart =>
        let number ← mark name
        skip
        return .sequence number (← flowItems fuel true)
      | .flowMappingStart =>
        let number ← mark name
        skip
        return .mapping number (← flowPairs fuel true)
      | .blockEntry =>
        if !indentless then absent
        else
          let number ← mark name
          return .sequence number (← indentlessItems fuel)
      | .blockSequenceStart =>
        if !inBlock then absent
        else
          let number ← mark name
          skip
          return .sequence number (← blockItems fuel)
      | .blockMappingStart =>
        if !inBlock then absent
        else
          let number ← mark name
          skip
          return .mapping number (← blockPairs fuel)
      | _ => absent

def blockItems (fuel : Nat) : Parser (List Node) := do
  match fuel with
  | 0 => throw .entryExpected
  | fuel + 1 =>
    match ← peek with
    | .blockEntry =>
      skip
      let item ← emptyBefore [.blockEntry, .blockEnd] (node fuel true false)
      return item :: (← blockItems fuel)
    | .blockEnd => skip; return []
    | _ => throw .entryExpected

def indentlessItems (fuel : Nat) : Parser (List Node) := do
  match fuel with
  | 0 => throw .entryExpected
  | fuel + 1 =>
    match ← peek with
    | .blockEntry =>
      skip
      let item ← emptyBefore [.blockEntry, .key, .value, .blockEnd] (node fuel true false)
      return item :: (← indentlessItems fuel)
    | _ => return []

def blockPairs (fuel : Nat) : Parser (List (Node × Node)) := do
  match fuel with
  | 0 => throw .keyExpected
  | fuel + 1 =>
    let read := emptyBefore [.key, .value, .blockEnd] (node fuel true true)
    match ← peek with
    | .key =>
      skip
      let key ← read
      match ← peek with
      | .value =>
        skip
        let value ← read
        return (key, value) :: (← blockPairs fuel)
      | _ => return (key, Node.empty) :: (← blockPairs fuel)
    | .blockEnd => skip; return []
    | _ => throw .keyExpected

/-- The items of a flow sequence. A comma stands before each but the first. -/
def flowItems (fuel : Nat) (first : Bool) : Parser (List Node) := do
  match fuel with
  | 0 => throw .separatorExpected
  | fuel + 1 =>
    match ← peek with
    | .flowSequenceEnd => skip; return []
    | token =>
      if !first then
        if token == .flowEntry then skip else throw .separatorExpected
      match ← peek with
      | .flowSequenceEnd => skip; return []
      | .key =>
        skip
        let pair ← flowPair fuel
        return .mapping none [pair] :: (← flowItems fuel false)
      | _ =>
        let item ← node fuel false false
        return item :: (← flowItems fuel false)

/-- A pair that is an item of a flow sequence. A key that is not written out takes the next token. -/
def flowPair (fuel : Nat) : Parser (Node × Node) := do
  match fuel with
  | 0 => throw .contentExpected
  | fuel + 1 =>
    let key ←
      if [Token.value, .flowEntry, .flowSequenceEnd].contains (← peek) then do skip; pure Node.empty
      else node fuel false false
    match ← peek with
    | .value =>
      skip
      return (key, ← emptyBefore [.flowEntry, .flowSequenceEnd] (node fuel false false))
    | _ => return (key, Node.empty)

/-- The pairs of a flow mapping. A comma stands before each but the first. -/
def flowPairs (fuel : Nat) (first : Bool) : Parser (List (Node × Node)) := do
  match fuel with
  | 0 => throw .separatorExpected
  | fuel + 1 =>
    match ← peek with
    | .flowMappingEnd => skip; return []
    | token =>
      if !first then
        if token == .flowEntry then skip else throw .separatorExpected
      match ← peek with
      | .flowMappingEnd => skip; return []
      | .key =>
        skip
        let key ← emptyBefore [.value, .flowEntry, .flowMappingEnd] (node fuel false false)
        match ← peek with
        | .value =>
          skip
          let value ← emptyBefore [.flowEntry, .flowMappingEnd] (node fuel false false)
          return (key, value) :: (← flowPairs fuel false)
        | _ => return (key, Node.empty) :: (← flowPairs fuel false)
      | _ =>
        let key ← node fuel false false
        return (key, Node.empty) :: (← flowPairs fuel false)

end

/-- The directives of a document: whether a version has been given, and the handles. -/
def directives (version : Bool) (handles : List (String × List UInt8)) :
    List Token → Except Problem (List (String × List UInt8) × List Token)
  | .version major minor :: rest =>
    if version then .error .repeatedDirective
    else if major = 1 ∧ (minor = 1 ∨ minor = 2) then directives true handles rest
    else .error (.unsupportedVersion major minor)
  | .tagDirective handle start :: rest =>
    if (handles.lookup handle).isSome then .error .repeatedDirective
    else directives version (handles ++ [(handle, start)]) rest
  | rest => .ok (handles, rest)

/-- The handles that need no directive. -/
def defaultHandles : List (String × List UInt8) :=
  [("!", "!".toUTF8.toList), ("!!", "tag:yaml.org,2002:".toUTF8.toList)]

/-- Checks that no other document follows. -/
def finish : List Token → Except Problem Unit
  | .documentEnd :: rest => finish rest
  | .streamEnd :: _ => .ok ()
  | [] => .ok ()
  | _ => .error .severalDocuments

/-- The only node of the tokens, and nothing behind it. No node is deeper than there are tokens, and
each of them is reached in two steps. -/
def whole (handles : List (String × List UInt8)) (tokens : List Token) : Except Problem Node := do
  let fuel := 2 * tokens.length + 2
  let (root, parse) ← (node fuel true false).run { tokens, handles := handles ++ defaultHandles }
  finish parse.tokens
  return root

end Parser

/-- A document. That of an empty text has no root. -/
structure Document where
  root : Option Node

namespace Document

/-- The document of a list of tokens. -/
def ofTokens (tokens : List Token) : Except Problem Document := do
  match tokens with
  | [] | .streamEnd :: _ => return ⟨none⟩
  | .version _ _ :: _ | .tagDirective _ _ :: _ | .documentStart :: _ =>
    let (handles, rest) ← Parser.directives false [] tokens
    match rest with
    | .documentStart :: content =>
      match content with
      | .version _ _ :: _ | .tagDirective _ _ :: _ | .documentStart :: _ | .documentEnd :: _
      | .streamEnd :: _ =>
        Parser.finish content
        return ⟨some Node.empty⟩
      | _ => return ⟨some (← Parser.whole handles content)⟩
    | _ => throw .documentStartExpected
  | _ => return ⟨some (← Parser.whole [] tokens)⟩

def ofText (text : String) : Except Problem Document := do
  ofTokens (← tokens text)

end Document

/-- What the aliases of a document stand for. -/
structure Aliases where
  /-- The nodes with an anchor by its number, from the last of the document. -/
  targets : List (Nat × Node)
  /-- How often aliases may be followed. -/
  limit : Nat

def Aliases.ofRoot (root : Node) : Aliases :=
  ⟨root.anchored.reverse, 100 * root.size⟩

end BinaryLayout.Yaml
