import FlowGraph.Yaml.Token

/-!
Nodes of structured text: scalars, sequences and mappings, each with its tag if
it has one. Nodes can have names, and a node can be given by its name.
-/

namespace FlowGraph.Yaml

inductive Node where
  | scalar (tag : Option (List Char)) (style : Style) (text : List Char)
  | sequence (tag : Option (List Char)) (items : List Node)
  | mapping (tag : Option (List Char)) (entries : List (Node × Node))
  /-- The node with this number. -/
  | alias (number : Nat)
deriving Inhabited

/-- A node that has a number. Of several nodes with one number, the one that
begins last has it; `place` counts the numbered nodes that begin before. -/
structure Target where
  number : Nat
  place : Nat
  node : Node
deriving Inhabited

/-- A node and what the numbers in it stand for. -/
structure Document where
  root : Node
  targets : List Target
deriving Inhabited

/-- The node that has a number. -/
def Document.target? (d : Document) (number : Nat) : Option Node :=
  let later (a b : Target) : Target := if a.place < b.place then b else a
  match d.targets.filter fun t => t.number = number with
  | [] => none
  | t :: ts => some (ts.foldl later t).node

namespace Node

/-- Where nothing is written. -/
def empty : Node :=
  .scalar none .plain []

mutual

/-- The number of scalars and numbers in a node, and of the beginnings and ends
of its collections. -/
def events : Node → Nat
  | .scalar _ _ _ => 1
  | .sequence _ items => eventsOfItems items + 2
  | .mapping _ entries => eventsOfEntries entries + 2
  | .alias _ => 1

def eventsOfItems : List Node → Nat
  | [] => 0
  | n :: items => events n + eventsOfItems items

def eventsOfEntries : List (Node × Node) → Nat
  | [] => 0
  | (key, n) :: entries => events key + events n + eventsOfEntries entries

end

/-- Names with their numbers, how many named nodes there were, and those that are
complete. A name gets as its number how many names there are, itself included if
it came up before; so two names can come to share a number. -/
structure Anchors where
  names : List (List Char × Nat) := []
  begun : Nat := 0
  targets : List Target := []

/-- What the handles of tags expand to. -/
abbrev Handles := List (List Char × List Char)

def standardHandles : Handles :=
  [(['!'], ['!']), (['!', '!'], "tag:yaml.org,2002:".toList)]

abbrev TokensLeft (ts : List Token) := { rest : List Token // rest.length ≤ ts.length }

abbrev TokensUnread (ts : List Token) := { rest : List Token // rest.length < ts.length }

def expandTag? (handles : Handles) (handle suffix : List Char) : Option (List Char) :=
  if handle.isEmpty then some suffix
  else (handles.lookup handle).map (· ++ suffix)

structure Properties where
  anchor : Option (List Char) := none
  tag : Option (List Char) := none

/-- An anchor and a tag, in either order, before a node. -/
def properties? (handles : Handles) (ts : List Token) : Option (Properties × TokensLeft ts) :=
  match ts with
  | .anchor name :: .tag handle suffix :: rest =>
    (expandTag? handles handle suffix).map fun tag =>
      ({ anchor := some name, tag := some tag }, ⟨rest, by simp only [List.length_cons]; omega⟩)
  | .tag handle suffix :: .anchor name :: rest =>
    (expandTag? handles handle suffix).map fun tag =>
      ({ anchor := some name, tag := some tag }, ⟨rest, by simp only [List.length_cons]; omega⟩)
  | .anchor name :: rest => some ({ anchor := some name }, ⟨rest, by simp⟩)
  | .tag handle suffix :: rest =>
    (expandTag? handles handle suffix).map fun tag => ({ tag := some tag }, ⟨rest, by simp⟩)
  | ts => some ({}, ⟨ts, by simp⟩)

/-- A node begins, and its name gets a number. -/
def Anchors.start (as : Anchors) (p : Properties) : Anchors :=
  match p.anchor with
  | some name =>
    { as with
      names := (name, as.names.length) :: as.names.filter (·.1 ≠ name)
      begun := as.begun + 1 }
  | none => as

/-- A node that began when the anchors were `before` is complete. -/
def Anchors.finish (as before : Anchors) (p : Properties) (node : Node) : Anchors :=
  match p.anchor with
  | some _ => { as with targets := ⟨before.names.length, before.begun, node⟩ :: as.targets }
  | none => as

/-- A scalar with its tag; the tag that says nothing is none. -/
def Properties.scalar (p : Properties) (style : Style) (text : List Char) : Node :=
  .scalar (p.tag.filter (· ≠ ['!'])) style text

def endsBlockKey : Token → Bool
  | .key | .value | .blockEnd => true
  | _ => false

def endsIndentless : Token → Bool
  | .blockEntry | .key | .value | .blockEnd => true
  | _ => false

def endsBlockItem : Token → Bool
  | .blockEntry | .blockEnd => true
  | _ => false

def endsFlowValue : Token → Bool
  | .flowEntry | .flowSequenceEnd | .flowMappingEnd => true
  | _ => false

def endsFlowKey (t : Token) : Bool :=
  t = .value || endsFlowValue t

/-- The comma between two items within brackets, or nothing before the first. -/
def afterComma? (first : Bool) (ts : List Token) : Option (TokensLeft ts) :=
  if first then some ⟨ts, by simp⟩
  else
    match ts with
    | .flowEntry :: rest => some ⟨rest, by simp⟩
    | _ => none

mutual

/-- A node. Block collections are only read where `block` says so, and a sequence
that is not indented only where `indentless` does. -/
def node? (hs : Handles) (block indentless : Bool) (as : Anchors) (ts : List Token) :
    Option ((Node × Anchors) × TokensUnread ts) :=
  match ts with
  | [] => none
  | .alias name :: rest =>
    (as.names.lookup name).map fun number => ((.alias number, as), ⟨rest, by simp⟩)
  | t :: more =>
    match properties? hs (t :: more) with
    | none => none
    | some (p, ⟨body, _⟩) =>
      let as' := as.start p
      match body with
      | .blockEntry :: rest =>
        if !indentless then none
        else
          match indentlessItems? hs as' (.blockEntry :: rest) with
          | none => none
          | some ((items, as''), ⟨after, _⟩) =>
            let node := .sequence p.tag items
            if h : after.length < (t :: more).length then
              some ((node, as''.finish as p node), ⟨after, h⟩)
            else none
      | .scalar style text :: rest =>
        let node := p.scalar style text
        some ((node, as'.finish as p node), ⟨rest, by simp only [List.length_cons] at *; omega⟩)
      | .flowSequence :: rest =>
        match flowItems? hs as' true rest with
        | none => none
        | some ((items, as''), ⟨after, _⟩) =>
          let node := .sequence p.tag items
          some ((node, as''.finish as p node),
            ⟨after, by simp only [List.length_cons] at *; omega⟩)
      | .flowMapping :: rest =>
        match flowEntries? hs as' true rest with
        | none => none
        | some ((entries, as''), ⟨after, _⟩) =>
          let node := .mapping p.tag entries
          some ((node, as''.finish as p node),
            ⟨after, by simp only [List.length_cons] at *; omega⟩)
      | .blockSequence :: rest =>
        if !block then none
        else
          match blockItems? hs as' rest with
          | none => none
          | some ((items, as''), ⟨after, _⟩) =>
            let node := .sequence p.tag items
            some ((node, as''.finish as p node),
              ⟨after, by simp only [List.length_cons] at *; omega⟩)
      | .blockMapping :: rest =>
        if !block then none
        else
          match blockEntries? hs as' rest with
          | none => none
          | some ((entries, as''), ⟨after, _⟩) =>
            let node := .mapping p.tag entries
            some ((node, as''.finish as p node),
              ⟨after, by simp only [List.length_cons] at *; omega⟩)
      | rest =>
        if h : rest.length < (t :: more).length then
          let node := p.scalar .plain []
          some ((node, as'.finish as p node), ⟨rest, h⟩)
        else none
termination_by 3 * ts.length + 1
decreasing_by all_goals (simp only [List.length_cons] at *; omega)

/-- A node, or nothing where one of the tokens stands that end it. -/
def nodeUnless? (ends : Token → Bool) (hs : Handles) (block indentless : Bool) (as : Anchors)
    (ts : List Token) : Option ((Node × Anchors) × TokensLeft ts) :=
  if ts.head?.any ends then some ((.empty, as), ⟨ts, by simp⟩)
  else
    match node? hs block indentless as ts with
    | none => none
    | some (found, ⟨after, _⟩) => some (found, ⟨after, by omega⟩)
termination_by 3 * ts.length + 2

/-- The value of a key, if there is one. -/
def valueOf? (ends : Token → Bool) (hs : Handles) (block : Bool) (as : Anchors)
    (ts : List Token) : Option ((Node × Anchors) × TokensLeft ts) :=
  match ts with
  | .value :: rest =>
    match nodeUnless? ends hs block block as rest with
    | none => none
    | some (found, ⟨after, _⟩) => some (found, ⟨after, by simp only [List.length_cons]; omega⟩)
  | ts => some ((.empty, as), ⟨ts, by simp⟩)
termination_by 3 * ts.length

/-- A key after its mark, and its value. -/
def entry? (endsKey endsValue : Token → Bool) (hs : Handles) (block : Bool) (as : Anchors)
    (ts : List Token) : Option (((Node × Node) × Anchors) × TokensLeft ts) :=
  match nodeUnless? endsKey hs block block as ts with
  | none => none
  | some ((key, as), ⟨middle, _⟩) =>
    match valueOf? endsValue hs block as middle with
    | none => none
    | some ((value, as), ⟨after, _⟩) => some (((key, value), as), ⟨after, by omega⟩)
termination_by 3 * ts.length + 3

def blockItems? (hs : Handles) (as : Anchors) (ts : List Token) :
    Option ((List Node × Anchors) × TokensUnread ts) :=
  match ts with
  | .blockEnd :: rest => some (([], as), ⟨rest, by simp⟩)
  | .blockEntry :: rest =>
    match nodeUnless? endsBlockItem hs true false as rest with
    | none => none
    | some ((node, as), ⟨middle, _⟩) =>
      match blockItems? hs as middle with
      | none => none
      | some ((items, as), ⟨after, _⟩) =>
        some ((node :: items, as), ⟨after, by simp only [List.length_cons]; omega⟩)
  | _ => none
termination_by 3 * ts.length
decreasing_by all_goals (simp only [List.length_cons]; omega)

def indentlessItems? (hs : Handles) (as : Anchors) (ts : List Token) :
    Option ((List Node × Anchors) × TokensLeft ts) :=
  match ts with
  | .blockEntry :: rest =>
    match nodeUnless? endsIndentless hs true false as rest with
    | none => none
    | some ((node, as), ⟨middle, _⟩) =>
      match indentlessItems? hs as middle with
      | none => none
      | some ((items, as), ⟨after, _⟩) =>
        some ((node :: items, as), ⟨after, by simp only [List.length_cons]; omega⟩)
  | ts => some (([], as), ⟨ts, by simp⟩)
termination_by 3 * ts.length
decreasing_by all_goals (simp only [List.length_cons]; omega)

def blockEntries? (hs : Handles) (as : Anchors) (ts : List Token) :
    Option ((List (Node × Node) × Anchors) × TokensUnread ts) :=
  match ts with
  | .blockEnd :: rest => some (([], as), ⟨rest, by simp⟩)
  | .key :: rest =>
    match entry? endsBlockKey endsBlockKey hs true as rest with
    | none => none
    | some ((entry, as), ⟨middle, _⟩) =>
      match blockEntries? hs as middle with
      | none => none
      | some ((entries, as), ⟨after, _⟩) =>
        some ((entry :: entries, as), ⟨after, by simp only [List.length_cons]; omega⟩)
  | _ => none
termination_by 3 * ts.length + 1
decreasing_by all_goals (simp only [List.length_cons]; omega)

/-- The items of a sequence in brackets. A key among them is a mapping of its
own. -/
def flowItems? (hs : Handles) (as : Anchors) (first : Bool) (ts : List Token) :
    Option ((List Node × Anchors) × TokensUnread ts) :=
  match ts with
  | .flowSequenceEnd :: rest => some (([], as), ⟨rest, by simp⟩)
  | ts =>
    match afterComma? first ts with
    | none => none
    | some ⟨[], _⟩ => none
    | some ⟨.flowSequenceEnd :: rest, _⟩ =>
      some (([], as), ⟨rest, by simp only [List.length_cons] at *; omega⟩)
    | some ⟨.key :: rest, _⟩ =>
      match entry? endsFlowKey endsFlowValue hs false as rest with
      | none => none
      | some ((entry, as), ⟨middle, _⟩) =>
        match flowItems? hs as false middle with
        | none => none
        | some ((items, as), ⟨after, _⟩) =>
          some ((.mapping none [entry] :: items, as),
            ⟨after, by simp only [List.length_cons] at *; omega⟩)
    | some ⟨t :: rest, _⟩ =>
      match node? hs false false as (t :: rest) with
      | none => none
      | some ((node, as), ⟨middle, _⟩) =>
        match flowItems? hs as false middle with
        | none => none
        | some ((items, as), ⟨after, _⟩) => some ((node :: items, as), ⟨after, by omega⟩)
termination_by 3 * ts.length + 2
decreasing_by all_goals (simp only [List.length_cons] at *; omega)

def flowEntries? (hs : Handles) (as : Anchors) (first : Bool) (ts : List Token) :
    Option ((List (Node × Node) × Anchors) × TokensUnread ts) :=
  match ts with
  | .flowMappingEnd :: rest => some (([], as), ⟨rest, by simp⟩)
  | ts =>
    match afterComma? first ts with
    | none => none
    | some ⟨[], _⟩ => none
    | some ⟨.flowMappingEnd :: rest, _⟩ =>
      some (([], as), ⟨rest, by simp only [List.length_cons] at *; omega⟩)
    | some ⟨.key :: rest, _⟩ =>
      match entry? endsFlowKey endsFlowValue hs false as rest with
      | none => none
      | some ((entry, as), ⟨middle, _⟩) =>
        match flowEntries? hs as false middle with
        | none => none
        | some ((entries, as), ⟨after, _⟩) =>
          some ((entry :: entries, as), ⟨after, by simp only [List.length_cons] at *; omega⟩)
    | some ⟨t :: rest, _⟩ =>
      match node? hs false false as (t :: rest) with
      | none => none
      | some ((key, as), ⟨middle, _⟩) =>
        match flowEntries? hs as false middle with
        | none => none
        | some ((entries, as), ⟨after, _⟩) =>
          some (((key, .empty) :: entries, as), ⟨after, by omega⟩)
termination_by 3 * ts.length + 2
decreasing_by all_goals (simp only [List.length_cons] at *; omega)

end

/-- Directives before a document, up to the mark that starts it, none of them
twice; `versioned` tells that the version was given. -/
def afterDirectives? (versioned : Bool) (hs : Handles) : List Token → Option (Handles × List Token)
  | .version :: ts => if versioned then none else afterDirectives? true hs ts
  | .tagHandle handle expansion :: ts =>
    if (hs.lookup handle).isSome then none
    else afterDirectives? versioned ((handle, expansion) :: hs) ts
  | .documentStart :: ts => some (hs, ts)
  | _ => none

def startsDocument : Token → Bool
  | .version | .tagHandle _ _ | .documentStart => true
  | _ => false

def endsDocument (t : Token) : Bool :=
  t = .documentEnd || startsDocument t

end Node

namespace Document

open Yaml.Node

/-- The one document that the tokens hold. -/
def ofTokens? (ts : List Token) : Option (Option Document) :=
  match ts with
  | [] => some none
  | t :: more =>
    let opened := if startsDocument t then afterDirectives? false [] (t :: more) else some ([], t :: more)
    match opened with
    | none => none
    | some (hs, body) =>
      let content :=
        if startsDocument t && body.head?.all endsDocument then some (⟨.empty, []⟩, body)
        else
          (node? (hs ++ standardHandles) true false {} body).map fun ((n, as), ⟨after, _⟩) =>
            (⟨n, as.targets⟩, after)
      match content with
      | none => none
      | some (d, after) =>
        if (after.dropWhile (· = .documentEnd)).isEmpty then some (some d) else none

/-- The document of a text: nothing in it if the text holds nothing, and no result
at all if it is malformed or holds more than one document. -/
def ofString? (text : String) : Option (Option Document) :=
  (tokens? text).bind ofTokens?

end Document

end FlowGraph.Yaml
