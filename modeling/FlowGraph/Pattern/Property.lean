import FlowGraph.Text.Age
import FlowGraph.Text.Break
import FlowGraph.Text.Script.Shared

/-!
Sets of characters by the names that patterns give them: a property, a category
or a script alone, or the value of a property that has several.
-/

namespace FlowGraph.Pattern

open Text (Category Property Script Version GraphemeBreak WordBreak SentenceBreak)

/-- The form in which names are compared: without case, blanks, dashes, low lines
and a leading "is". The name `isc` keeps its "is", for it does not mean `c`. -/
def looseName (name : List Char) : List Char :=
  let plain (cs : List Char) : List Char :=
    (cs.filter fun c => c.toNat < 0x80 && c ≠ ' ' && c ≠ '_' && c ≠ '-').map Char.toLower
  match name with
  | i :: s :: rest =>
    if i.toLower = 'i' && s.toLower = 's' then
      if plain rest = ['c'] then ['i', 's', 'c'] else plain rest
    else plain name
  | name => plain name

/-- Is a name, already in its loose form, one of these? -/
def isNamed (name : List Char) (names : List String) : Bool :=
  names.any fun n => looseName n.toList == name

def category? (name : List Char) : Option CharSet :=
  if isNamed name ["Any"] then some .all
  else if isNamed name ["ASCII"] then some (.range 0 0x7F)
  else if isNamed name ["Assigned"] then some Category.unassigned.set.compl
  else (Category.named.find? fun c => isNamed name c.1).map fun c => Text.inCategories c.2

def binary? (name : List Char) : Option CharSet :=
  (Property.all.find? fun p => isNamed name p.names).map Property.set

def namedScript? (name : List Char) : Option Script :=
  Text.scripts.find? fun s => isNamed name s.names

def script? (name : List Char) : Option CharSet :=
  (namedScript? name).map fun s => .ofSpans s.spans

/-- The characters that a script uses: those that belong to it, unless it is told
which scripts use them, and those of which it is told that it does. -/
def usedBy (s : Script) : CharSet :=
  let shared : CharSet := .ofSpans (Text.sharedSpans.map Prod.fst)
  let users := Text.sharedSpans.filter fun (_, codes) => s.names.head?.any codes.contains
  (.ofSpans s.spans \ shared) ∪ .unions (users.map fun ((low, high), _) => .range low high)

/-- The names of a version: its number with a point, or with a low line after the
letter V. -/
def versionNames (v : Version) : List String :=
  [s!"{v.major}.{v.minor}", s!"V{v.major}_{v.minor}"]

/-- The characters that a version has; it has all those of the versions before
it. -/
def age? (name : List Char) : Option CharSet :=
  let earlier := Text.versions.takeWhile fun v => !isNamed name (versionNames v)
  (Text.versions[earlier.length]?).map fun v =>
    .unions ((earlier ++ [v]).map fun w => .ofSpans w.spans)

/-- The characters of a name that stands alone. -/
def named? (name : List Char) : Option CharSet :=
  let name := looseName name
  binary? name <|> category? name <|> script? name

/-- The characters of which a property has a value. -/
def valued? (property value : List Char) : Option CharSet :=
  let property := looseName property
  let value := looseName value
  if isNamed property ["gc", "General_Category"] then category? value
  else if isNamed property ["sc", "Script"] then script? value
  else if isNamed property ["scx", "Script_Extensions"] then (namedScript? value).map usedBy
  else if isNamed property ["Age"] then age? value
  else if isNamed property ["GCB", "Grapheme_Cluster_Break"] then
    (GraphemeBreak.all.find? fun b => isNamed value b.names).map GraphemeBreak.set
  else if isNamed property ["WB", "Word_Break"] then
    (WordBreak.all.find? fun b => isNamed value b.names).map WordBreak.set
  else if isNamed property ["SB", "Sentence_Break"] then
    (SentenceBreak.all.find? fun b => isNamed value b.names).map SentenceBreak.set
  else none

end FlowGraph.Pattern
