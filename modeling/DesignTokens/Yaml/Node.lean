import DesignTokens.Data.Display
import DesignTokens.Yaml.Scalar

/-!
Nodes of YAML documents, and the data that they stand for.
-/

namespace DesignTokens.Yaml

inductive Node where
  | scalar (tag : Tag) (text : String)
  | list (tag : Tag) (items : List Node)
  | mapping (tag : Tag) (entries : List (Node × Node))
  | endless (shown : String)
  | unmergeable
deriving Inhabited

def endlessList : String := "[...]"

def endlessMapping : String := "\x7b...\x7d"

namespace Node

def nothing : Node :=
  .scalar .null ""

def hasTag (node : Node) (tag : Tag) : Bool :=
  match node with
  | .scalar found _ => found == tag
  | .list found _ => found == tag
  | .mapping found _ => found == tag
  | _ => false

def asKey : Node → Node
  | .scalar .default text => .scalar .text text
  | node => node

def entries? : Node → Option (List (Node × Node))
  | .mapping _ entries => some entries
  | .endless shown => if shown == endlessMapping then some [] else none
  | _ => none

def mergedEntries? : Node → Option (List (Node × Node))
  | .list _ items => (items.reverse.mapM entries?).map List.flatten
  | node => node.entries?

/-- A mapping with the values merged that its merge keys ask for.  They come first,
so that its own entries count more. -/
def merged (tag : Tag) (entries : List (Node × Node)) : Node :=
  let (merging, own) := entries.partition fun (key, _) => key.hasTag .merge
  match merging.mapM fun (_, value) => value.mergedEntries? with
  | some merged =>
      .mapping tag (merged.flatten ++ own.map fun (key, value) => (key.asKey, value))
  | none => .unmergeable

def ofEntries (tag : Tag) (entries : List (Node × Node)) : Node :=
  match if tag.isScalar then entries.find? fun (key, _) => key.hasTag .default else none with
  | some (_, .scalar _ text) => .scalar tag text
  | _ => merged tag entries

def ofScalar (tag : Option Tag) (text : String) (plain : Bool) : Node :=
  .scalar (tag.getD (if plain then Tag.ofPlain text else .text)) text

end Node

structure NestedFault where
  depth : Nat
  cause : ReadingFault

abbrev Nested (α : Type) := Except NestedFault α

/-- Two results.  Of two faults the one inside fewer collections counts, and of
equal ones the first. -/
def Nested.both {α β : Type} (one : Nested α) (other : Nested β) : Nested (α × β) :=
  match one, other with
  | .ok x, .ok y => .ok (x, y)
  | .error fault, .ok _ => .error fault
  | .ok _, .error fault => .error fault
  | .error first, .error second => .error (if second.depth < first.depth then second else first)

def Nested.deeper {α : Type} (result : Nested α) : Nested α :=
  result.mapError fun fault => { fault with depth := fault.depth + 1 }

namespace Node

def here {α : Type} (cause : ReadingFault) : Nested α :=
  .error ⟨0, cause⟩

def keyData : Node → Nested Scalar
  | .scalar tag text => (scalarValue tag text).mapError (NestedFault.mk 0)
  | _ => here .malformed

def isCollection : Node → Bool
  | .scalar tag _ => tag.isCollection
  | .list tag _ => tag.isCollection
  | .mapping tag _ => tag.isCollection
  | .endless _ => false
  | .unmergeable => true

def within {α : Type} (node : Node) (result : Nested α) : Nested α :=
  if node.isCollection then result.deeper else result

def shownSet (keys : List Scalar) : String :=
  if keys.isEmpty then "set()"
  else "\x7b" ++ ", ".intercalate (keys.map Scalar.shown) ++ "\x7d"

def mappingData (tag : Tag) (entries : List (Scalar × Data)) : Nested Data :=
  let distinct := entries.foldl (fun found entry => putEntry found entry.1 entry.2) []
  match tag with
  | .mapping => .ok (.mapping distinct)
  | .set =>
      let shown := shownSet (distinct.map Prod.fst)
      .ok (.scalar (.foreign "set" shown shown))
  | _ => here .malformed

mutual

def data : Node → Nested Data
  | .scalar tag text => ((scalarValue tag text).map Data.scalar).mapError (NestedFault.mk 0)
  | .list .sequence items => Data.list <$> itemsData items
  | .list .pairs items => Data.list <$> pairsData items
  | .list .. => here .malformed
  | .mapping tag entries =>
      if tag == .mapping || tag == .set then (entriesData entries).bind (mappingData tag)
      else here .malformed
  | .endless shown => .ok (.scalar (.endless shown))
  | .unmergeable => here .malformed

def itemsData : List Node → Nested (List Data)
  | [] => .ok []
  | item :: items =>
      (Nested.both (item.within (data item)) (itemsData items)).map fun (first, rest) =>
        first :: rest

def pairsData : List Node → Nested (List Data)
  | [] => .ok []
  | .mapping _ [(key, value)] :: items =>
      (Nested.both (Nested.both (key.within (data key)) (value.within (data value)))
        (pairsData items)).map fun ((first, second), rest) => .list [first, second] :: rest
  | _ :: _ => here .malformed

def entriesData : List (Node × Node) → Nested (List (Scalar × Data))
  | [] => .ok []
  | (key, value) :: entries =>
      (Nested.both (Nested.both key.keyData (value.within (data value)))
        (entriesData entries)).map fun (first, rest) => first :: rest

end

def toData (node : Node) : Except ReadingFault Data :=
  node.data.mapError NestedFault.cause

end Node

end DesignTokens.Yaml
