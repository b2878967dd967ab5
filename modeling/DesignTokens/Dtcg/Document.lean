import DesignTokens.Dtcg.Value
import DesignTokens.Stylesheet.Basic

/-!
DTCG documents: a group for every segment of a path, and at its end the fields of
the token.  A token can have other tokens below it; its own fields start with a
dollar sign.
-/

namespace DesignTokens

namespace Dtcg

abbrev Members := Entries String Json

def membersOf : Option Json → Members
  | some (.object members) => members
  | _ => []

def place (members : Members) (fields : Members) : List String → Members
  | [] => members.insertAll fields
  | segment :: rest =>
      members.insert segment (.object (place (membersOf (members.find? segment)) fields rest))

def valueFields (raw : Value) (resolved : Option Value) : Members :=
  let typeField := ((resolved.bind type?).map fun name => ("$type", Json.text name)).toList
  match raw, resolved with
  | .reference target (some transform), some value =>
      typeField ++
        [("$value", valueJson value),
          ("$extensions", .object [("tokenweave", .object [
            ("reference", .text target), ("transform", transformJson transform)])])]
  | raw, _ => typeField ++ [("$value", valueJson raw)]

def metadataFields (metadata : Metadata) : Members :=
  let description := metadata.description.filter (!·.isEmpty)
  (description.map fun text => ("$description", .text text)).toList ++
    (if metadata.deprecated then [("$deprecated", .boolean true)] else [])

def isFieldKey (key : String) : Bool :=
  key.toList.head? == some '$'

def isToken (members : Members) : Bool :=
  (members.find? "$value").isSome

mutual

def countIn : Json → Nat
  | .object members => (if isToken members then 1 else 0) + countBelow members
  | _ => 0

def countBelow : Members → Nat
  | [] => 0
  | (key, member) :: rest => (if isFieldKey key then 0 else countIn member) + countBelow rest

end

def countTokens (members : Members) : Nat :=
  countIn (.object members)

def summary (members : Members) : String :=
  integerText (countTokens members) ++ " tokens in " ++ integerText members.length ++ " groups"

end Dtcg

namespace View

def tokenFields (view : View) (theme : Theme) (path : Path) : Walk Dtcg.Members := do
  match view.store.visible? path theme with
  | none => throw (.document (.valueless path.dotted theme.name))
  | some raw =>
      let resolved ← resolve? view.store theme view.allowance path
      let metadata := view.store.metadata.find? path
      return Dtcg.valueFields raw resolved ++ (metadata.map Dtcg.metadataFields).getD []

def placeTokens (view : View) (theme : Theme) (members : Dtcg.Members) :
    List Path → Walk Dtcg.Members
  | [] => return members
  | path :: rest => do
      let fields ← view.tokenFields theme path
      view.placeTokens theme (Dtcg.place members fields path.segments) rest

def document (view : View) (theme : Theme) : Walk Dtcg.Members :=
  view.placeTokens theme [] (view.publicPaths theme)

end View

end DesignTokens
