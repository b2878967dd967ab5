import DesignTokens.Text.Blank

/-!
File names in their plain form, which is the parts between slashes without empty
ones and without single dots, and the places that they lead to.
-/

namespace DesignTokens

inductive Start where
  | here
  | above (levels : Nat)
  | top
deriving DecidableEq, Repr

structure Place where
  start : Start
  parts : List String
deriving DecidableEq, Repr

namespace Place

def here : Place :=
  ⟨.here, []⟩

def outer (place : Place) : Place :=
  if place.parts.isEmpty then
    match place.start with
    | .here => ⟨.above 0, []⟩
    | .above levels => ⟨.above (levels + 1), []⟩
    | .top => place
  else { place with parts := place.parts.dropLast }

def enter (place : Place) (part : String) : Place :=
  if part == ".." then place.outer else { place with parts := place.parts ++ [part] }

def surrounds (place other : Place) : Bool :=
  place.start == other.start && place.parts.isPrefixOf other.parts && place ≠ other

def text (place : Place) : String :=
  "/".intercalate place.parts

end Place

structure FileName where
  root : String
  parts : List String
deriving DecidableEq, Repr

namespace FileName

def rootOf (text : List Char) : String :=
  match (text.takeWhile (· == '/')).length with
  | 0 => ""
  | 2 => "//"
  | _ => "/"

def ofText (text : String) : FileName :=
  ⟨rootOf text.toList, (splitAtChar '/' text).filter fun part => !part.isEmpty && part != "."⟩

def text (name : FileName) : String :=
  let body := name.root ++ "/".intercalate name.parts
  if body.isEmpty then "." else body

def last (name : FileName) : String :=
  name.parts.getLastD ""

def suffix (name : FileName) : String :=
  let reversed := name.last.toList.reverse
  let extension := reversed.takeWhile (· != '.')
  let stem := (reversed.dropWhile (· != '.')).drop 1
  if extension.isEmpty || stem.isEmpty then "" else String.ofList ('.' :: extension.reverse)

def parent (name : FileName) : FileName :=
  { name with parts := name.parts.dropLast }

def start (name : FileName) : Place :=
  ⟨if name.root.isEmpty then .here else .top, []⟩

def place (name : FileName) : Place :=
  name.parts.foldl Place.enter name.start

end FileName

end DesignTokens
