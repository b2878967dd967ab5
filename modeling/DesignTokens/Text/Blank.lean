/-!
Blank characters, trimming, and cutting a text at separators.
-/

namespace DesignTokens

/-- The characters that count as white space: the controls that move the
writing position, the four information separators, and the Unicode spaces.
The zero-width space is not one of them. -/
def isBlank (c : Char) : Bool :=
  let code := c.toNat
  (9 ≤ code && code ≤ 13) || (0x1C ≤ code && code ≤ 0x20) || code == 0x85 || code == 0xA0 ||
    code == 0x1680 || (0x2000 ≤ code && code ≤ 0x200A) || code == 0x2028 || code == 0x2029 ||
    code == 0x202F || code == 0x205F || code == 0x3000

def trimEndWhere (drop : Char → Bool) (text : List Char) : List Char :=
  (text.reverse.dropWhile drop).reverse

def trimWhere (drop : Char → Bool) (text : List Char) : List Char :=
  trimEndWhere drop (text.dropWhile drop)

def trim (text : List Char) : List Char :=
  trimWhere isBlank text

def trimmed (text : String) : String :=
  String.ofList (trim text.toList)

def splitWhere (separates : Char → Bool) : List Char → List (List Char)
  | [] => [[]]
  | c :: rest =>
      if separates c then [] :: splitWhere separates rest
      else
        match splitWhere separates rest with
        | [] => [[c]]
        | part :: parts => (c :: part) :: parts

def splitAtChar (separator : Char) (text : String) : List String :=
  (splitWhere (· == separator) text.toList).map String.ofList

def pieces (separates : Char → Bool) (text : List Char) : List (List Char) :=
  (splitWhere separates text).filter (!·.isEmpty)

def cutAt (separator : Char) : List Char → List Char × Option (List Char)
  | [] => ([], none)
  | c :: rest =>
      if c == separator then ([], some rest)
      else
        match cutAt separator rest with
        | (before, after) => (c :: before, after)

def dropLead : List Char → List Char → Option (List Char)
  | [], text => some text
  | _ :: _, [] => none
  | lead :: leads, c :: rest => if lead == c then dropLead leads rest else none

def dropTail (ending text : List Char) : Option (List Char) :=
  (dropLead ending.reverse text.reverse).map List.reverse

def occursIn (piece : List Char) : List Char → Bool
  | [] => piece.isEmpty
  | c :: rest => (dropLead piece (c :: rest)).isSome || occursIn piece rest

end DesignTokens
