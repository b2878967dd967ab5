import DesignTokens.Console.Emoji
import DesignTokens.Console.Literal
import DesignTokens.Console.Style

/-!
Style marks in a console line: a word in square brackets, such as `red`, starts a
style, and the word after a slash ends it.  Marks are not shown.  A backslash in
front of a bracket takes its meaning away.
-/

namespace DesignTokens.Console

inductive Piece where
  | text (chars : List Char)
  | mark (name : List Char) (parameters : Option (List Char))

def startsMark (c : Char) : Bool :=
  isAsciiLower c || c == '#' || c == '/' || c == '@'

def markInside? (text : List Char) : Option (List Char) :=
  let inside := text.takeWhile fun c => !(c == '[' || c == ']')
  if text.head?.any startsMark && (text.drop inside.length).head? == some ']' then some inside
  else none

def markAhead? (text : List Char) : Option (Nat × List Char) :=
  let slashes := text.takeWhile (· == '\\')
  match text.drop slashes.length with
  | '[' :: rest => (markInside? rest).map fun inside => (slashes.length, inside)
  | _ => none

def textPiece (chars : List Char) : List Piece :=
  if chars.isEmpty then [] else [.text chars]

def markPieces (slashes : Nat) (inside : List Char) : List Piece :=
  textPiece (List.replicate (slashes / 2) '\\') ++
    if slashes % 2 = 1 then [.text ('[' :: inside ++ [']'])]
    else [.mark (cutAt '=' inside).1 (cutAt '=' inside).2]

def linePieces (reversed : List Char) (skip : Nat) : List Char → List Piece
  | [] => textPiece reversed.reverse
  | c :: rest =>
      match skip with
      | skip + 1 => linePieces reversed skip rest
      | 0 =>
          match markAhead? (c :: rest) with
          | none => linePieces (c :: reversed) 0 rest
          | some (slashes, inside) =>
              textPiece reversed.reverse ++ markPieces slashes inside ++
                linePieces [] (slashes + inside.length + 1) rest

structure OpenStyle where
  name : String
  parameters : Option (List Char)

def takeStyle? (name : String) : List OpenStyle → Option (OpenStyle × List OpenStyle)
  | [] => none
  | style :: styles =>
      if style.name = name then some (style, styles)
      else (takeStyle? name styles).map fun (found, others) => (found, style :: others)

def OpenStyle.isAction (style : OpenStyle) : Bool :=
  style.name.toList.head? == some '@'

def OpenStyle.isVisible (style : OpenStyle) : Bool :=
  match style.parameters with
  | none => true
  | some parameters => (normalStyle? (style.name.toList ++ ' ' :: parameters)).isSome

def OpenStyle.isSound (style : OpenStyle) : Bool :=
  if style.isAction then
    style.parameters.all fun parameters => parameters.isEmpty || areParameters parameters
  else style.isVisible

def endStyle? (name : List Char) (styles : List OpenStyle) : Option (List OpenStyle) := do
  let (style, others) ←
    if name.isEmpty then
      match styles with
      | [] => none
      | style :: others => some (style, others)
    else takeStyle? (← normalStyle? name) styles
  if style.isSound then return others else none

def applyMark? (styles : List OpenStyle) (name : List Char) (parameters : Option (List Char)) :
    Option (List OpenStyle) :=
  match name with
  | '/' :: closing => endStyle? (trim closing) styles
  | name => (normalStyle? name).map fun normal => ⟨normal, parameters⟩ :: styles

def plainBrackets : List Char → List Char
  | [] => []
  | '\\' :: '[' :: rest => '[' :: plainBrackets rest
  | c :: rest => c :: plainBrackets rest

def isHiddenControl (c : Char) : Bool :=
  [7, 8, 11, 12, 13].contains c.toNat

def shownPiece (chars : List Char) : List Char :=
  (withPictures 0 (plainBrackets chars)).filter fun c => !isHiddenControl c

def shownPieces? (styles : List OpenStyle) : List Piece → Option (List Char)
  | [] => if styles.all OpenStyle.isVisible then some [] else none
  | .text chars :: pieces => (shownPieces? styles pieces).map (shownPiece chars ++ ·)
  | .mark name parameters :: pieces =>
      (applyMark? styles name parameters).bind fun styles => shownPieces? styles pieces

def unmarked? (line : List Char) : Option (List Char) :=
  shownPieces? [] (linePieces [] 0 line)

end DesignTokens.Console
