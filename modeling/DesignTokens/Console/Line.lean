import DesignTokens.Console.CellWidth
import DesignTokens.Console.Markup

/-!
Lines on a console of limited width: tabs become blanks, and long lines are wrapped
between words.
-/

namespace DesignTokens.Console

def lineWidth : Nat := 1000

def tabWidth : Nat := 8

def withoutTabs (cells : Nat) : List Char → List Char
  | [] => []
  | c :: rest =>
      if c == '\t' then
        let blanks := tabWidth - cells % tabWidth
        List.replicate blanks ' ' ++ withoutTabs (cells + blanks) rest
      else c :: withoutTabs (cells + charWidth c) rest

def leadingWord (text : List Char) : List Char :=
  let before := text.takeWhile isBlank
  let afterBlanks := text.drop before.length
  let word := afterBlanks.takeWhile fun c => !isBlank c
  if word.isEmpty then []
  else before ++ word ++ (afterBlanks.drop word.length).takeWhile isBlank

def lineWords : Nat → List Char → List (List Char)
  | 0, _ => []
  | fuel + 1, text =>
      let word := leadingWord text
      if word.isEmpty then [] else word :: lineWords fuel (text.drop word.length)

def choppedFrom (width cells : Nat) (reversed : List Char) : List Char → List (List Char)
  | [] => [reversed.reverse]
  | c :: rest =>
      if width < cells + charWidth c then
        reversed.reverse :: choppedFrom width (charWidth c) [c] rest
      else choppedFrom width (cells + charWidth c) (c :: reversed) rest

def chopped (width : Nat) (text : List Char) : List (List Char) :=
  choppedFrom width 0 [] text

inductive Overflow where
  | fold
  | ellipsis
deriving DecidableEq, Repr

structure Wrapping where
  finished : List (List Char)
  line : List Char
  cells : Nat

def Wrapping.breakLine (wrapping : Wrapping) : Wrapping :=
  if wrapping.finished.isEmpty && wrapping.line.isEmpty then wrapping
  else ⟨wrapping.line :: wrapping.finished, [], 0⟩

def Wrapping.addParts (wrapping : Wrapping) (parts : List (List Char)) : Wrapping :=
  parts.foldl (fun wrapping part =>
    let fresh := wrapping.breakLine
    { fresh with line := part, cells := textWidth part }) wrapping

def Wrapping.add (overflow : Overflow) (width : Nat) (wrapping : Wrapping) (word : List Char) :
    Wrapping :=
  let visible := textWidth (trimEndWhere isBlank word)
  if wrapping.cells + visible ≤ width then
    { wrapping with line := wrapping.line ++ word, cells := wrapping.cells + textWidth word }
  else if width < visible then
    wrapping.addParts (if overflow = .fold then chopped width word else [word])
  else if wrapping.cells = 0 then { wrapping with line := wrapping.line ++ word }
  else
    let fresh := wrapping.breakLine
    { fresh with line := word, cells := textWidth word }

def withoutExcess (width : Nat) (line : List Char) : List Char :=
  let blanks := (line.reverse.takeWhile isBlank).length
  line.take (line.length - min blanks (line.length - width))

def padded (width : Nat) (line : List Char) : List Char :=
  line ++ List.replicate (width - textWidth line) ' '

def cropped (overflow : Overflow) (width : Nat) (line : List Char) : List Char :=
  if textWidth line ≤ width then line
  else
    match overflow with
    | .fold => padded width ((chopped width line).headD [])
    | .ellipsis => padded (width - 1) ((chopped (width - 1) line).headD []) ++ ['…']

def wrapped (overflow : Overflow) (width : Nat) (line : List Char) : List (List Char) :=
  let wrapping :=
    (lineWords (line.length + 1) line).foldl (Wrapping.add overflow width) ⟨[], [], 0⟩
  let words := (wrapping.line :: wrapping.finished).reverse
  let rest := line.drop words.flatten.length
  let lines := words.dropLast ++ [words.getLastD [] ++ rest]
  lines.map fun line => cropped overflow width (withoutExcess width line)

def fittedLines (overflow : Overflow) (width : Nat) (text : List Char) : List (List Char) :=
  (splitWhere (· == '\n') text).flatMap fun line => wrapped overflow width (withoutTabs 0 line)

def shown? (text : String) : Option String :=
  (unmarked? text.toList).map fun chars =>
    "\n".intercalate ((fittedLines .fold lineWidth chars).map String.ofList)

end DesignTokens.Console
