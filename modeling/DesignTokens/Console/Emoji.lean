import DesignTokens.Console.EmojiTable
import DesignTokens.Text.Blank
import DesignTokens.Text.LowerCase

/-!
Pictures in a console line: a name between two colons stands for one.
-/

namespace DesignTokens.Console

def emoji? (name : List Char) : Option (List Char) :=
  emojiTable.findSome? fun entries =>
    (splitWhere (· == ' ') entries.toList).findSome? fun entry =>
      match cutAt '=' entry with
      | (known, some picture) => if known = name then some picture else none
      | (_, none) => none

def variants : List (List Char × List Char) := [
  ("-emoji".toList, [Char.ofNat 0xFE0F]), ("-text".toList, [Char.ofNat 0xFE0E])]

def picture? (name : List Char) : Option (List Char) :=
  let (base, variant) :=
    (variants.findSome? fun (ending, variant) =>
      (dropTail ending name).map fun base => (base, variant)).getD (name, [])
  (emoji? (lowerCase base)).map (· ++ variant)

def colonName? (text : List Char) : Option (List Char) :=
  let name := text.takeWhile fun c => !(c == ':' || isBlank c)
  if (text.drop name.length).head? == some ':' then some name else none

def withPictures (skip : Nat) : List Char → List Char
  | [] => []
  | c :: rest =>
      match skip with
      | skip + 1 => withPictures skip rest
      | 0 =>
          match if c == ':' then colonName? rest else none with
          | none => c :: withPictures 0 rest
          | some name =>
              (picture? name).getD (':' :: name ++ [':']) ++ withPictures (name.length + 1) rest

end DesignTokens.Console
