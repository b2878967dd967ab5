import DesignTokens.Yaml.Cursor

/-!
Properties of YAML nodes, which are anchors and tags, and directives.  Every
reading returns what it read and how many characters that takes.
-/

namespace DesignTokens.Yaml

inductive Directive where
  | version (major : Nat)
  | handle (name start : String)
  | other
deriving DecidableEq, Repr

structure TagText where
  handle : Option String
  rest : String
deriving DecidableEq, Repr

def isWordChar (c : Char) : Bool :=
  isAsciiLetter c || isAsciiDigit c || c == '-' || c == '_'

def isTagChar (c : Char) : Bool :=
  isWordChar c ||
    [';', '/', '?', ':', '@', '&', '=', '+', '$', ',', '.', '!', '~', '*', '\'', '(', ')', '[',
      ']'].contains c

def endsAnchor : List Char → Bool
  | [] => true
  | c :: _ =>
      isGap c || isBreak c || ['?', ':', ',', ']', '}', '%', '@', Char.ofNat 0x60].contains c

def anchorName? (text : List Char) : Option (String × Nat) :=
  let name := text.takeWhile isWordChar
  if name.isEmpty || !endsAnchor (text.drop name.length) then none
  else some (String.ofList name, name.length)

def escapedBytes? : List Char → Option (List UInt8 × List Char)
  | '%' :: high :: low :: rest => do
      let byte ← numberIn? 16 [high, low]
      let (bytes, rest) ← escapedBytes? rest
      return (UInt8.ofNat byte :: bytes, rest)
  | '%' :: _ => none
  | rest => some ([], rest)

def tagChars? : Nat → List Char → Option (List Char × List Char)
  | 0, _ => none
  | fuel + 1, text => do
      let plain := text.takeWhile isTagChar
      match text.drop plain.length with
      | '%' :: rest => do
          let (bytes, rest) ← escapedBytes? ('%' :: rest)
          let decoded ← String.fromUTF8? ⟨bytes.toArray⟩
          let (more, rest) ← tagChars? fuel rest
          return (plain ++ decoded.toList ++ more, rest)
      | rest => return (plain, rest)

def tagText? (text : List Char) : Option (String × Nat) := do
  let (chars, rest) ← tagChars? (text.length + 1) text
  let length := text.length - rest.length
  if length = 0 then none else return (String.ofList chars, length)

def tagHandle? (text : List Char) : Option (String × Nat) :=
  match text with
  | '!' :: rest =>
      let word := rest.takeWhile isWordChar
      match rest.drop word.length with
      | '!' :: _ => some (String.ofList ('!' :: word ++ ['!']), word.length + 2)
      | ' ' :: _ => if word.isEmpty then some ("!", 1) else none
      | _ => none
  | _ => none

def hasNamedHandle (text : List Char) : Bool :=
  (text.takeWhile fun c => !(c == ' ' || isBreak c)).contains '!'

def tag? (text : List Char) : Option (TagText × Nat) := do
  let rest := text.drop 1
  let (tag, length) ←
    match rest with
    | '<' :: whole => do
        let (chars, length) ← tagText? whole
        if (whole.drop length).head? == some '>' then some (⟨none, chars⟩, length + 3) else none
    | rest =>
        if atGap rest then some (TagText.mk none "!", 1)
        else do
          let (handle, length) ← if hasNamedHandle rest then tagHandle? text else some ("!", 1)
          let (chars, more) ← tagText? (text.drop length)
          some (⟨some handle, chars⟩, length + more)
  if atWordEnd (text.drop length) then return (tag, length) else none

def spaceCount (text : List Char) : Nat :=
  (text.takeWhile (· == ' ')).length

def versionValue? (text : List Char) : Option (Directive × Nat) :=
  let spaces := spaceCount text
  let major := (text.drop spaces).takeWhile isAsciiDigit
  match text.drop (spaces + major.length) with
  | '.' :: rest =>
      let minor := rest.takeWhile isAsciiDigit
      if major.isEmpty || minor.isEmpty || !atWordEnd (rest.drop minor.length) then none
      else
        (numberIn? 10 major).map fun number =>
          (.version number, spaces + major.length + 1 + minor.length)
  | _ => none

def handleValue? (text : List Char) : Option (Directive × Nat) := do
  let before := spaceCount text
  let (handle, width) ← tagHandle? (text.drop before)
  let between := spaceCount (text.drop (before + width))
  if between = 0 then none
  else do
    let skipped := before + width + between
    let (start, length) ← tagText? (text.drop skipped)
    if atWordEnd (text.drop (skipped + length)) then
      return (.handle handle start, skipped + length)
    else none

def directive? (text : List Char) : Option (Directive × Nat) := do
  let name := text.takeWhile isWordChar
  let rest := text.drop name.length
  if name.isEmpty || !atWordEnd rest then none
  else do
    let (directive, length) ←
      match String.ofList name with
      | "YAML" => versionValue? rest
      | "TAG" => handleValue? rest
      | _ => some (.other, (rest.takeWhile fun c => !isBreak c).length)
    let more ← lineRest? (rest.drop length)
    return (directive, name.length + length + more)

end DesignTokens.Yaml
