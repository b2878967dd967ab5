import DesignTokens.Console.Line

/-!
Tables on a console: a title, headings, and rows.  A column is as wide as its
widest text, unless the table would not fit.
-/

namespace DesignTokens.Console

structure Table where
  title : String
  headings : List String
  rows : List (List String)
deriving DecidableEq, Repr

def sidePadding : Nat := 2

def endsLine (c : Char) : Bool :=
  [10, 11, 12, 13, 0x1C, 0x1D, 0x1E, 0x85, 0x2028, 0x2029].contains c.toNat

def naturalWidth (text : List Char) : Nat :=
  ((splitWhere endsLine text).map textWidth).foldl max 0

def columnSpace (columns : Nat) : Nat :=
  lineWidth - (columns + 1)

def evenQuotient (number divisor : Nat) : Nat :=
  let quotient := number / divisor
  let twice := 2 * (number % divisor)
  if divisor < twice ∨ (twice = divisor ∧ quotient % 2 = 1) then quotient + 1 else quotient

def takeFromWidest (widest limit excess sharing : Nat) : List Nat → List Nat
  | [] => []
  | width :: widths =>
      if width = widest ∧ 0 < sharing then
        let share := min limit (evenQuotient excess sharing)
        (width - share) :: takeFromWidest widest limit (excess - share) (sharing - 1) widths
      else width :: takeFromWidest widest limit excess sharing widths

def totalWidth (widths : List Nat) : Nat :=
  widths.foldl (· + ·) 0

def fittedWidths (space : Nat) : Nat → List Nat → List Nat
  | 0, widths => widths
  | fuel + 1, widths =>
      let excess := totalWidth widths - space
      if excess = 0 then widths
      else
        let widest := widths.foldl max 0
        let next := (widths.filter (· ≠ widest)).foldl max 0
        fittedWidths space fuel <|
          takeFromWidest widest (min excess (widest - next)) excess (widths.count widest) widths

def columnWidths (columns : Nat) (rows : List (List (List Char))) : List Nat :=
  let space := columnSpace columns
  let widths := rows.foldl (fun widths row => widths.zipWith max (row.map naturalWidth))
    (List.replicate columns 0)
  fittedWidths space (columns + 1) (widths.map fun width => min space (width + sidePadding))

def ruleLine (left fill joint right : Char) (widths : List Nat) : List Char :=
  left :: [joint].intercalate (widths.map fun width => List.replicate width fill) ++ [right]

def textLine (bar : Char) (texts : List (List Char)) : List Char :=
  bar :: [bar].intercalate texts ++ [bar]

def rowLines (bar : Char) (widths : List Nat) (row : List (List Char)) : List (List Char) :=
  let columns := widths.zipWith (fun width text =>
    (width, fittedLines .ellipsis (width - sidePadding) text)) row
  let height := (columns.map fun (_, lines) => lines.length).foldl max 0
  (List.range height).map fun index =>
    textLine bar <| columns.map fun (width, lines) => padded width (' ' :: lines.getD index [])

def centered (width : Nat) (text : List Char) : List Char :=
  padded width (List.replicate ((width - textWidth text) / 2) ' ' ++ text)

namespace Table

def lines (title : List Char) (headings : List (List Char)) (rows : List (List (List Char))) :
    List (List Char) :=
  let widths := columnWidths headings.length (headings :: rows)
  let width := totalWidth widths + widths.length + 1
  (fittedLines .fold width title).map (centered width) ++
    [ruleLine '┏' '━' '┳' '┓' widths] ++ rowLines '┃' widths headings ++
    [ruleLine '┡' '━' '╇' '┩' widths] ++ rows.flatMap (rowLines '│' widths) ++
    [ruleLine '└' '─' '┴' '┘' widths]

def unmarkedRow? (row : List String) : Option (List (List Char)) :=
  row.mapM fun text => unmarked? text.toList

def shown? (table : Table) : Option String := do
  let title ← unmarked? table.title.toList
  let headings ← unmarkedRow? table.headings
  let rows ← table.rows.mapM unmarkedRow?
  return String.join ((lines title headings rows).map fun line => String.ofList line ++ "\n")

end Table

end DesignTokens.Console
