/-! Tables of texts drawn with lines: a box around all cells, a double line below the head and
dashed lines between rows and columns. Every column is as wide as its widest cell. -/

namespace LogSieve.Text.Table

structure Rule where
  left : Char
  body : Char
  crossing : Char
  right : Char

def top : Rule := ⟨'┌', '─', '┬', '┐'⟩

def belowHead : Rule := ⟨'╞', '═', '╪', '╡'⟩

def between : Rule := ⟨'├', '╌', '┼', '┤'⟩

def bottom : Rule := ⟨'└', '─', '┴', '┘'⟩

def widths (head : List String) (rows : List (List String)) : List Nat :=
  rows.foldl (fun widths row => widths.zipWith max (row.map String.length)) (head.map String.length)

def Rule.line (rule : Rule) (widths : List Nat) : String :=
  let pieces := widths.map fun width => String.ofList (List.replicate (width + 2) rule.body)
  String.singleton rule.left ++ (String.singleton rule.crossing).intercalate pieces ++
    String.singleton rule.right

def cell (width : Nat) (text : String) : String :=
  " " ++ text ++ String.ofList (List.replicate (width - text.length) ' ') ++ " "

def row (widths : List Nat) (cells : List String) : String :=
  "│" ++ "┆".intercalate (List.zipWith cell widths cells) ++ "│"

def lines (head : List String) (rows : List (List String)) : List String :=
  let widths := widths head rows
  [top.line widths, row widths head, belowHead.line widths] ++
    (rows.map (row widths)).intersperse (between.line widths) ++ [bottom.line widths]

end LogSieve.Text.Table
