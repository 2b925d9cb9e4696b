import LookML.Text.Blank
/-!
# Tables

Rows of cells below a row of headers, set flush left in columns. Only columns with a header are
shown.
-/

namespace LookML

/-- A table. A row may have fewer cells than there are headers, or more. -/
structure Table where
  headers : List String
  rows : List (List String)
deriving DecidableEq

namespace Table

def width (t : Table) (column : Nat) (header : String) : Nat :=
  ((t.rows.filterMap (·[column]?)).map String.utf8ByteSize).foldl max header.utf8ByteSize

def widths (t : Table) : List Nat :=
  t.headers.mapIdx t.width

def pad (cell : String) (width : Nat) : List Char :=
  cell.toList ++ List.replicate (width - cell.length) ' '

/-- A row in columns of the given widths, two blanks apart, without blanks at its end. -/
def line (widths : List Nat) (cells : List String) : String :=
  String.ofList (Text.trimEnd ([' ', ' '].intercalate (cells.zipWith pad widths)))

def dashes (widths : List Nat) : List String :=
  widths.map fun width => String.ofList (List.replicate width '-')

def lines (t : Table) : List String :=
  (t.headers :: dashes t.widths :: t.rows).map (line t.widths)

def render (t : Table) : String :=
  String.join (t.lines.map (· ++ "\n"))

end Table

end LookML
