/-
Results as lines of text.

Rows are shown as a table in a frame, each column as wide as its widest cell in units. For
terminals a colour is switched on before a text and off after it. Lines are coloured one by one,
and where the text switches the same colour off by itself, it is switched on again.
-/
import RelStore.Engine
import RelStore.Record
import RelStore.Row

namespace RelStore

namespace Display

def boxLine (left middle right : String) (widths : List Nat) : String :=
  left ++ String.intercalate middle (widths.map fun width => String.ofList (List.replicate width '─')) ++
    right

def boxRow (widths : List Nat) (cells : List String) : String :=
  "│ " ++ String.intercalate " │ " (List.zipWith Text.padEnd widths cells) ++ " │"

/-- The text of a cell. Where a value is missing the member of its name is shown, or else NULL. -/
def cell (row : Row) (column : String) : String :=
  match row.get? column with
  | some value => value.display
  | none => (Record.memberText? column).getD (Value.display none)

/-- The lines of a table of rows. -/
def table (columns : List String) (rows : List Row) : List String :=
  if columns.isEmpty then ["(no columns)"]
  else
    let cells := rows.map fun row => columns.map (cell row)
    let widths := cells.foldl
      (fun widths line => List.zipWith (fun width cell => max width (Text.length cell)) widths line)
      (columns.map Text.length)
    [boxLine "┌─" "─┬─" "─┐" widths, boxRow widths columns, boxLine "├─" "─┼─" "─┤" widths] ++
      cells.map (boxRow widths) ++ [boxLine "└─" "─┴─" "─┘" widths]

/-- The lines of a table and the count of its rows. -/
def listing (columns : List String) (rows : List Row) (count : Binary64) : List String :=
  if rows.isEmpty then ["(empty result set)", "0 rows"]
  else
    let noun := if count.eq 1 then "row" else "rows"
    table columns rows ++ [s!"{count.text} {noun}"]

def failure (kind message : String) : String := s!"{kind}: {message}"

/-! ## Colours -/

inductive Colour where
  | red
  | green
  | yellow
  | cyan
  | dim
  deriving DecidableEq, Repr

namespace Colour

def escape (code : Nat) : String := s!"\x1b[{code}m"

/-- What switches a colour on. -/
def opening : Colour → String
  | red => escape 31
  | green => escape 32
  | yellow => escape 33
  | cyan => escape 36
  | dim => escape 2

/-- What switches a colour off. -/
def closing : Colour → String
  | dim => escape 22
  | _ => escape 39

/-- The text with a colour switched off before each line break and on again after it. -/
def paintLines (colour : Colour) : List Char → String
  | [] => ""
  | '\r' :: '\n' :: rest => colour.closing ++ "\r\n" ++ colour.opening ++ colour.paintLines rest
  | '\n' :: rest => colour.closing ++ "\n" ++ colour.opening ++ colour.paintLines rest
  | c :: rest => String.singleton c ++ colour.paintLines rest

/-- A text in a colour, if there are colours. -/
def paint (colour : Colour) (coloured : Bool) (text : String) : String :=
  if !coloured || text.isEmpty then text
  else
    let reopened := String.intercalate (colour.closing ++ colour.opening) (text.splitOn colour.closing)
    colour.opening ++ colour.paintLines reopened.toList ++ colour.closing

@[simp] theorem paint_plain (colour : Colour) (text : String) : colour.paint false text = text := by
  simp [paint]

end Colour

end Display

/-! ## What statements gave -/

namespace Answer

def lines : Answer → List String
  | .rows listing => Display.listing listing.columns listing.rows (.ofNat listing.rows.length)
  | .schema listing => Display.listing listing.columns listing.rows (.ofNat listing.rows.length)
  | .mutation _ message => [message]

end Answer

namespace Outcome

/-- The lines of an outcome. -/
def lines : Outcome → List String
  | .ok answer => answer.lines
  | .error failure => [Display.failure failure.cause.kind.name failure.cause.message]

def text (outcome : Outcome) : String := String.intercalate "\n" outcome.lines

/-- The text of an outcome in a script: failures are red. -/
def report (coloured : Bool) (outcome : Outcome) : String :=
  match outcome with
  | .ok _ => outcome.text
  | .error _ => Display.Colour.red.paint coloured outcome.text

def succeeded (outcome : Outcome) : Bool :=
  match outcome with
  | .ok _ => true
  | .error _ => false

end Outcome

end RelStore
