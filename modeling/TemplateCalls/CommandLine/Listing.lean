import TemplateCalls.Plugin.Registry

/-!
# The listing of plugins

The built-in plugins are listed in a table with their parameters and imports. A variadic parameter
is marked by a star, and one that may be omitted shows what stands in for it. Each column of a table
is as wide as its widest cell, with a space at both sides. The header stands in a heavy frame, the
rows in a light one.
-/

namespace TemplateCalls

structure Table where
  header : List String
  rows : List (List String)

namespace Table

/-- The characters of a horizontal line: its two ends, the crossing of a column and the line itself.
-/
structure Rule where
  left : String
  cross : String
  right : String
  line : Char

def top : Rule := ⟨"┏", "┳", "┓", '━'⟩

def underHeader : Rule := ⟨"┡", "╇", "┩", '━'⟩

def bottom : Rule := ⟨"└", "┴", "┘", '─'⟩

def widths (table : Table) : List Nat :=
  table.rows.foldl (fun widths row ↦ List.zipWith max widths (row.map String.length))
    (table.header.map String.length)

def renderRule (widths : List Nat) (rule : Rule) : String :=
  rule.left ++ rule.cross.intercalate (widths.map fun width ↦
    .ofList (List.replicate (width + 2) rule.line)) ++ rule.right

def renderCell (width : Nat) (cell : String) : String :=
  " " ++ cell ++ .ofList (List.replicate (width - cell.length + 1) ' ')

def renderRow (widths : List Nat) (bar : String) (cells : List String) : String :=
  bar ++ bar.intercalate (List.zipWith renderCell widths cells) ++ bar

def lines (table : Table) : List String :=
  [renderRule table.widths top, renderRow table.widths "┃" table.header,
    renderRule table.widths underHeader]
    ++ table.rows.map (renderRow table.widths "│") ++ [renderRule table.widths bottom]

/-- The table as text; each line ends with a line feed. -/
def render (table : Table) : String := String.join (table.lines.map (· ++ "\n"))

end Table

end TemplateCalls

namespace TemplateCalls.CommandLine

def describeParameter (parameter : Parameter) : String :=
  if parameter.variadic then "*" ++ parameter.name
  else
    match parameter.default with
    | none => parameter.name
    | some source => parameter.name ++ "=" ++ source

def describePlugin (plugin : Plugin) : List String :=
  [plugin.fullName, plugin.name, ", ".intercalate (plugin.parameters.map describeParameter),
    if plugin.imports.isEmpty then "-" else ", ".intercalate plugin.imports]

def listing : Table where
  header := ["Plugin", "Name", "Parameters", "Imports"]
  rows := Plugin.registry.map describePlugin

end TemplateCalls.CommandLine
