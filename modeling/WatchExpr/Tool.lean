import WatchExpr.Report.Batch
import WatchExpr.Report.Check
import WatchExpr.Report.Explanation
import WatchExpr.Report.Formats

/-!
# Tools

The reports are offered to a front end as tools.  A tool has a name, a description for its users,
and at most one argument, which is a text and must be given.  `Tool.call` finds a tool by its exact
name and answers with the text of its report.
-/

namespace WatchExpr

/-- The tools on offer. -/
inductive Tool where
  | check
  | explain
  | batch
  | formats
  deriving DecidableEq, Repr

namespace Tool

/-- The tools in the order in which they are listed. -/
def all : List Tool := [.check, .explain, .batch, .formats]

theorem mem_all (t : Tool) : t ∈ all := by cases t <;> decide

/-- The name by which the tool is called. -/
def name : Tool → String
  | .check => "check_editable"
  | .explain => "explain_editable"
  | .batch => "check_editable_batch"
  | .formats => "list_format_specifiers"

/-- The name of the tool's argument, if it has one. -/
def parameter? : Tool → Option String
  | .check | .explain => some "expression"
  | .batch => some "expressions"
  | .formats => none

/-- The names of the arguments that have to be given. -/
def required (t : Tool) : List String := t.parameter?.toList

/-! ### Descriptions -/

/-- The lines of the tool's description. -/
def descriptionLines : Tool → List String
  | .check =>
    ["Reports whether a watch expression names a location whose value can be",
      "set from the debugger.",
      "",
      "Args:",
      "    expression: The expression as typed in the watch field, optionally",
      "                with a display suffix such as \",x\" or \",b\".",
      "                Example: \"obj->arr[i+1],x\""]
  | .explain =>
    ["Returns the full classification of a watch expression: the stripped",
      "format hint, the bracket-masked view used for operator checks, and",
      "which check decided the result.",
      "",
      "Args:",
      "    expression: The expression as typed in the watch field."]
  | .batch =>
    ["Classifies several watch expressions at once.",
      "",
      "Args:",
      "    expressions: Newline-separated list of watch expressions.  Blank",
      "                 lines are ignored.",
      "                 Example: \"counter\\nbuf[i+1],x\\nlen - 1\""]
  | .formats =>
    ["Lists the display-format suffixes accepted at the end of a watch",
      "expression.  They never affect editability."]

/-- The four blanks before each line of a description. -/
def indent : List Char := List.replicate 4 ' '

/-- A line with its indentation; an empty line has none. -/
def indented (line : List Char) : List Char := if line.isEmpty then [] else indent ++ line

/-- The description as it is shown: every line on a new line and indented, and the indentation once
more after the last. -/
def description (t : Tool) : List Char :=
  (t.descriptionLines.flatMap fun line => '\n' :: indented line.toList) ++ '\n' :: indent

/-! ### Calls -/

/-- The tool of the given name. -/
def ofName? (name : List Char) : Option Tool := all.find? fun t => t.name.toList == name

/-- The answer of the tool to its argument; a tool without one ignores it. -/
def answer : Tool → List Char → List Char
  | .check, s => Report.check (.text s)
  | .explain, s => Report.explain (.text s)
  | .batch, s => Report.batchText s
  | .formats, _ => Report.formats

/-- The argument that the tool takes from those given, which may be more than it needs. -/
def argument (t : Tool) (given : List (List Char × List Char)) : Except Failure (List Char) :=
  match t.parameter? with
  | none => .ok []
  | some parameter =>
    match given.lookup parameter.toList with
    | some s => .ok s
    | none => .error (.missingArgument t.name parameter)

/-- The answer of the tool of the given name. -/
def call (name : List Char) (given : List (List Char × List Char)) :
    Except Failure (List Char) :=
  match ofName? name with
  | none => .error (.unknownTool name)
  | some t => (t.argument given).map t.answer

theorem ofName?_name (t : Tool) : ofName? t.name.toList = some t := by cases t <;> decide

end Tool

end WatchExpr
