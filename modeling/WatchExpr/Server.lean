import WatchExpr.Text.Decimal
import WatchExpr.Text.Quoted
import WatchExpr.Tool

/-!
# The server

The name under which the tools are offered, and the line that announces them when the server
starts.
-/

namespace WatchExpr.Server

/-- The name of the server. -/
def name : String := "Editable Watch Agent"

/-- Texts between brackets, each quoted and with a comma between any two. -/
def quotedList (items : List (List Char)) : List Char :=
  '[' :: ([',', ' '].intercalate (items.map quoted) ++ [']'])

/-- The line that announces the given tools. -/
def announcement (tools : List Tool) : List Char :=
  "DEBUG: ".toList ++ name.toList ++ " starting with ".toList ++ natText tools.length
    ++ " tools: ".toList ++ quotedList (tools.map fun t => t.name.toList) ++ ['\n']

/-- What is announced when the server starts. -/
def startupNotice : List Char := announcement Tool.all

end WatchExpr.Server
