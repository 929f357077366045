import WatchExpr.Server

/-!
# The program

Announces the tools on the standard error stream.
-/

/-- Writes the notice with which the server starts. -/
def main : IO Unit := do
  let stderr ← IO.getStderr
  stderr.putStr (String.ofList WatchExpr.Server.startupNotice)
  stderr.flush
