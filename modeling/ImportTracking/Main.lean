import ImportTracking.Command

/-!
# Main

Reads the database from standard input, carries the command out, and writes what comes of it.
-/

open ImportTracking in
def main (arguments : List String) : IO UInt32 := do
  match Command.ofArguments? arguments with
  | none =>
    (← IO.getStderr).putStrLn Command.usage
    return 2
  | some command =>
    let input ← IO.getStdin
    let document ← input.readToEnd
    match command.execute document with
    | .ok text =>
      (← IO.getStdout).putStr text
      return 0
    | .error message =>
      (← IO.getStderr).putStrLn ("Error: " ++ message)
      return 1
