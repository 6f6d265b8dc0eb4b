namespace Propositional.Shell

/-- The commands that add a symbol to the buffer. -/
def palette : List (String × String) := [
  (":p", "p"), (":q", "q"), (":r", "r"), (":s", "s"), (":t", "t"), (":y", "∧"), (":o", "∨"),
  (":no", "¬"), (":si", "→"), (":sii", "↔"), (":(", "("), (":)", ")")]

def clearCommand : String := ":limpiar"
def symbolsCommand : String := ":simbolos"
def exitWords : List String := ["salir", "exit", "quit"]

/-- A command and its symbol, in columns. -/
def paletteLine (command symbol : String) : String :=
  "   " ++ command ++ String.ofList (List.replicate (6 - command.length) ' ') ++ " " ++ symbol

end Propositional.Shell
