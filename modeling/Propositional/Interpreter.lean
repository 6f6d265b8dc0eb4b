namespace Propositional

/-- The limits of the interpreter that a program runs on. How far calls may be nested differs from
one release to the next and with the place a program is called from, so that no numbers are built
in: there is some room, and a limit on digits cannot be set as low as one likes. -/
class Interpreter where
  /-- The calls that may be under way at one time while a text is parsed or evaluated. -/
  callLimit : Nat
  /-- The height up to which a formula can be shown, or compared with another. -/
  maxHeight : Nat
  /-- The containers of a JSON text that may be open at one time. -/
  maxContainers : Nat
  /-- The missing folders that can be made one inside the other. -/
  maxFolders : Nat
  /-- The digits up to which an integer is written and read in decimals, if there is a limit. -/
  maxDigits : Option Nat
  calls_room : 800 ≤ callLimit
  containers_room : 3 ≤ maxContainers
  digits_room : ∀ limit ∈ maxDigits, 640 ≤ limit

export Interpreter (callLimit)

namespace Interpreter

/-- The limits of an ordinary run, where nothing is set. -/
instance (priority := low) ordinary : Interpreter where
  callLimit := 1000
  maxHeight := 330
  maxContainers := 990
  maxFolders := 985
  maxDigits := some 4300
  calls_room := by decide
  containers_room := by decide
  digits_room := by decide

/-- The limit on digits that an integer goes beyond, if it does; its sign does not count. -/
def exceeded? [Interpreter] (n : Int) : Option Nat :=
  maxDigits.filter (· < (Nat.toDigits 10 n.natAbs).length)

/-- What is told instead of an integer that is too long to be written. -/
def longIntegerMessage (limit : Nat) : String :=
  s!"Exceeds the limit ({limit} digits) for integer string conversion; use " ++
    "sys.set_int_max_str_digits() to increase the limit"

end Interpreter

end Propositional
