/-!
# Cutting texts

A text is cut at every character of a class; what stands between two cuts, empty or not, is a part.
-/

namespace Arbitrage.Text

/-- Cut a text at every character of a class; the pieces may be empty, and there is one more than
there are cuts. -/
def splitOn (separator : Char → Bool) : List Char → List (List Char)
  | [] => [[]]
  | c :: cs =>
    if separator c then [] :: splitOn separator cs
    else
      match splitOn separator cs with
      | [] => [[c]]
      | part :: parts => (c :: part) :: parts

end Arbitrage.Text
