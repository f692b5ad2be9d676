import TaskGraph.Decimal.Shortest
import TaskGraph.Json.Parser

/-!
# Reading floats

An optional sign, then `inf`, `infinity` or `nan` in any case, or digits with an optional point and
an optional exponent. At least one digit stands before the exponent, on either side of the point.
-/

namespace TaskGraph.Text

def lowerAscii (s : List Char) : String := String.ofList (s.map Char.toLower)

/-- The part from the exponent mark on: all of the rest, or nothing. -/
def exponent? : List Char → Option Int
  | [] => some 0
  | 'e' :: rest | 'E' :: rest =>
    match Json.exponentPart rest with
    | some (n, []) => some n
    | _ => none
  | _ => none

def magnitude? (negative : Bool) (s : List Char) : Option Float :=
  let whole := s.takeWhile Char.isDigit
  let (fraction, rest) := match s.dropWhile Char.isDigit with
    | '.' :: rest => (rest.takeWhile Char.isDigit, rest.dropWhile Char.isDigit)
    | rest => ([], rest)
  if whole.isEmpty && fraction.isEmpty then none
  else
    (exponent? rest).map fun e =>
      Decimal.toFloat negative ⟨Json.digitsValue (whole ++ fraction), e - fraction.length⟩

def unsigned? (negative : Bool) (s : List Char) : Option Float :=
  match lowerAscii s with
  | "inf" | "infinity" => some (Binary.signed negative Binary.infinity)
  | "nan" => some Binary.nan
  | _ => magnitude? negative s

def readFloat? (s : String) : Option Float :=
  match s.toList with
  | '-' :: rest => unsigned? true rest
  | '+' :: rest => unsigned? false rest
  | rest => unsigned? false rest

end TaskGraph.Text
