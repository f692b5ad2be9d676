import TaskGraph.Unicode.Blank

/-!
# Plain text operations
-/

namespace TaskGraph.Text

def trimStart (s : List Char) : List Char := s.dropWhile Unicode.isBlank

/-- Drops the trailing characters that satisfy `p`. -/
def dropEnd (p : Char → Bool) (s : List Char) : List Char := (s.reverse.dropWhile p).reverse

def trimEnd (s : List Char) : List Char := dropEnd Unicode.isBlank s

/-- Drops blanks at both ends. -/
def trim (s : String) : String := String.ofList (trimEnd (trimStart s.toList))

def startsWith (s lead : String) : Bool := lead.toList.isPrefixOf s.toList

def endsWith (s tail : String) : Bool := tail.toList.isSuffixOf s.toList

/-- Whether `part` begins at one of the positions of `s`. -/
def occursIn (part : List Char) : List Char → Bool
  | [] => part.isEmpty
  | c :: rest => part.isPrefixOf (c :: rest) || occursIn part rest

def contains (s part : String) : Bool := occursIn part.toList s.toList

/-- What follows `lead`, if `s` starts with it. -/
def stripLead? (lead s : String) : Option String :=
  if startsWith s lead then some (String.ofList (s.toList.drop lead.length)) else none

/-- Splits at every character that satisfies `p`; `n` such characters give `n + 1` parts. -/
def split (p : Char → Bool) : List Char → List (List Char)
  | [] => [[]]
  | c :: rest =>
    if p c then [] :: split p rest
    else
      match split p rest with
      | [] => [[c]]
      | part :: parts => (c :: part) :: parts

/-- A text between double quotes, with nothing escaped. -/
def enclosed (s : String) : String := "\"" ++ s ++ "\""

/-- Joins the parts with `sep` between them. -/
def join (sep : String) (parts : List String) : String := sep.intercalate parts

end TaskGraph.Text
