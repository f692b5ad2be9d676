import TaskGraph.Unicode.Printable

/-!
# Quoted text

Messages show text between double quotes. What could be misread or not be seen at all is escaped:
quotes, backslashes, control characters, combining marks and what is not printed.
-/

namespace TaskGraph.Text

def quoteChar (c : Char) : List Char :=
  match c with
  | '"' => ['\\', '"']
  | '\\' => ['\\', '\\']
  | '\n' => ['\\', 'n']
  | '\r' => ['\\', 'r']
  | '\t' => ['\\', 't']
  | '\x00' => ['\\', '0']
  | c =>
    if Unicode.isExtender c || Unicode.isIgnorable c || !Unicode.isPrintable c then
      '\\' :: 'u' :: '\x7b' :: Nat.toDigits 16 c.toNat ++ ['\x7d']
    else [c]

def quoted (s : String) : String :=
  String.ofList ('"' :: s.toList.flatMap quoteChar ++ ['"'])

end TaskGraph.Text
