import HandStudy.Unicode.Word

/-!
# Text in messages

A text that a message quotes is shown with its quotes, line ends and invisible
characters escaped.
-/

namespace HandStudy.Text

/-- One character of a quoted text. -/
def debugChar (c : Char) : List Char :=
  if c = '\x00' then ['\\', '0']
  else if c = '\t' then ['\\', 't']
  else if c = '\r' then ['\\', 'r']
  else if c = '\n' then ['\\', 'n']
  else if c = '"' || c = '\\' then ['\\', c]
  else if Unicode.shownSet.contains c then [c]
  else "\\u\x7b".toList ++ Nat.toDigits 16 c.toNat ++ ['\x7d']

/-- A text in quotes, as messages show it. -/
def debug (s : String) : String :=
  String.ofList ('"' :: s.toList.flatMap debugChar ++ ['"'])

end HandStudy.Text
