import TypeGraph.Text.GraphicTable

/-!
# TypeGraph.Text.Quoted

Texts and lists of texts between quotes, in one line that shows every
character:

1. the quote, the backslash, tab, line feed, carriage return and NUL are
   written as a backslash and one character;
2. a character that prints nothing, or would merge with the one before it,
   is written as its code point, `\u` and hexadecimal digits in braces;
3. every other character stands for itself.
-/

namespace TypeGraph.Text

/-- The hexadecimal digits of a number, lower case, without leading zeros. -/
def hexDigits (n : Nat) : List Char := Nat.toDigits 16 n

/-- One character as it stands between quotes. -/
def quotedChar (c : Char) : List Char :=
  match c with
  | '"' => ['\\', '"']
  | '\\' => ['\\', '\\']
  | '\t' => ['\\', 't']
  | '\n' => ['\\', 'n']
  | '\r' => ['\\', 'r']
  | '\x00' => ['\\', '0']
  | c =>
    if graphemeExtendSet.contains c || unprintableSet.contains c then
      ['\\', 'u', '\x7b'] ++ hexDigits c.toNat ++ ['\x7d']
    else [c]

def quoted (s : String) : String :=
  String.ofList ('"' :: s.toList.flatMap quotedChar ++ ['"'])

def quotedList (items : List String) : String :=
  "[" ++ String.intercalate ", " (items.map quoted) ++ "]"

end TypeGraph.Text
