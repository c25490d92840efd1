/-!
# TypeGraph.Yaml.Placed

The characters of a YAML text, each with its place.  In YAML the column of a
token says to which collection it belongs, and its line and offset whether it
can be a key.

1. A carriage return, with or without a line feed after it, and a next-line
   character end a line just as a line feed does.  The two separators of
   Unicode end a line as well, but remain what they are.
2. Control characters, half surrogate pairs and non-characters may not occur
   at all, in comments neither.
3. A column counts characters, an offset the bytes that they take in UTF-8.
-/

namespace TypeGraph.Yaml

/-- A character and its place, counted from zero. -/
structure Placed where
  char : Char
  line : Nat
  column : Nat
  /-- How many bytes there are before it in its line. -/
  offset : Nat
  deriving Repr

/-- Whether a character may occur in a text. -/
def isAllowed (c : Char) : Bool :=
  c == '\t' || c == '\n' || c == '\r' || ('\x20' ≤ c && c ≤ '\x7e') || c == '\x85'
    || ('\u00a0' ≤ c && c ≤ '\ufffd') || '\uffff' < c

def isBreak (c : Char) : Bool := c == '\n' || c == '\u2028' || c == '\u2029'

def isBlank (c : Char) : Bool := c == ' ' || c == '\t'

def isSpace (c : Char) : Bool := isBlank c || isBreak c

/-- The text with a line feed for each of the usual ends of a line. -/
def foldBreaks : List Char → List Char
  | '\r' :: '\n' :: rest => '\n' :: foldBreaks rest
  | '\r' :: rest => '\n' :: foldBreaks rest
  | '\x85' :: rest => '\n' :: foldBreaks rest
  | c :: rest => c :: foldBreaks rest
  | [] => []

/-- The characters with their places, the first one at the given place. -/
def placeFrom (line column offset : Nat) : List Char → List Placed
  | [] => []
  | c :: rest =>
    ⟨c, line, column, offset⟩
      :: if isBreak c then placeFrom (line + 1) 0 0 rest
        else placeFrom line (column + 1) (offset + c.utf8Size) rest

/-- The characters of a text with their places, if they all may occur. -/
def place? (text : List Char) : Option (List Placed) :=
  if text.all isAllowed then some (placeFrom 0 0 0 (foldBreaks text)) else none

namespace Placed

/-- Whether a text ends here, or goes on with a space or in another line. -/
def startsSpace (chars : List Placed) : Bool := chars.head?.all (isSpace ·.char)

/-- Whether a line starts here with the mark of three such characters, alone
or in front of a space. -/
def startsMark (mark : Char) : List Placed → Bool
  | a :: b :: c :: rest =>
    a.column == 0 && a.char == mark && b.char == mark && c.char == mark && startsSpace rest
  | _ => false

/-- Whether a mark stands here that begins or ends a document. -/
def startsDocumentMark (chars : List Placed) : Bool :=
  startsMark '-' chars || startsMark '.' chars

end Placed

end TypeGraph.Yaml
