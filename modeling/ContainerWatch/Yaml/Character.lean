/-!
# Characters of YAML

The classes of characters that the grammar of YAML tells apart.  Line breaks are brought to one form
before anything is read: `normalBreaks` writes a carriage return, with or without a line feed, and the
next-line character as a line feed, and leaves the line and paragraph separators as they are.
-/

namespace ContainerWatch.Yaml

/-- Whether a character may stand in a document. -/
def isAllowed (c : Char) : Bool :=
  let n := c.toNat
  n == 0x09 || n == 0x0A || n == 0x0D || (0x20 ≤ n && n ≤ 0x7E) || n == 0x85
    || (0xA0 ≤ n && n ≤ 0xD7FF) || (0xE000 ≤ n && n ≤ 0xFFFD) || 0x10000 ≤ n

/-- The characters that end a line, after breaks were brought to one form. -/
def isBreak (c : Char) : Bool := c == '\n' || c == '\u2028' || c == '\u2029'

/-- The characters that part words within a line. -/
def isBlank (c : Char) : Bool := c == ' ' || c == '\t'

/-- The characters of which names are made. -/
def isNameChar (c : Char) : Bool := c.isAlphanum || c == '_' || c == '-'

/-- The characters of which tags are made besides those of names. -/
def isTagMark (c : Char) : Bool := ";/?:@&=+$.%!~*'()".toList.contains c

/-- The characters that open or close a collection written in brackets, and the comma in it. -/
def isFlowMark (c : Char) : Bool :=
  c == ',' || c == '[' || c == ']' || c == '\x7b' || c == '\x7d'

/-- The characters with a meaning of their own at the start of a scalar. -/
def isIndicator (c : Char) : Bool := isFlowMark c || "-?:#&*!|>'\"%@`".toList.contains c

/-- Whether a text is at its end or starts with a space, a tab or a line break. -/
def endsWord : List Char → Bool
  | [] => true
  | c :: _ => isBlank c || isBreak c

/-- Whether a text is at its end or starts with a line break. -/
def endsLine : List Char → Bool
  | [] => true
  | c :: _ => isBreak c

/-- A text with all line breaks in one form. -/
def normalBreaks : List Char → List Char
  | [] => []
  | '\r' :: '\n' :: rest => '\n' :: normalBreaks rest
  | c :: rest => (if c == '\r' || c == '\u0085' then '\n' else c) :: normalBreaks rest

end ContainerWatch.Yaml
