/-! Line breaks: a carriage return, alone or before a line feed, is read as one line feed. -/

namespace LuauLayout.Text

/-- The text with every line break written as one line feed. -/
def unifyLineBreaks : List Char → List Char
  | [] => []
  | '\r' :: '\n' :: rest => '\n' :: unifyLineBreaks rest
  | '\r' :: rest => '\n' :: unifyLineBreaks rest
  | c :: rest => c :: unifyLineBreaks rest

end LuauLayout.Text
