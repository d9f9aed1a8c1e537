/-!
  Line ends.

  A line may end with a line feed, with a carriage return, or with both in this order.
-/
namespace CodeAtlas.Text

/-- Line feeds for all line ends, after what comes before (reversed). -/
def unixLineEndsOnto (acc : List Char) : List Char → List Char
  | '\r' :: '\n' :: rest => unixLineEndsOnto ('\n' :: acc) rest
  | '\r' :: rest => unixLineEndsOnto ('\n' :: acc) rest
  | c :: rest => unixLineEndsOnto (c :: acc) rest
  | [] => acc.reverse

/-- Line feeds for all line ends. -/
def unixLineEnds (cs : List Char) : List Char := unixLineEndsOnto [] cs

/-- A text with line feeds for all line ends. -/
def withUnixLineEnds (s : String) : String := String.ofList (unixLineEnds s.toList)

example : unixLineEnds ['a', '\r', '\n', '\r', '\n', '\r'] = ['a', '\n', '\n', '\n'] := by decide +kernel

end CodeAtlas.Text
