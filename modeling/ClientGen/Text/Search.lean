/-!
# Search

Whether a text stands somewhere in another one.
-/
namespace ClientGen.Text

/-- Whether characters stand one after another somewhere in others. -/
def occursIn (part : List Char) : List Char → Bool
  | [] => part.isEmpty
  | c :: rest => part.isPrefixOf (c :: rest) || occursIn part rest

/-- Whether a text stands somewhere in another one. -/
def includes (text part : String) : Bool := occursIn part.toList text.toList

end ClientGen.Text
