/-!
# Words of a shell

A line is split at blanks into words. Single quotes keep everything between them; double quotes
keep blanks, and a backslash in them keeps its meaning only in front of a few characters. Outside
of quotes a backslash takes the next character as it is. An escaped line end is left out.
-/
namespace ClientGen.Text

/-- Where in a line a reader is. -/
inductive ShellQuote where
  | outside
  | single
  | double
deriving DecidableEq, Repr

def isShellBlank (c : Char) : Bool := c == ' ' || c == '\t' || c == '\n'

/-- Whether a backslash between double quotes takes a character as it is. -/
def isShellEscapable (c : Char) : Bool := c == '$' || c == '\x60' || c == '"' || c == '\\'

/-- Puts a character at the end of a word, which begins with it if there is none. -/
def extendWord (word : Option (List Char)) (c : Char) : Option (List Char) :=
  some (word.getD [] ++ [c])

/-- The rest of a line as words, the first of which has begun if it is there. A quote without its
partner and a backslash at the end are malformed. -/
def shellWordsFrom : ShellQuote → Option (List Char) → List Char → Option (List (List Char))
  | .outside, word, [] => some word.toList
  | .single, _, [] => none
  | .double, _, [] => none
  | .outside, _, ['\\'] => none
  | .outside, word, '\\' :: c :: rest =>
    shellWordsFrom .outside (if c == '\n' then word else extendWord word c) rest
  | .outside, word, c :: rest =>
    if c == '\'' then shellWordsFrom .single (some (word.getD [])) rest
    else if c == '"' then shellWordsFrom .double (some (word.getD [])) rest
    else if isShellBlank c then (shellWordsFrom .outside none rest).map (word.toList ++ ·)
    else shellWordsFrom .outside (extendWord word c) rest
  | .single, word, c :: rest =>
    if c == '\'' then shellWordsFrom .outside word rest
    else shellWordsFrom .single (extendWord word c) rest
  | .double, _, ['\\'] => none
  | .double, word, '\\' :: c :: rest =>
    if c == '\n' then shellWordsFrom .double word rest
    else if isShellEscapable c then shellWordsFrom .double (extendWord word c) rest
    else shellWordsFrom .double (extendWord (extendWord word '\\') c) rest
  | .double, word, c :: rest =>
    if c == '"' then shellWordsFrom .outside word rest
    else shellWordsFrom .double (extendWord word c) rest

/-- The words of a line, unless it is malformed. -/
def shellWords? (line : String) : Option (List String) :=
  (shellWordsFrom .outside none line.toList).map (·.map String.ofList)

end ClientGen.Text
