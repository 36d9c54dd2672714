/-!
# Quoting for the shell

`quote` turns any text into one word of a shell command line. A text of safe characters stays as
it is; any other goes between single quotes, and a single quote inside is written as a closing
quote, a quoted quote and an opening quote.
-/

namespace SubpathCsi.Shell

/-- Characters with no meaning to the shell: ASCII letters and digits, `_` and `@%+=:,/.-`. -/
def isSafe (c : Char) : Bool :=
  c.isAlphanum || c = '_' || "@%+=:,/.-".toList.contains c

/-- The text between single quotes. -/
def escapeQuotes (cs : List Char) : List Char :=
  cs.flatMap fun c => if c = '\'' then "'\"'\"'".toList else [c]

/-- A text as one word of a command line. -/
def quoteText (cs : List Char) : List Char :=
  if cs.isEmpty then ['\'', '\'']
  else if cs.all isSafe then cs
  else '\'' :: escapeQuotes cs ++ ['\'']

/-- A string as one word of a command line. -/
def quote (s : String) : String := String.ofList (quoteText s.toList)

end SubpathCsi.Shell
