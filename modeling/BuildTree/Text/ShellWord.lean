/-!
# Shell words

Arguments as a shell reads them back. An argument of safe characters alone stands as it is; any other is put
into single quotes, in which only the single quote needs help: it is written in double quotes between two
quoted pieces. The equals sign is safe, so `--flag=a b` becomes one quoted word.
-/

namespace BuildTree.Text

/-- The characters that mean nothing to a shell. -/
def isShellSafe (c : Char) : Bool :=
  c.isAlphanum || c == '_' || c == '@' || c == '%' || c == '+' || c == '=' || c == ':' || c == ','
    || c == '.' || c == '/' || c == '-'

def shellQuotedChar (c : Char) : List Char :=
  if c = '\'' then ['\'', '"', '\'', '"', '\''] else [c]

def shellWordChars (cs : List Char) : List Char :=
  if !cs.isEmpty && cs.all isShellSafe then cs
  else '\'' :: cs.flatMap shellQuotedChar ++ ['\'']

def shellWord (arg : String) : String :=
  String.ofList (shellWordChars arg.toList)

def shellLine (args : List String) : String :=
  String.intercalate " " (args.map shellWord)

end BuildTree.Text
