/-!
# Markup

The service's markup has three spellings of a line break and seven entities;
everything else, other tags included, is text that is shown as it is.  `lines`
is the text of a markup as terminal lines.
-/

namespace OperatorConsole.Markup

/-- A token of the markup and the text that it stands for. -/
structure Token where
  spelling : List Char
  meaning : List Char
deriving DecidableEq, Repr

def Token.of (spelling meaning : String) : Token :=
  ⟨spelling.toList, meaning.toList⟩

/-- The tokens in the order in which they are replaced.  `&amp;` comes last, so
that the `&` it leaves behind begins no other token. -/
def tokens : List Token := [
  .of "<br/>" "\n",
  .of "<br />" "\n",
  .of "<br>" "\n",
  .of "&ensp;" "  ",
  .of "&emsp;" "    ",
  .of "&nbsp;" " ",
  .of "&quot;" "\"",
  .of "&lt;" "<",
  .of "&gt;" ">",
  .of "&amp;" "&"]

/-- Replace a token in a list of which the first `skip` characters belong to a
token that has been replaced already. -/
def replaceFrom (token : Token) : Nat → List Char → List Char
  | _, [] => []
  | skip + 1, _ :: rest => replaceFrom token skip rest
  | 0, c :: rest =>
      if token.spelling.isPrefixOf (c :: rest) then
        token.meaning ++ replaceFrom token (token.spelling.length - 1) rest
      else
        c :: replaceFrom token 0 rest

/-- Replace every occurrence of a token, from the left. -/
def replaceToken (cs : List Char) (token : Token) : List Char :=
  replaceFrom token 0 cs

/-- The text of a markup: all tokens replaced, one after the other. -/
def decode (cs : List Char) : List Char :=
  tokens.foldl replaceToken cs

/-- Drop an empty line at the end: a block ends with two breaks, and one blank
line between blocks is enough. -/
def dropLastEmpty (lines : List (List Char)) : List (List Char) :=
  if lines.getLast? = some [] then lines.dropLast else lines

/-- The terminal lines of a markup. -/
def lines (markup : String) : List String :=
  (dropLastEmpty ((decode markup.toList).splitOn '\n')).map String.ofList

end OperatorConsole.Markup
