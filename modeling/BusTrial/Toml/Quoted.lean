import BusTrial.Text.Hex
import BusTrial.Text.Take
import BusTrial.Toml.Basic

/-!
# Quoted texts in TOML

There are four kinds of quoted text: with double quotes, in which a backslash escapes, and with single
quotes, in which nothing does; either kind on one line, or over several lines between quotes that are
written three times.  A text over several lines drops a line end that follows its opening quotes, and
may hold one or two quotes in a row, also before its closing quotes.  Its line ends are line feeds,
whichever way they are written.
-/

namespace BusTrial.Toml

open Text Text.Take

/-- The character may stand in a text or a comment: a tab, or anything that is no control
character of ASCII. -/
def isPlain (c : Char) : Bool :=
  c == '\t' || (0x20 ≤ c.toNat && c.toNat != 0x7f)

/-- A blank within a line. -/
def isBlankChar (c : Char) : Bool :=
  c == ' ' || c == '\t'

/-- Takes the blanks that stand at the front, if any. -/
def takeBlanks : Take Unit :=
  discard (span isBlankChar)

/-- Takes a line end. -/
def takeNewline : Take Unit :=
  char '\n' <|> word "\r\n"

/-- Takes an escaped character that is written as a number. -/
def takeCodePoint (digits : Nat) : Take Char := do
  let ds ← exactly digits fun c => (hexValue? c).isSome
  let n := ds.foldl (fun n d => 16 * n + (hexValue? d).getD 0) 0
  guard n.isValidChar
  return .ofNat n

/-- Takes an escaped character. -/
def takeEscape : Take Char := do
  char '\\'
  let c ← one fun _ => true
  if c == '"' || c == '\\' then return c
  else if c == 'b' then return '\x08'
  else if c == 'f' then return '\x0c'
  else if c == 'n' then return '\n'
  else if c == 'r' then return '\r'
  else if c == 't' then return '\t'
  else if c == 'u' then takeCodePoint 4
  else if c == 'U' then takeCodePoint 8
  else failure

/-- The character stands for itself between double quotes. -/
def isBasicPlain (c : Char) : Bool :=
  isPlain c && c != '"' && c != '\\'

/-- Takes a part of a text between double quotes: characters that stand for themselves, or an escaped
one. -/
def takeBasicPart : Take (List Char) :=
  (return (← one isBasicPlain) :: (← span isBasicPlain)) <|> (return [← takeEscape])

/-- Takes a text on one line between double quotes. -/
def takeBasic : Take String := do
  char '"'
  let parts ← many takeBasicPart
  char '"'
  return .ofList parts.flatten

/-- Takes a text on one line between single quotes. -/
def takeLiteral : Take String := do
  char '\''
  let cs ← span fun c => isPlain c && c != '\''
  char '\''
  return .ofList cs

/-! ## Texts over several lines -/

/-- Takes a backslash at the end of a line with all blanks and line ends after it. -/
def takeJoin : Take Unit := do
  char '\\'
  takeBlanks
  takeNewline
  let _ ← many (discard (one isBlankChar) <|> takeNewline)

/-- Takes a part of a text over several lines: what `part` takes, a line end, or one or two quotes. -/
def takeLinesPart (quote : Char) (part : Take (List Char)) : Take (List Char) :=
  part <|> (do takeNewline; return ['\n']) <|> do
    let quotes ← span (· == quote)
    guard (quotes.length == 1 || quotes.length == 2)
    return quotes

/-- Takes a text between quotes that are written three times; of up to five quotes at its end, the
first two are its own. -/
def takeLines (quote : Char) (part : Take (List Char)) : Take String := do
  word (.ofList (List.replicate 3 quote))
  let _ ← optional takeNewline
  let parts ← many (takeLinesPart quote part)
  let quotes ← span (· == quote)
  guard (3 ≤ quotes.length && quotes.length ≤ 5)
  return .ofList (parts.flatten ++ quotes.drop 3)

/-- Takes a quoted text of any kind. -/
def takeText : Take String :=
  takeLines '"' ((do takeJoin; return []) <|> takeBasicPart)
    <|> takeLines '\'' (return [← one fun c => isPlain c && c != '\''])
    <|> takeBasic <|> takeLiteral

end BusTrial.Toml
