-- Texts in a settings file: between quotes, where a backslash starts an escape, or between
-- apostrophes, where nothing does. Either kind also comes with three marks on each side and
-- may then go over several lines.
import LessonHistory.Config.Toml.Scan

namespace LessonHistory

namespace Toml

/-- Spaces and tabs. -/
def isBlank (c : Char) : Bool := c = ' ' || c = '\t'

/-- Whether a character may stand in a text or a comment: a tab, or one that is no control
character. -/
def isPrintable (c : Char) : Bool := c = '\t' || (0x20 ≤ c.toNat && c.toNat ≠ 0x7F)

/-- The value of a hexadecimal digit. -/
def hexValue? (c : Char) : Option Nat :=
  if '0' ≤ c ∧ c ≤ '9' then some (c.toNat - '0'.toNat)
  else if 'a' ≤ c ∧ c ≤ 'f' then some (c.toNat - 'a'.toNat + 10)
  else if 'A' ≤ c ∧ c ≤ 'F' then some (c.toNat - 'A'.toNat + 10)
  else none

/-- The number with the given hexadecimal digits. -/
def hexNumber? (digits : List Char) : Option Nat :=
  digits.foldlM (fun n c => (hexValue? c).map (16 * n + ·)) 0

/-- The character with a code, if there is one. -/
def charOfCode? (code : Nat) : Option Char :=
  if code.isValidChar then some (Char.ofNat code) else none

/-- The character that a letter after a backslash stands for. -/
def escapedChar? (c : Char) : Option Char :=
  if c = 'b' then some '\x08'
  else if c = 't' then some '\t'
  else if c = 'n' then some '\n'
  else if c = 'f' then some '\x0c'
  else if c = 'r' then some '\r'
  else if c = '"' then some '"'
  else if c = '\\' then some '\\'
  else none

namespace Scan

/-- As many hexadecimal digits as asked for, as the code of a character. -/
def code (digits : Nat) : Scan Char := fun cs =>
  if cs.length < digits then none
  else do
    let number ← hexNumber? (cs.take digits)
    let c ← charOfCode? number
    pure (c, cs.drop digits)

/-- An escape. -/
def escape : Scan Char := do
  skip '\\'
  let c ← one fun _ => true
  if c = 'u' then code 4
  else if c = 'U' then code 8
  else
    match escapedChar? c with
    | some c => pure c
    | none => failure

/-- A text between quotes. -/
def basicText : Scan String := do
  skip '"'
  let content ← many (escape <|> one fun c => isPrintable c && c ≠ '"' && c ≠ '\\')
  skip '"'
  pure (String.ofList content)

/-- A text between apostrophes. -/
def literalText : Scan String := do
  skip '\''
  let content ← takeWhile fun c => isPrintable c && c ≠ '\''
  skip '\''
  pure (String.ofList content)

/-- A backslash at the end of a line takes the line end, and all blanks and line ends behind
it, out of the text. -/
def lineJoin : Scan (List Char) := do
  skip '\\'
  let _ ← takeWhile isBlank
  skip '\n'
  let _ ← takeWhile fun c => isBlank c || c = '\n'
  pure []

/-- One or two marks inside a text that three marks end. -/
def innerMarks (mark : Char) : Scan (List Char) := do
  let marks ← takeWhile (· = mark)
  if marks.length = 1 ∨ marks.length = 2 then pure marks else failure

/-- The three marks that end a text, with up to two more before them that belong to it. -/
def closingMarks (mark : Char) : Scan (List Char) := do
  let marks ← takeWhile (· = mark)
  if 3 ≤ marks.length ∧ marks.length ≤ 5 then pure (marks.drop 3) else failure

/-- A text over several lines, given what stands in it beside its marks. -/
def multiline (mark : Char) (piece : Scan (List Char)) : Scan String := do
  skipAll [mark, mark, mark]
  let _ ← optional (skip '\n')
  let pieces ← many (piece <|> innerMarks mark)
  let last ← closingMarks mark
  pure (String.ofList (pieces.flatten ++ last))

/-- A text over several lines between quotes. -/
def multilineBasicText : Scan String :=
  multiline '"' <| lineJoin <|> (fun c => [c]) <$>
    (escape <|> one fun c => c = '\n' || (isPrintable c && c ≠ '"' && c ≠ '\\'))

/-- A text over several lines between apostrophes. -/
def multilineLiteralText : Scan String :=
  multiline '\'' <| (fun c => [c]) <$>
    one fun c => c = '\n' || (isPrintable c && c ≠ '\'')

def text : Scan String :=
  multilineBasicText <|> basicText <|> multilineLiteralText <|> literalText

end Scan

end Toml

end LessonHistory
