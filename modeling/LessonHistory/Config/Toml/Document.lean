-- The lines of a settings file in TOML, and the entries that the whole file gives.
import LessonHistory.Config.Toml.Number

namespace LessonHistory

namespace Toml

/-- Why a text is no settings file: it does not follow the grammar, or its lines contradict each
other. -/
inductive DocumentError where
  | malformed
  | inconsistent (cause : BuildError)
  deriving DecidableEq

def DocumentError.message : DocumentError → String
  | malformed => "TOML parse error"
  | inconsistent (.definedTwice key) => "duplicate key " ++ key
  | inconsistent (.notATable key) => "key " ++ key ++ " does not lead to a table"

/-- Keys and values are nested less deep than this. -/
def depthLimit : Nat := 80

/-- The characters of keys without quotes. -/
def isKeyChar (c : Char) : Bool :=
  isDigit c || ('a' ≤ c && c ≤ 'z') || ('A' ≤ c && c ≤ 'Z') || c = '-' || c = '_'

namespace Scan

/-- Blanks, maybe none. -/
def blanks : Scan Unit := do
  let _ ← takeWhile isBlank

/-- A comment, up to the end of its line. -/
def comment : Scan Unit := do
  skip '#'
  let _ ← takeWhile isPrintable

/-- The end of a line, or of the text. -/
def lineEnd : Scan Unit := skip '\n' <|> atEnd

/-- The rest of a line behind all that counts. -/
def trailing : Scan Unit := do
  blanks
  let _ ← optional comment
  lineEnd

/-- Blanks, line ends and comments, as they may stand between the items of an array. -/
def gap : Scan Unit := do
  let _ ← many do
    let _ ← one isBlank <|> do
      let _ ← optional comment
      one (· = '\n')

/-- One key. -/
def simpleKey : Scan String :=
  basicText <|> literalText <|> do
    let first ← one isKeyChar
    let rest ← takeWhile isKeyChar
    pure (String.ofList (first :: rest))

/-- A key with blanks around it. -/
def paddedKey : Scan String := do
  blanks
  let key ← simpleKey
  blanks
  pure key

/-- Keys with points between them, split before the last one. -/
def dottedKey : Scan (List String × String) := do
  let first ← paddedKey
  let rest ← many do
    skip '.'
    paddedKey
  if depthLimit ≤ rest.length + 1 then failure
  match rest.getLast? with
  | none => pure ([], first)
  | some last => pure (first :: rest.dropLast, last)

/-- Values with commas between them, in brackets; a comma may follow the last one. -/
def array (value : Scan Value) : Scan Value := do
  let item : Scan Value := do
    gap
    let v ← value
    gap
    pure v
  skip '['
  let items ← optional do
    let first ← item
    let rest ← many do
      skip ','
      item
    let _ ← optional (skip ',')
    pure (first :: rest)
  gap
  skip ']'
  pure (.array (items.getD []))

/-- A key with its value. -/
def pair (value : Scan Value) : Scan (List String × String × Value) := do
  let (path, key) ← dottedKey
  skip '='
  blanks
  let v ← value
  blanks
  pure (path, key, v)

/-- Keys with values and commas between them, in braces on one line. -/
def inlineTable (value : Scan Value) : Scan Value := do
  skip '\x7b'
  let pairs ← optional do
    let first ← pair value
    let rest ← many do
      skip ','
      pair value
    pure (first :: rest)
  blanks
  skip '\x7d'
  let entries := (pairs.getD []).foldlM (fun entries (path, key, v) =>
    Entries.assign path key v .header entries) []
  match entries with
  | .ok entries => pure (.table .inline entries)
  | .error _ => failure

/-- A value that holds no others. -/
def scalar : Scan Value := do
  match ← peek with
  | some 't' => do
    skipAll ['t', 'r', 'u', 'e']
    pure (.boolean true)
  | some 'f' => do
    skipAll ['f', 'a', 'l', 's', 'e']
    pure (.boolean false)
  | some '"' => .text <$> text
  | some '\'' => .text <$> text
  | _ => number

/-- A value that holds others down to the given depth. -/
def value : Nat → Scan Value
  | 0 => scalar
  | depth + 1 => do
    match ← peek with
    | some '[' => array (value depth)
    | some '\x7b' => inlineTable (value depth)
    | _ => scalar

/-- A header in double brackets. -/
def elementHeader : Scan Line := do
  skipAll ['[', '[']
  let (path, key) ← dottedKey
  skipAll [']', ']']
  trailing
  pure (.elementHeader path key)

/-- A header in brackets. -/
def header : Scan Line := do
  skip '['
  let (path, key) ← dottedKey
  skip ']'
  trailing
  pure (.header path key)

/-- A key with its value, on a line of its own. -/
def assignment : Scan Line := do
  let (path, key, v) ← pair (value (depthLimit - 1))
  trailing
  pure (.assignment path key v)

/-- One line; empty ones and comments give nothing. -/
def line : Scan (Option Line) := do
  blanks
  match ← peek with
  | none => failure
  | some '#' => do
    comment
    lineEnd
    pure none
  | some '\n' => do
    skip '\n'
    pure none
  | some '[' => some <$> (elementHeader <|> header)
  | some _ => some <$> assignment

/-- All lines of a text. -/
def document : Scan (List Line) := do
  let lines ← many line
  blanks
  atEnd
  pure (lines.filterMap id)

end Scan

/-- The characters with every line end written as one character. A carriage return belongs to
a line end. -/
def unifyLineEnds : List Char → Option (List Char)
  | [] => some []
  | '\r' :: '\n' :: rest => (unifyLineEnds rest).map ('\n' :: ·)
  | c :: rest => if c = '\r' then none else (unifyLineEnds rest).map (c :: ·)

/-- The characters without the mark that may tell the encoding at the start of a text. -/
def dropMark : List Char → List Char
  | '\uFEFF' :: rest => rest
  | cs => cs

/-- The lines of a text. -/
def lines (content : String) : Option (List Line) := do
  let cs ← unifyLineEnds (dropMark content.toList)
  let (lines, _) ← Scan.document.run cs
  pure lines

/-- The entries of a settings file. -/
def parse (content : String) : Except DocumentError Entries :=
  match lines content with
  | none => .error .malformed
  | some lines =>
    match build lines with
    | .error cause => .error (.inconsistent cause)
    | .ok entries => .ok entries

end Toml

end LessonHistory
