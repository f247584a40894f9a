-- Reading from the front of a text. A scanner gives a value and the characters behind it, or
-- nothing.

namespace LessonHistory

namespace Toml

/-- A scanner takes a value off the front of the characters. -/
abbrev Scan := StateT (List Char) Option

namespace Scan

/-- The first character, if it passes the test. -/
def one (test : Char → Bool) : Scan Char
  | [] => none
  | c :: rest => if test c then some (c, rest) else none

/-- Takes off one given character. -/
def skip (c : Char) : Scan Unit := do
  let _ ← one (· == c)

/-- Takes off the given characters. -/
def skipAll : List Char → Scan Unit
  | [] => pure ()
  | c :: rest => do
    skip c
    skipAll rest

/-- The characters up to the first that fails the test. -/
def takeWhile (test : Char → Bool) : Scan (List Char) := fun cs =>
  some (cs.takeWhile test, cs.dropWhile test)

/-- The first character, which stays where it is. -/
def peek : Scan (Option Char) := fun cs => some (cs.head?, cs)

/-- Checks that nothing is left. -/
def atEnd : Scan Unit
  | [] => some ((), [])
  | _ => none

/-- What the scanner gives, if it gives anything. -/
def optional {α : Type} (scan : Scan α) : Scan (Option α) :=
  (some <$> scan) <|> pure none

/-- What the scanner gives time after time, until it gives nothing or takes nothing off, and
the characters behind it. -/
def collect {α : Type} (scan : Scan α) (cs : List Char) : List α × List Char :=
  match scan cs with
  | none => ([], cs)
  | some (a, rest) =>
    if rest.length < cs.length then
      let (others, rest) := collect scan rest
      (a :: others, rest)
    else ([], cs)
termination_by cs.length

/-- What the scanner gives time after time, maybe never. -/
def many {α : Type} (scan : Scan α) : Scan (List α) := fun cs => some (collect scan cs)

/-- The characters that a scanner takes off. -/
def taken (scan : Scan Unit) : Scan (List Char) := fun cs =>
  match scan cs with
  | none => none
  | some (_, rest) => some (cs.take (cs.length - rest.length), rest)

end Scan

end Toml

end LessonHistory
