/-!
# Comments in a Layer Text

A line loses its line comments, from `//` to its end, and its block comments, from `/*` to
`*/`, which may close on a later line. A block comment that closes leaves one space behind.
Inside a literal, between two double quotes or two apostrophes, comment marks are text, and
a backslash protects the character after it.

A line that starts with `#` and then ends, or goes on with a blank or another `#`, is a
comment as a whole.
-/

namespace LayeredFlags.LayerText

/-- Where in a layer text a character stands. -/
inductive Region where
  /-- Outside literals and comments. -/
  | code
  /-- Inside a literal that the given mark closes. -/
  | literal (mark : Char)
  /-- Inside a block comment that was opened on the given line. -/
  | block (openedOn : Nat)
deriving DecidableEq, Repr

/-- The character opens a literal, and closes it again. -/
def isQuote (c : Char) : Bool :=
  c == '\x22' || c == '\x27'

/-- The text of a line without its comments, and the region that its end is in. The second
argument is the region that the line starts in. A line comment ends in code. -/
def stripComments (line : Nat) : Region → List Char → List Char × Region
  | region, [] => ([], region)
  | .block _, '*' :: '/' :: rest =>
    let (kept, region) := stripComments line .code rest
    (' ' :: kept, region)
  | .block opened, _ :: rest => stripComments line (.block opened) rest
  | .literal mark, '\\' :: c :: rest =>
    let (kept, region) := stripComments line (.literal mark) rest
    ('\\' :: c :: kept, region)
  | .literal mark, c :: rest =>
    let (kept, region) := stripComments line (if c = mark then .code else .literal mark) rest
    (c :: kept, region)
  | .code, '/' :: '/' :: _ => ([], .code)
  | .code, '/' :: '*' :: rest => stripComments line (.block line) rest
  | .code, c :: rest =>
    let (kept, region) := stripComments line (if isQuote c then .literal c else .code) rest
    (c :: kept, region)

end LayeredFlags.LayerText
