import LayeredFlags.LayerText.Comment
import LayeredFlags.LayerText.Directive
import LayeredFlags.Text.Lines
/-!
# Layer Texts

A layer text is read line by line. Each line is stripped of its comments and then read as a
directive, if anything is left of it. A line that is a comment as a whole is skipped before
anything in it is looked at, unless a block comment is open there.
-/

namespace LayeredFlags.LayerText

open Text

/-- A directive and the line it stands on. -/
structure Line where
  /-- The line, counted from one. -/
  number : Nat
  /-- What the line says. -/
  directive : Directive
deriving DecidableEq, Repr

/-- The directives of a layer text, in the order of its lines. -/
structure Document where
  /-- The lines that say something. -/
  lines : List Line
deriving DecidableEq, Repr

namespace Document

/-- The assertions of a layer text, in order. -/
def assertions (document : Document) : List Assertion :=
  document.lines.filterMap (·.directive.assertion?)

/-- The settings of a layer text, in order. -/
def settings (document : Document) : List Setting :=
  document.lines.filterMap (·.directive.setting?)

end Document

/-- Read what the comments have left of a line. Nothing comes of a line without code. -/
def readCode (number : Nat) (kept : List Char) : Except Error (List Line) :=
  let code := trim kept
  if code = [] then .ok []
  else match readDirective code with
    | .error fault => .error ⟨number, fault⟩
    | .ok none => .ok []
    | .ok (some directive) => .ok [⟨number, directive⟩]

/-- Read one line that starts in the given region: what it says, and the region that the
next line starts in. -/
def readLine (number : Nat) (region : Region) (raw : List Char) :
    Except Error (List Line × Region) :=
  if region = .code ∧ isHashComment (trim raw) then .ok ([], .code)
  else
    let (kept, after) := stripComments number region raw
    match after with
    | .literal _ => .error ⟨number, .malformed .openLiteral⟩
    | _ => do return (← readCode number kept, after)

/-- Read the lines of a text from the given one on. -/
def readLines (number : Nat) (region : Region) : List (List Char) → Except Error (List Line)
  | [] => match region with
    | .block openedOn => .error ⟨openedOn, .openComment⟩
    | _ => .ok []
  | raw :: rest => do
    let (here, after) ← readLine number region raw
    return here ++ (← readLines (number + 1) after rest)

/-- Read a layer text. -/
def parse (text : String) : Except Error Document :=
  Document.mk <$> readLines 1 .code (lines text.toList)

end LayeredFlags.LayerText
