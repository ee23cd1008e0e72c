import LayeredFlags.Flag.Basic
/-!
# Violations

A violation names a constraint that a configuration breaks, and the two layers that decided
the flags at its ends.
-/

namespace LayeredFlags

/-- The rule that a violation breaks. -/
inductive ConstraintKind where
  /-- Two flags that exclude each other are both enabled. -/
  | excludes
  /-- A required flag is disabled. -/
  | requires
deriving DecidableEq, Repr

/-- The word for a kind of constraint. -/
def ConstraintKind.toText : ConstraintKind → String
  | .excludes => "EXCLUDES"
  | .requires => "REQUIRES"

/-- The kind of constraint that a word names, if it names one. -/
def ConstraintKind.ofText? (text : String) : Option ConstraintKind :=
  if text = "EXCLUDES" then some .excludes
  else if text = "REQUIRES" then some .requires
  else none

/-- The kind of a constraint. -/
def Constraint.kind : Constraint → ConstraintKind
  | .excludes _ => .excludes
  | .requires _ => .requires

/-- A broken constraint. -/
structure Violation where
  /-- The flag that declares the constraint. -/
  flag : String
  /-- The rule that is broken. -/
  kind : ConstraintKind
  /-- The flag at the other end. -/
  otherFlag : String
  /-- The layer that decided the declaring flag, or the word for none. -/
  flagSource : String
  /-- The layer that decided the other flag, or the word for none. -/
  otherSource : String
deriving DecidableEq, Repr

namespace Violation

/-- The short form, for programs. -/
def code (violation : Violation) : String :=
  s!"{violation.kind.toText}:{violation.flag},{violation.otherFlag}"

/-- The sentence for readers. -/
def message (violation : Violation) : String :=
  let subject := s!"{violation.flag} (enabled by {violation.flagSource})"
  match violation.kind with
  | .excludes =>
    s!"{subject} excludes {violation.otherFlag} (enabled by {violation.otherSource})"
  | .requires =>
    s!"{subject} requires {violation.otherFlag} (disabled by {violation.otherSource})"

end Violation

end LayeredFlags
