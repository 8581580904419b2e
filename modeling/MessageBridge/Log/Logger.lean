import MessageBridge.Log.Directive

/-!
# The logger

A logger lets a record pass if its level is at most the level that holds for its target: the level of
the longest directive that the target starts with, or the default level.

## Main definitions

* `Log.Logger` : a default level and directives, the longest first.
* `Log.Logger.levelFor` : the level that holds for a target.
* `Log.Logger.apply` : takes over a directive string, or leaves the logger alone if it is refused.
* `Log.Logger.emit` : the line of a record that passes.
-/

namespace MessageBridge.Log

/-- A default level and directives. -/
structure Logger where
  level : Level := .warn
  overrides : List Directive := []
deriving DecidableEq, Repr

namespace Logger

/-- The directives with the longest target first, those of one length in their order. -/
def sortOverrides (overrides : List Directive) : List Directive :=
  overrides.mergeSort (fun a b => decide (b.target.utf8ByteSize ≤ a.target.utf8ByteSize))

/-- Replaces the directives. -/
def setOverrides (l : Logger) (overrides : List Directive) : Logger :=
  { l with overrides := sortOverrides overrides }

/-- Takes over settings. Without a default level among them the old one stays. -/
def update (l : Logger) (s : Settings) : Logger :=
  { l with level := s.level?.getD l.level }.setOverrides s.overrides

/-- Takes over a directive string. -/
def apply (l : Logger) (spec : String) : Except Refusal Logger :=
  l.update <$> Settings.parse spec

/-- The level that holds for a target. -/
def levelFor (l : Logger) (target : String) : Level :=
  match l.overrides.find? (fun d => d.target.toList.isPrefixOf target.toList) with
  | some d => d.level
  | none => l.level

/-- Whether a record of the level passes. -/
def enabled (l : Logger) (level : Level) (target : String) : Bool :=
  level ≤ l.levelFor target

/-- The line of a record, empty if it does not pass. -/
def emit (l : Logger) (level : Level) (target text : String) : String :=
  if l.enabled level target then
    "\x1b[" ++ level.colour ++ "m[" ++ level.name ++ "]\x1b[0m " ++ target ++ ": " ++ text ++ "\n"
  else ""

end Logger

end MessageBridge.Log
