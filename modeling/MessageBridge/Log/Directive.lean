import MessageBridge.Log.Level

/-!
# Log directives

A directive string is a list of segments between commas. A bare level sets the default level, and
`target=level` sets the level of every target that starts with the given text.

## Main definitions

* `Log.Directive` : the level of the targets that start with a text.
* `Log.Settings.parse` : the default level, the last one given, and the directives in their order.
-/

namespace MessageBridge.Log

/-- The level of the targets that start with `target`. -/
structure Directive where
  target : String
  level : Level
deriving DecidableEq, Repr

/-- What a directive string sets. -/
structure Settings where
  level? : Option Level := none
  overrides : List Directive := []
deriving DecidableEq, Repr

/-- The segments of the characters between commas. -/
def segments : List Char → List (List Char)
  | [] => [[]]
  | c :: rest =>
    if c = ',' then [] :: segments rest
    else
      match segments rest with
      | [] => [[c]]
      | first :: others => (c :: first) :: others

/-- What one segment sets, blanks removed: nothing, the default level or one directive. -/
def readSegment (segment : List Char) : Except Refusal (Option (Level ⊕ Directive)) := do
  let text := Text.trimList segment
  if text.isEmpty then return none
  match text.dropWhile (· != '=') with
  | [] => return some (.inl (← Level.parse (String.ofList text)))
  | _ :: word =>
    let target := Text.trimList (text.takeWhile (· != '='))
    if target.isEmpty then throw (.missingTarget (String.ofList text))
    return some (.inr ⟨String.ofList target, ← Level.parse (String.ofList word)⟩)

namespace Settings

/-- Adds what one segment sets. A later bare level replaces an earlier one. -/
def add (s : Settings) : Option (Level ⊕ Directive) → Settings
  | none => s
  | some (.inl level) => { s with level? := some level }
  | some (.inr directive) => { s with overrides := s.overrides ++ [directive] }

/-- The settings of a directive string. -/
def parse (spec : String) : Except Refusal Settings :=
  (segments spec.toList).foldlM (fun s segment => s.add <$> readSegment segment) {}

end Settings

end MessageBridge.Log
