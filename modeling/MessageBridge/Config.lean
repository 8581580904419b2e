import MessageBridge.Text.Blank

/-!
# Configuration

How a context is set up: which object runtime it drives, what it does with a message that no method
declares, and its log directives.

## Main definitions

* `RuntimeSource`, `FallbackPolicy`, `Config` : the settings and their defaults.
* `Config.ofEnvironment` : the settings that three environment variables hold.
-/

namespace MessageBridge

/-- Where the object runtime comes from. -/
inductive RuntimeSource where
  | builtin
  | library (path : String)
deriving DecidableEq, Repr

/-- What to do with a message that no method declares. -/
inductive FallbackPolicy where
  /-- Assume that it takes and returns objects. -/
  | assume
  /-- Assume the same, with a warning. -/
  | warn
  /-- Refuse it. -/
  | deny
deriving DecidableEq, Repr

namespace FallbackPolicy

/-- The policy that a word names. Case and the blanks around it do not matter. -/
def parse? (word : String) : Option FallbackPolicy :=
  match Text.lower (Text.trim word) with
  | "assume" => some assume
  | "warn" => some warn
  | "deny" => some deny
  | _ => none

/-- The name of the policy. -/
def name : FallbackPolicy → String
  | assume => "Assume"
  | warn => "Warn"
  | deny => "Deny"

end FallbackPolicy

/-- The settings of a context. -/
structure Config where
  runtime : RuntimeSource := .builtin
  fallback : FallbackPolicy := .warn
  log : Option String := none
deriving DecidableEq, Repr

namespace Config

/-- The variable's text, unless it holds nothing but blanks. -/
def nonBlank (value : Option String) : Option String := value.filter (fun v => !Text.isAllBlank v)

/-- The settings that the environment variables for the runtime, the fallback and the log hold. One
that is unset, blank or not understood leaves the default. -/
def ofEnvironment (runtime fallback log : Option String) : Config where
  runtime :=
    match nonBlank runtime with
    | some path =>
      if Text.lower (Text.trim path) = "builtin" then .builtin else .library (Text.trim path)
    | none => .builtin
  fallback := (fallback.bind FallbackPolicy.parse?).getD .warn
  log := nonBlank log

end Config

end MessageBridge
