import MessageBridge.Text.Blank

/-!
# Log levels

The five levels of a log record, from the gravest to the most talkative.

## Main definitions

* `Log.Level`, `Log.Level.rank` : the levels and their order.
* `Log.Level.parse` : the level that a word names, in any case and with blanks around it.
-/

namespace MessageBridge.Log

/-- The level of a log record. -/
inductive Level where
  | error
  | warn
  | info
  | debug
  | trace
deriving DecidableEq, Repr

/-- Why a log setting is refused. -/
inductive Refusal where
  | unknownLevel (word : String)
  | missingTarget (segment : String)
deriving DecidableEq, Repr

/-- The refusal in words. -/
def Refusal.message : Refusal → String
  | unknownLevel word => s!"Invalid log level: {word}"
  | missingTarget segment => s!"Missing target in directive: {segment}"

namespace Level

/-- The place of the level, zero for the gravest. -/
def rank : Level → Nat
  | error => 0
  | warn => 1
  | info => 2
  | debug => 3
  | trace => 4

/-- A level is at most another if it is at least as grave. -/
instance : LE Level where
  le a b := a.rank ≤ b.rank

instance (a b : Level) : Decidable (a ≤ b) := inferInstanceAs (Decidable (a.rank ≤ b.rank))

/-- The name of the level in a record. -/
def name : Level → String
  | error => "ERROR"
  | warn => "WARN"
  | info => "INFO"
  | debug => "DEBUG"
  | trace => "TRACE"

/-- The number of the terminal colour of the level. -/
def colour : Level → String
  | error => "31"
  | warn => "33"
  | info => "32"
  | debug => "36"
  | trace => "35"

/-- The level that a word names. Case and the blanks around it do not matter, and a warning may be
written out. -/
def parse (word : String) : Except Refusal Level :=
  match Text.lower (Text.trim word) with
  | "error" => .ok error
  | "warn" => .ok warn
  | "warning" => .ok warn
  | "info" => .ok info
  | "debug" => .ok debug
  | "trace" => .ok trace
  | _ => .error (.unknownLevel word)

end Level

end MessageBridge.Log
