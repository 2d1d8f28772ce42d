import ClientGen.Text.Blank

/-!
Log levels, from the most to the least verbose.
-/

namespace ClientGen

inductive Level
  | trace | debug | info | warn | error | off
deriving DecidableEq, Repr

namespace Level

def rank : Level → Nat
  | trace => 0
  | debug => 1
  | info => 2
  | warn => 3
  | error => 4
  | off => 5

instance : LE Level := ⟨fun a b => a.rank ≤ b.rank⟩

instance (a b : Level) : Decidable (a ≤ b) := inferInstanceAs (Decidable (a.rank ≤ b.rank))

def default : Level := info

/-- Every number past the last level is `off`. -/
def ofRank : Nat → Level
  | 0 => trace
  | 1 => debug
  | 2 => info
  | 3 => warn
  | 4 => error
  | _ => off

def directive : Level → String
  | trace => "trace"
  | debug => "debug"
  | info => "info"
  | warn => "warn"
  | error => "error"
  | off => "off"

def name (l : Level) : String := l.directive.toUpper

structure Unknown where
  text : String

def Unknown.message (u : Unknown) : String :=
  "unknown log level '" ++ u.text ++ "' (expected trace, debug, info, warn, error or off)"

def parse (s : String) : Except Unknown Level :=
  match String.ofList ((Text.trim s.toList).map Char.toLower) with
  | "trace" => .ok trace
  | "debug" => .ok debug
  | "info" => .ok info
  | "warn" | "warning" => .ok warn
  | "error" => .ok error
  | "off" | "none" => .ok off
  | other => .error ⟨other⟩

theorem ofRank_rank (l : Level) : ofRank l.rank = l := by cases l <;> rfl

end Level

end ClientGen
