namespace Portrait

inductive LogLevel
  | trace
  | debug
  | info
  | warn
  | error
  deriving DecidableEq, Repr

namespace LogLevel

def rank : LogLevel → Nat
  | .trace => 0
  | .debug => 1
  | .info => 2
  | .warn => 3
  | .error => 4

instance : LE LogLevel := ⟨fun a b => a.rank ≤ b.rank⟩
instance (a b : LogLevel) : Decidable (a ≤ b) := inferInstanceAs (Decidable (a.rank ≤ b.rank))

instance : ToString LogLevel where
  toString
    | .trace => "TRACE"
    | .debug => "DEBUG"
    | .info => "INFO"
    | .warn => "WARN"
    | .error => "ERROR"

def ofFlags (verbose : Nat) (quiet : Bool) : LogLevel :=
  if quiet then .error
  else match verbose with
    | 0 => .warn
    | 1 => .debug
    | _ => .trace

end LogLevel

end Portrait
