namespace Portrait

inductive Severity
  | info
  | warn
  | error
  deriving DecidableEq, Repr

namespace Severity

def rank : Severity → Nat
  | .info => 0
  | .warn => 1
  | .error => 2

instance : LE Severity := ⟨fun a b => a.rank ≤ b.rank⟩
instance (a b : Severity) : Decidable (a ≤ b) := inferInstanceAs (Decidable (a.rank ≤ b.rank))

instance : ToString Severity where
  toString
    | .info => "INFO"
    | .warn => "WARN"
    | .error => "ERROR"

end Severity

structure Diagnostic where
  level : Severity
  subject : String
  message : String
  detail : Option String := none
  deriving DecidableEq

instance : ToString Diagnostic where
  toString d := "[" ++ toString d.level ++ "] " ++ d.subject ++ ": " ++ d.message ++
    d.detail.elim "" ("\n  | " ++ ·)

structure Diagnostics where
  entries : List Diagnostic := []
  deriving DecidableEq

namespace Diagnostics

def push (ds : Diagnostics) (d : Diagnostic) : Diagnostics := ⟨ds.entries ++ [d]⟩

def merge (ds others : Diagnostics) : Diagnostics := ⟨ds.entries ++ others.entries⟩

def count (ds : Diagnostics) (level : Severity) : Nat := ds.entries.countP (·.level = level)

def errorCount (ds : Diagnostics) : Nat := ds.count .error

def warnCount (ds : Diagnostics) : Nat := ds.count .warn

def hasErrors (ds : Diagnostics) : Bool := 0 < ds.errorCount

def isEmpty (ds : Diagnostics) : Bool := ds.entries.isEmpty

def atLeast (ds : Diagnostics) (level : Severity) : List Diagnostic :=
  ds.entries.filter (level ≤ ·.level)

def within (ds : Diagnostics) (name : String) : Diagnostics :=
  ⟨ds.entries.map fun d => { d with subject := name ++ " " ++ d.subject }⟩

end Diagnostics

end Portrait
