/-! Layer commands: `group+name`, `group-name`, `group-` and `group>name`. -/

namespace Portrait

inductive Operator
  | reveal
  | hide
  | select
  deriving DecidableEq, Repr

def Operator.ofChar? : Char → Option Operator
  | '+' => some .reveal
  | '-' => some .hide
  | '>' => some .select
  | _ => none

def Operator.toChar : Operator → Char
  | .reveal => '+'
  | .hide => '-'
  | .select => '>'

instance : ToString Operator := ⟨fun op => op.toChar.toString⟩

structure Command where
  group : String
  name : String
  op : Operator
  deriving DecidableEq, Repr

namespace Command

def noop : Command := ⟨"", "", .reveal⟩

def splitAtOperator : List Char → Option (List Char × Operator × List Char)
  | [] => none
  | c :: cs => match Operator.ofChar? c with
    | some op => some ([], op, cs)
    | none => (splitAtOperator cs).map fun (group, op, name) => (c :: group, op, name)

def parse (raw : String) : Command := match splitAtOperator raw.toList with
  | some (group, op, name) => ⟨String.ofList group, String.ofList name, op⟩
  | none => noop

instance : Coe String Command := ⟨parse⟩

instance : ToString Command := ⟨fun c => c.group ++ toString c.op ++ c.name⟩

def isNoop (c : Command) : Bool := c.group.isEmpty

def isGroupClear (c : Command) : Bool := c.op = .hide && c.name.isEmpty

def claimsGroup (c : Command) : Bool := match c.op with
  | .reveal | .select => true
  | .hide => c.name.isEmpty

def layerId (c : Command) : String := c.group ++ "/" ++ c.name

end Command

end Portrait
