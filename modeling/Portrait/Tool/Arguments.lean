import Portrait.LogLevel
import Portrait.Tool.Inspect

/-! The command line of the inspector: a request by name, its one operand, and flags.  Arguments are
read from left to right; a flag that asks for the version or for help ends the reading. -/

namespace Portrait.Inspect

inductive Reading
  | version
  | help
  | request (r : Request) (level : LogLevel)
  deriving DecidableEq

inductive Place
  | start
  | check
  | poses
  | resolve
  deriving DecidableEq

def Place.ofName? : String → Option Place
  | "check" => some .check
  | "poses" => some .poses
  | "resolve" => some .resolve
  | _ => none

inductive Flag
  | verbose
  | quiet
  | version
  | help
  | json
  | drawOrder
  deriving DecidableEq

def Flag.ofLetter? : Char → Option Flag
  | 'v' => some .verbose
  | 'q' => some .quiet
  | 'V' => some .version
  | 'h' => some .help
  | _ => none

def Flag.ofName? : String → Option Flag
  | "verbose" => some .verbose
  | "quiet" => some .quiet
  | "version" => some .version
  | "help" => some .help
  | "json" => some .json
  | "draw-order" => some .drawOrder
  | _ => none

structure Given where
  verbose : Nat := 0
  quiet : Bool := false
  json : Bool := false
  drawOrder : Bool := false
  actions : List Action := []
  path : Option String := none

abbrev Step (α : Type) := Except (Option Reading) α

def usageError {α : Type} : Step α := .error none

def Given.flag (place : Place) (g : Given) : Option Flag → Step Given
  | some .verbose => .ok { g with verbose := g.verbose + 1 }
  | some .quiet => if g.quiet then usageError else .ok { g with quiet := true }
  | some .version => if place = .start then .error (some .version) else usageError
  | some .help => .error (some .help)
  | some .json => if place ≠ .resolve ∨ g.json then usageError else .ok { g with json := true }
  | some .drawOrder =>
    if place ≠ .resolve ∨ g.drawOrder then usageError else .ok { g with drawOrder := true }
  | none => usageError

def Given.action (place : Place) (g : Given) (text : String) : Step Given :=
  match place, Action.parse text with
  | .resolve, .ok a => .ok { g with actions := g.actions ++ [a] }
  | _, _ => usageError

def Given.operand (g : Given) (text : String) : Step Given :=
  if g.path.isSome ∨ text.isEmpty then usageError else .ok { g with path := some text }

def looksLikeOption (arg : String) : Bool := match arg.toList with
  | '-' :: _ :: _ => true
  | _ => false

def actionMark : List Char := "op=".toList

def Given.option (place : Place) (g : Given) : List Char → Step Given
  | '-' :: name =>
    if actionMark.isPrefixOf name then
      g.action place (String.ofList (name.drop actionMark.length))
    else g.flag place (Flag.ofName? (String.ofList name))
  | letters => letters.foldlM (fun g c => g.flag place (Flag.ofLetter? c)) g

def Given.rest (place : Place) (g : Given) : List String → Step Given
  | [] => .ok g
  | arg :: args => match arg.toList with
    | ['-', '-'] => args.foldlM Given.operand g
    | ['-', '-', 'o', 'p'] => match args with
      | value :: args =>
        if looksLikeOption value then usageError
        else match g.action place value with
          | .ok g => g.rest place args
          | .error e => .error e
      | [] => usageError
    | '-' :: c :: cs => match g.option place (c :: cs) with
      | .ok g => g.rest place args
      | .error e => .error e
    | _ => match g.operand arg with
      | .ok g => g.rest place args
      | .error e => .error e

def Given.request? (place : Place) (g : Given) : Option Request := match place, g.path with
  | .check, some path => some (.check path)
  | .poses, some path => some (.poses path)
  | .resolve, some path =>
    if g.json && g.drawOrder then none
    else some (.resolve path g.actions
      (if g.json then .json else if g.drawOrder then .drawOrder else .visibleIds))
  | _, _ => none

/-- What was said last about `verbose` counts, and `quiet` wherever it was said. -/
def Given.level (outer inner : Given) : LogLevel :=
  .ofFlags (if inner.verbose = 0 then outer.verbose else inner.verbose) (outer.quiet || inner.quiet)

def helpOn : List String → Step Reading
  | [] | ["help"] => .error (some .help)
  | [name] => if (Place.ofName? name).isSome then .error (some .help) else usageError
  | _ => usageError

def Given.start (g : Given) : List String → Step Reading
  | [] => usageError
  | arg :: args => match arg.toList with
    | '-' :: c :: cs =>
      if c = '-' ∧ cs = [] then usageError
      else match g.option .start (c :: cs) with
        | .ok g => g.start args
        | .error e => .error e
    | _ => match Place.ofName? arg with
      | some place => match ({} : Given).rest place args with
        | .ok inner => match inner.request? place with
          | some r => .ok (.request r (g.level inner))
          | none => usageError
        | .error e => .error e
      | none => if arg = "help" then helpOn args else usageError

def readArguments (args : List String) : Option Reading := match ({} : Given).start args with
  | .ok reading => some reading
  | .error answer => answer

def usage : String := unlines [
  "Usage: mano [-v]... [-q] <COMMAND>",
  "",
  "  check <MODEL>",
  "  poses <MODEL>",
  "  resolve <MODEL> [--op <OP>]... [--json | --draw-order]"]

def program {m : Type → Type} [Monad m] (disk : Disk m) (args : List String) :
    m (LogLevel × List Event × Outcome) := match readArguments args with
  | none => return (.error, [], { exit := 2, stderr := usage })
  | some .help => return (.error, [], { stdout := usage })
  | some .version => return (.error, [], { stdout := "mano 0.1.0\n" })
  | some (.request r level) => do
    let model ← Document.load disk r.path
    return (level, events model r, answer model r)

end Portrait.Inspect
