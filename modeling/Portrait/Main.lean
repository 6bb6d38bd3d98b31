import Portrait.Tool.Arguments
import Portrait.Tool.Sweep

/-! The programs on a real disk.  The first argument `xtask` selects the sweep, which finds no `cargo` here
as no process is started. -/

open System

namespace Portrait.Main

/-- The number of a system error comes with either sign. -/
def readFailure : IO.Error → ReadFailure
  | .noFileOrDirectory .. => .notFound
  | .inappropriateType file code details =>
    if code = 20 ∨ code = -20 then .notDirectory
    else if code = 21 ∨ code = -21 then .isDirectory
    else .other (toString (IO.Error.inappropriateType file code details))
  | .invalidArgument file code details =>
    if code = 36 ∨ code = -36 then .nameTooLong
    else .other (toString (IO.Error.invalidArgument file code details))
  | e => .other (toString e)

def read (path : String) : IO (Except ReadFailure ByteArray) := do
  try return .ok (← IO.FS.readBinFile path)
  catch e => return .error (readFailure e)

def kind? (metadata : IO IO.FS.Metadata) : IO (Option EntryKind) := do
  try
    match (← metadata).type with
    | .dir => return some .directory
    | .file => return some .file
    | _ => return some .other
  catch _ => return none

partial def filesBelow (dir : FilePath) (names : List String) : IO (List (List String)) := do
  let entries ← try dir.readDir catch _ => pure #[]
  let mut found := []
  for entry in entries do
    let below := names ++ [entry.fileName]
    match ← kind? entry.path.symlinkMetadata with
    | some .directory => found := found ++ (← filesBelow entry.path below)
    | some .file => found := found ++ [below]
    | _ => pure ()
  return found

def disk : Disk IO where
  read := read
  kind? path := kind? (FilePath.mk path).metadata
  filesBelow path := filesBelow path []

def fieldText : String × Event.Field → String
  | (name, .text s) => " " ++ name ++ "=" ++ s
  | (name, .count n) => " " ++ name ++ "=" ++ toString n

def eventText (e : Event) : String :=
  toString e.level ++ " " ++ e.message ++ String.join (e.fields.map fieldText)

end Portrait.Main

open Portrait in
def main (args : List String) : IO UInt32 := do
  let (level, events, outcome) ← match args with
    | "xtask" :: args => do pure (LogLevel.error, [], ← Sweep.program Main.disk args)
    | args => Inspect.program Main.disk args
  for e in events do
    if level ≤ e.level then IO.eprintln (Main.eventText e)
  IO.print outcome.stdout
  IO.eprint outcome.stderr
  return outcome.exit.toUInt32
