import Portrait.Diagnostic.Finding
import Portrait.Disk.Basic
import Portrait.Document.Schema
import Portrait.Player.Event
import Portrait.Text.Utf8

/-! Models from text, from bytes and from files. -/

namespace Portrait

inductive LoadError
  | read (path : String) (failure : ReadFailure)
  | notUtf8 (fault : Text.Utf8Fault)
  | parse (position : Json.Position) (cause : Json.Cause)
  deriving DecidableEq

def LoadError.message : LoadError → String
  | .read path failure => "无法读取模型文件 '" ++ path ++ "': " ++ toString failure
  | .notUtf8 fault => "模型数据不是合法的 UTF-8: " ++ toString fault
  | .parse p cause =>
    "无法解析模型 JSON（第 " ++ toString p.line ++ " 行第 " ++ toString p.column ++ " 列）: " ++
      toString cause ++ " at line " ++ toString p.line ++ " column " ++ toString p.column

namespace Document

def readAll {α : Type} (reader : Json.Reader α) (s : List Char) : Except Json.Fault α :=
  match reader.run s with
  | .error e => .error e
  | .ok (a, r) => match Json.skipBlanks r with
    | [] => .ok a
    | u => .error { cause := .trailingCharacters, rest := u, ahead := 1 }

def ofText (text : String) : Except LoadError Model := match readAll model.reader text.toList with
  | .ok m => .ok m
  | .error f => .error (.parse (f.position text.toList) f.cause)

def ofBytes (bytes : ByteArray) : Except LoadError Model := match Text.decode bytes with
  | .ok text => ofText text
  | .error fault => .error (.notUtf8 fault)

def ofFile (path : String) (content : Except ReadFailure ByteArray) : Except LoadError Model :=
  match content with
  | .error failure => .error (.read path failure)
  | .ok bytes => match Text.decode bytes with
    | .ok text => ofText text
    | .error _ => .error (.read path .notText)

def load {m : Type → Type} [Monad m] (disk : Disk m) (path : String) :
    m (Except LoadError Model) := do
  return ofFile path (← disk.read path)

def loadEvents (m : Model) : List Event :=
  (m.analyse.atLeast .warn).map (fun d => .diagnosed (toString d)) ++
    [.loaded m.metadata.name m.layers.length m.poses.size]

def loadChecked {m : Type → Type} [Monad m] (disk : Disk m) (path : String) :
    m (Except LoadError Model × List Event) := do
  let result ← load disk path
  return (result, match result with | .ok model => loadEvents model | .error _ => [])

end Document

end Portrait
