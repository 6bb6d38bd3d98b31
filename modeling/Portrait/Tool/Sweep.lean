import Portrait.Document.Load
import Portrait.Tool.Gate

/-! Checking every model below a directory: loading errors, diagnostics, and images that are missing. -/

namespace Portrait.Sweep

def suffix : String := ".char.json"

def defaultRoot : String := "assets"

def separator : String := String.ofList (List.replicate 53 '─')

structure MissingImage where
  file : String
  layerId : String
  address : String

structure Report where
  failures : List (String × LoadError) := []
  diagnostics : Diagnostics := {}
  missing : List MissingImage := []

def candidates (m : Model) (dir : String) (l : Layer) : List String :=
  let address := String.ofList (Address.trimLeft (m.assetAddress l).toList)
  [Disk.joinPath dir address, Disk.joinPath dir l.path]

def isRemote (address : String) : Bool := isAbsoluteAddress address || address.startsWith "//"

section

variable {m : Type → Type} [Monad m] (disk : Disk m)

def reaches (path : String) : m Bool := return (← disk.kind? path).isSome

def isMissing (model : Model) (dir : String) (l : Layer) : m Bool := do
  if isRemote (model.assetAddress l) then return false
  else return !(← (candidates model dir l).anyM (reaches disk))

def missingImages (file : String) (model : Model) : m (List MissingImage) := do
  let dir := Disk.parentPath file
  let layers ← model.layers.filterM (isMissing disk model dir)
  return layers.map fun l => ⟨file, l.id, model.assetAddress l⟩

def checkFile (report : Report) (file : String) : m Report := do
  match ← Document.load disk file with
  | .error e => return { report with failures := report.failures ++ [(file, e)] }
  | .ok model => return { report with
      diagnostics := report.diagnostics.merge (model.analyse.within file)
      missing := report.missing ++ (← missingImages disk file model) }

def checkFiles (files : List String) : m Report := files.foldlM (checkFile disk) {}

def modelFiles (root : String) : m (List String) := do
  let found := (← disk.filesBelow root).filter fun names => (names.getLast?.getD "").endsWith suffix
  return (found.mergeSort fun a b => !(b < a : Bool)).map fun names => names.foldl Disk.joinPath root

def filesToCheck (root : String) : m (Option (List String)) := do
  match ← disk.kind? root with
  | some .file => return some [root]
  | some .directory => return some (← modelFiles disk root)
  | _ => return none

end

namespace Report

def errorCount (r : Report) : Nat := r.failures.length + r.diagnostics.errorCount

def warnCount (r : Report) : Nat := r.diagnostics.warnCount + r.missing.length

def lines (r : Report) (count : Nat) : List String :=
  ["==> 检查 " ++ toString count ++ " 个模型文件...", ""] ++
    r.failures.map (fun (file, e) => "[ERROR] " ++ file ++ ": " ++ e.message) ++
    [separator, "检查完成: " ++ toString count ++ " 个模型", ""] ++
    r.diagnostics.entries.map toString ++
    r.missing.map (fun i => "[WARN] " ++ i.file ++ ": 图层 '" ++ i.layerId ++ "' 的图片不存在 " ++ i.address) ++
    ["", verdict r.errorCount r.warnCount]

end Report

def outcome (files : List String) (r : Report) : Outcome :=
  let report := unlines (r.lines files.length)
  if 0 < r.errorCount then
    let last := failure "模型检查发现错误"
    { last with stderr := report ++ last.stderr }
  else { stderr := report }

def modelCheck {m : Type → Type} [Monad m] (disk : Disk m) (root : String) : m Outcome := do
  match ← filesToCheck disk root with
  | none => return failure ("路径不存在: " ++ root ++ "\n请在 workspace 根目录运行，或指定模型路径")
  | some [] => return { stderr := unlines ["未找到模型文件（" ++ suffix ++ "）"] }
  | some files => return outcome files (← checkFiles disk files)

def help : List String := [
  "xtask - 开发辅助工具",
  "",
  "USAGE:",
  "  cargo xtask <command>",
  "",
  "COMMANDS:",
  "  check-all       运行 fmt、clippy、test 门禁检查",
  "  cov-runtime     运行 mano-runtime 覆盖率报告",
  "  cov-workspace   运行 workspace 覆盖率报告",
  "  model-check     检查角色模型文件",
  "",
  "MODEL-CHECK:",
  "  cargo xtask model-check [path]",
  "",
  "  不带参数：检查 assets/ 下所有 *.char.json 文件",
  "  带路径参数：检查指定文件或目录",
  "",
  "  检查内容：",
  "    - JSON 结构错误",
  "    - 重复的图层 ID、不符合 group/name 约定的 ID",
  "    - 未定义的默认姿势、无效指令、循环引用",
  "    - 图层图片文件是否存在",
  "",
  "ALIASES (in .cargo/config.toml):",
  "  cargo check-all     -> cargo xtask check-all",
  "  cargo cov-runtime   -> cargo xtask cov-runtime",
  "  cargo cov-workspace -> cargo xtask cov-workspace",
  "  cargo model-check   -> cargo xtask model-check",
  ""]

/-- What `cargo` itself prints is not part of the outcome. -/
def program {m : Type → Type} [Monad m] (disk : Disk m) (args : List String)
    (cargo : Cargo m := noCargo) : m Outcome :=
  match args with
  | [] | "help" :: _ | "-h" :: _ | "--help" :: _ => return { stderr := unlines help }
  | "check-all" :: _ => checkAll cargo
  | "cov-runtime" :: _ => coverage cargo ["-p", "mano-runtime"]
  | "cov-workspace" :: _ => coverage cargo ["--workspace", "--exclude", "xtask"]
  | "model-check" :: rest => modelCheck disk (rest.head?.getD defaultRoot)
  | other :: _ => return failure ("unknown xtask subcommand: " ++ other)

end Portrait.Sweep
