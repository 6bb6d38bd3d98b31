import Portrait.Disk.Basic
import Portrait.Tool.Outcome

/-! The checks that are left to `cargo`: one run of it after the other, until one fails. -/

namespace Portrait.Sweep

def failure (message : String) : Outcome :=
  { exit := 1, stderr := "xtask error: " ++ message ++ "\n" }

inductive ExitStatus
  | exited (code : Nat)
  | killed (signal : String)
  deriving DecidableEq

instance : ToString ExitStatus where
  toString
    | .exited code => "exit status: " ++ toString code
    | .killed signal => "signal: " ++ signal

abbrev Cargo (m : Type → Type) := List String → m (Except ReadFailure ExitStatus)

def noCargo {m : Type → Type} [Monad m] : Cargo m := fun _ => return .error .notFound

section

variable {m : Type → Type} [Monad m] (cargo : Cargo m)

def runAll (last : List String) : List (List String) → m Outcome
  | [] => return { stderr := unlines last }
  | args :: rest => do
    let step := " ".intercalate ("cargo" :: args)
    let started := unlines ["", "==> " ++ step]
    let after ← match ← cargo args with
      | .error e => pure (failure (toString e))
      | .ok (.exited 0) => runAll last rest
      | .ok status => pure (failure (step ++ " failed with " ++ toString status))
    return { after with stderr := started ++ after.stderr }

def checkAll : m Outcome := runAll cargo []
  [["fmt", "--all", "--", "--check"], ["clippy", "--workspace", "--all-targets"],
    ["test", "--workspace"]]

def noCoverage : Outcome := failure ("\n".intercalate [
  "cargo llvm-cov 不可用。",
  "请先安装：",
  "- cargo install cargo-llvm-cov",
  "- rustup component add llvm-tools-preview",
  "然后重试。"])

def coverage (selection : List String) : m Outcome := do
  match ← cargo ["llvm-cov", "--version"] with
  | .ok (.exited 0) =>
    runAll cargo ["", "Coverage HTML: target/llvm-cov/html/index.html"]
      [["llvm-cov"] ++ selection ++ ["--all-features", "--html"]]
  | _ => return noCoverage

end

end Portrait.Sweep
