import Mathlib
import Portrait.Disk.Tree
import Portrait.Proofs.Tool.Arguments
import Portrait.Tool.Sweep

/-! The inspector and the sweep find the same files faulty, on a disk that stays as it is. -/

namespace Portrait

namespace Diagnostics

theorem count_merge (ds others : Diagnostics) (level : Severity) :
    (ds.merge others).count level = ds.count level + others.count level :=
  List.countP_append

theorem count_within (ds : Diagnostics) (name : String) (level : Severity) :
    (ds.within name).count level = ds.count level := by
  simp [count, within, Function.comp_def]

end Diagnostics

namespace Disk

theorem joinPath_ne_empty {base name : String} (h : name ≠ "") : joinPath base name ≠ "" := by
  rw [joinPath]
  split_ifs <;> simp [h]

theorem foldl_joinPath_ne_empty {names : List String} (h : names.getLast?.getD "" ≠ "") (root : String) :
    names.foldl joinPath root ≠ "" := by
  cases names using List.reverseRecOn with
  | nil => simp at h
  | append_singleton names name =>
    rw [List.getLast?_concat, Option.getD_some] at h
    rw [List.foldl_concat]
    exact joinPath_ne_empty h

end Disk

namespace Sweep

def errorsOn (read : String → Except ReadFailure ByteArray) (path : String) : Nat :=
  match Document.ofFile path (read path) with
  | .error _ => 1
  | .ok m => m.analyse.errorCount

def warningsOn (disk : Disk Id) (path : String) : Nat :=
  match Document.ofFile path (disk.read path) with
  | .error _ => 0
  | .ok m => m.analyse.warnCount + (missingImages disk path m).run.length

/-- What is printed ends with these counts, and with the line of a failure if there are errors. -/
def Concludes (o : Outcome) (errors warnings : Nat) : Prop :=
  ∃ above, o.stderr = above ++ "\n" ++
    if 0 < errors then
      "❌ " ++ toString errors ++ " 个错误, " ++ toString warnings ++ " 个警告\n" ++
        "xtask error: 模型检查发现错误\n"
    else if 0 < warnings then "⚠️  0 个错误, " ++ toString warnings ++ " 个警告\n"
    else "✅ 检查通过，无错误\n"

structure Tallies (disk : Disk Id) (paths : List String) (o : Outcome) : Prop where
  exit : o.exit = if 0 < (paths.map (errorsOn disk.read)).sum then 1 else 0
  concludes : paths ≠ [] →
    Concludes o (paths.map (errorsOn disk.read)).sum (paths.map (warningsOn disk)).sum

def modelPaths (root : String) (files : List (List String)) : List String :=
  (files.filter fun names => (names.getLast?.getD "").endsWith ".char.json").map (·.foldl Disk.joinPath root)

def inspected (disk : Disk Id) (args : List String) : Nat := (Inspect.program disk args).run.2.2.exit

variable {disk : Disk Id} {cargo : Cargo Id} {path root : String} {paths others : List String}
  {files : List (List String)} {o : Outcome}

theorem inspected_eq {args : List String} (h : Inspect.Asks args path) :
    inspected disk args = if 0 < errorsOn disk.read path then 1 else 0 := by
  rw [inspected, h.outcome_eq, errorsOn]
  cases Document.ofFile path (disk.read path) with
  | error e => rfl
  | ok m =>
    simp only [Inspect.answer, Inspect.check, Diagnostics.hasErrors, decide_eq_true_eq]
    split <;> rfl

theorem errorsOn_pos_iff (hpath : path ≠ "") :
    0 < errorsOn disk.read path ↔ inspected disk ["check", "--", path] ≠ 0 := by
  rw [inspected_eq (Inspect.asks_marked hpath), ne_eq, ite_eq_right_iff, Classical.not_imp]
  simp

theorem counts_checkFile (disk : Disk Id) (r : Report) (path : String) :
    (checkFile disk r path).run.errorCount = r.errorCount + errorsOn disk.read path ∧
    (checkFile disk r path).run.warnCount = r.warnCount + warningsOn disk path := by
  have hload : (Document.load disk path).run = Document.ofFile path (disk.read path) := rfl
  rw [errorsOn, warningsOn]
  simp only [checkFile, Id.run_bind, hload]
  cases Document.ofFile path (disk.read path) with
  | error e =>
    simp only [Report.errorCount, Report.warnCount, Id.run_pure, List.length_append,
      List.length_singleton]
    omega
  | ok m =>
    simp only [Report.errorCount, Report.warnCount, Id.run_bind, Id.run_pure, List.length_append,
      Diagnostics.errorCount, Diagnostics.warnCount, Diagnostics.count_merge, Diagnostics.count_within]
    omega

theorem counts_foldlM (disk : Disk Id) (paths : List String) (r : Report) :
    (paths.foldlM (checkFile disk) r).run.errorCount =
      r.errorCount + (paths.map (errorsOn disk.read)).sum ∧
    (paths.foldlM (checkFile disk) r).run.warnCount =
      r.warnCount + (paths.map (warningsOn disk)).sum := by
  induction paths generalizing r with
  | nil => exact ⟨rfl, rfl⟩
  | cons path paths ih =>
    obtain ⟨he, hw⟩ := counts_checkFile disk r path
    obtain ⟨ihe, ihw⟩ := ih (checkFile disk r path).run
    simp only [List.foldlM_cons, Id.run_bind, ihe, ihw, he, hw, List.map_cons, List.sum_cons]
    omega

theorem exit_outcome (paths : List String) (r : Report) :
    (outcome paths r).exit = if 0 < r.errorCount then 1 else 0 := by
  simp only [outcome]
  split <;> rfl

theorem exists_report (r : Report) (count : Nat) : ∃ above,
    unlines (r.lines count) = above ++ "\n" ++ (verdict r.errorCount r.warnCount ++ "\n") := by
  obtain ⟨above, habove⟩ : ∃ above, r.lines count = above ++ ["", verdict r.errorCount r.warnCount] :=
    ⟨_, rfl⟩
  refine ⟨unlines above, ?_⟩
  rw [habove, unlines, unlines, List.map_append, String.join_append, String.append_assoc]
  simp

theorem concludes_outcome (paths : List String) (r : Report) :
    Concludes (outcome paths r) r.errorCount r.warnCount := by
  obtain ⟨above, habove⟩ := exists_report r paths.length
  refine ⟨above, ?_⟩
  rw [outcome, habove, verdict]
  by_cases herrors : 0 < r.errorCount
  · simp only [if_pos herrors, failure, String.append_assoc]
    rfl
  · by_cases hwarnings : 0 < r.warnCount
    · simp only [if_neg herrors, if_pos hwarnings, String.append_assoc]
      rfl
    · simp only [if_neg herrors, if_neg hwarnings]
      rfl

namespace Tallies

theorem modelCheck (h : (filesToCheck disk root).run = some paths) :
    Tallies disk paths (modelCheck disk root).run := by
  obtain ⟨he, hw⟩ := counts_foldlM disk paths {}
  have he : (checkFiles disk paths).run.errorCount = (paths.map (errorsOn disk.read)).sum :=
    he.trans (Nat.zero_add _)
  have hw : (checkFiles disk paths).run.warnCount = (paths.map (warningsOn disk)).sum :=
    hw.trans (Nat.zero_add _)
  simp only [Sweep.modelCheck, Id.run_bind, h]
  cases paths with
  | nil => exact ⟨rfl, fun hne => absurd rfl hne⟩
  | cons path paths =>
    refine ⟨?exit, fun _ => ?concludes⟩
    case exit => exact he ▸ exit_outcome _ _
    case concludes => exact he ▸ hw ▸ concludes_outcome _ _

theorem perm (h : Tallies disk paths o) (hperm : paths.Perm others) : Tallies disk others o := by
  have he := (hperm.map (errorsOn disk.read)).sum_nat
  have hw := (hperm.map (warningsOn disk)).sum_nat
  refine ⟨he ▸ h.exit, fun hne => he ▸ hw ▸ h.concludes ?_⟩
  rintro rfl
  exact hne hperm.nil_eq.symm

theorem exit_eq_one_iff (h : Tallies disk paths o) :
    o.exit = 1 ↔ 0 < (paths.map (errorsOn disk.read)).sum := by
  rw [h.exit]
  split <;> simp_all

theorem exit_ne_zero_iff (h : Tallies disk paths o) :
    o.exit ≠ 0 ↔ ∃ path ∈ paths, 0 < errorsOn disk.read path := by
  rw [h.exit, ne_eq, ite_eq_right_iff, Classical.not_imp]
  simp [List.sum_pos_iff_exists_pos_nat]

theorem of_file (h : disk.kind? path = some .file) :
    Tallies disk [path] (program disk ["model-check", path] cargo).run := by
  have hfiles : (filesToCheck disk path).run = some [path] := by
    rw [filesToCheck, h]
    rfl
  exact modelCheck hfiles

theorem of_directory (h : disk.kind? root = some .directory)
    (hbelow : (disk.filesBelow root).Perm files) :
    Tallies disk (modelPaths root files) (program disk ["model-check", root] cargo).run := by
  have hfiles : (filesToCheck disk root).run = some (modelFiles disk root).run := by
    rw [filesToCheck, h]
    rfl
  have hperm : (modelFiles disk root).run.Perm (modelPaths root files) := by
    simp only [modelFiles, Id.run_bind, Id.run_pure]
    exact ((List.mergeSort_perm _ _).trans (hbelow.filter _)).map _
  exact (modelCheck hfiles).perm hperm

end Tallies

theorem exit_modelCheck_file (h : disk.kind? path = some .file) :
    (program disk ["model-check", path] cargo).run.exit =
      if 0 < errorsOn disk.read path then 1 else 0 := by
  simpa using (Tallies.of_file h).exit

theorem ne_empty_of_mem_modelPaths (h : path ∈ modelPaths root files) : path ≠ "" := by
  obtain ⟨names, hnames, rfl⟩ := List.mem_map.mp h
  apply Disk.foldl_joinPath_ne_empty
  intro hempty
  have hsuffix := (List.mem_filter.mp hnames).2
  rw [hempty] at hsuffix
  exact absurd hsuffix (by decide)

/-- Whether a file is faulty is the same for the inspector and for the sweep, as long as the inspector
takes its path for one: it is not empty, and if it looks like an option, then it stands behind two
dashes.  A sweep of a directory fails if and only if the inspector fails for a model file in it.  The
report gives the sum of the errors of these files, one for a file without a model in it, and fails if it
is positive; images that are missing have no part in it, but add to the warnings. -/
theorem agrees_with_inspector (disk : Disk Id) (cargo : Cargo Id) :
    (∀ path, Inspect.looksLikeOption path = true →
      Inspect.readArguments ["check", path] = none ∨
        Inspect.readArguments ["check", path] = some .help) ∧
    (∀ path, disk.kind? path = some .file → path ≠ "" →
      let swept := (program disk ["model-check", path] cargo).run
      (Inspect.looksLikeOption path = false → inspected disk ["check", path] = swept.exit) ∧
      inspected disk ["check", "--", path] = swept.exit ∧
      ∀ args, Inspect.Asks args path → inspected disk args = swept.exit) ∧
    ∀ root files, disk.kind? root = some .directory → (disk.filesBelow root).Perm files →
      let paths := modelPaths root files
      let errors := (paths.map (errorsOn disk.read)).sum
      let swept := (program disk ["model-check", root] cargo).run
      (swept.exit ≠ 0 ↔ ∃ path ∈ paths, inspected disk ["check", "--", path] ≠ 0) ∧
      (∀ path ∈ paths,
        (Inspect.looksLikeOption path = false →
          inspected disk ["check", path] = inspected disk ["check", "--", path]) ∧
        ∀ args, Inspect.Asks args path →
          inspected disk args = inspected disk ["check", "--", path]) ∧
      (swept.exit = 1 ↔ 0 < errors) ∧
      (paths ≠ [] → Concludes swept errors (paths.map (warningsOn disk)).sum) ∧
      ∀ kinds, kinds root = some .directory →
        let other : Disk Id := { disk with kind? := kinds }
        let sweptOther := (program other ["model-check", root] cargo).run
        sweptOther.exit = swept.exit ∧
          (paths ≠ [] → Concludes sweptOther errors (paths.map (warningsOn other)).sum) := by
  refine ⟨fun path => Inspect.readArguments_option, ?file, ?directory⟩
  case file =>
    intro path hfile hpath swept
    rw [show swept.exit = _ from exit_modelCheck_file hfile]
    exact ⟨fun hplain => inspected_eq (Inspect.asks_plain hpath hplain),
      inspected_eq (Inspect.asks_marked hpath), fun args => inspected_eq⟩
  case directory =>
    intro root files hroot hfiles paths errors swept
    have htallies : Tallies disk paths swept := .of_directory hroot hfiles
    have hnames : ∀ path ∈ paths, path ≠ "" := fun path => ne_empty_of_mem_modelPaths
    refine ⟨htallies.exit_ne_zero_iff.trans ?faulty, ?asked, htallies.exit_eq_one_iff,
      htallies.concludes, ?images⟩
    case faulty =>
      exact exists_congr fun path => and_congr_right fun hpath => errorsOn_pos_iff (hnames path hpath)
    case asked =>
      intro path hpath
      rw [inspected_eq (Inspect.asks_marked (hnames path hpath))]
      exact ⟨fun hplain => inspected_eq (Inspect.asks_plain (hnames path hpath) hplain),
        fun args => inspected_eq⟩
    case images =>
      intro kinds hkinds other sweptOther
      have hother : Tallies other paths sweptOther := .of_directory hkinds hfiles
      exact ⟨hother.exit.trans htallies.exit.symm, hother.concludes⟩

/-- A model without a fault, one with two layers of one id, and one that is cut off.  Beside their
directory lies a model whose name looks like an option. -/
def ensemble : Tree where
  files := [(["cast", "good.char.json"], "\x7b\x7d".toUTF8),
    (["cast", "twins.char.json"],
      "\x7b\"assets\":[[[\"A/B\",\"A\",\"B\",0,\"b.png\"],[\"A/B\",\"A\",\"B\"]]]\x7d".toUTF8),
    (["cast", "torn.char.json"], "\x7b".toUTF8),
    (["cast", "notes.json"], .empty),
    (["-x.char.json"], "\x7b\x7d".toUTF8)]

theorem agrees_with_inspector_ensemble :
    let disk := ensemble.disk
    let swept := (program disk ["model-check", "cast"]).run
    modelPaths "cast" (disk.filesBelow "cast") =
      ["cast/good.char.json", "cast/twins.char.json", "cast/torn.char.json"] ∧
    inspected disk ["check", "cast/good.char.json"] =
      (program disk ["model-check", "cast/good.char.json"]).run.exit ∧
    (∃ path ∈ modelPaths "cast" (disk.filesBelow "cast"), inspected disk ["check", "--", path] ≠ 0) ∧
    swept.exit = 1 ∧
    (∃ above, swept.stderr = above ++ "\n❌ 2 个错误, 1 个警告\nxtask error: 模型检查发现错误\n") ∧
    inspected disk ["check", "--", "-x.char.json"] = 0 := by
  intro disk swept
  obtain ⟨-, file, directory⟩ := agrees_with_inspector disk noCargo
  have root : ensemble.kind? "cast" = some .directory := by decide +kernel
  have good : ensemble.kind? "cast/good.char.json" = some .file := by decide +kernel
  have stray : ensemble.kind? "-x.char.json" = some .file := by decide +kernel
  obtain ⟨faulty, -, failing, concludes, -⟩ :=
    directory "cast" (disk.filesBelow "cast") root (.refl _)
  have errors : (modelPaths "cast" (disk.filesBelow "cast")).map (errorsOn disk.read) = [0, 1, 1] := by
    decide +kernel
  have warnings : (modelPaths "cast" (disk.filesBelow "cast")).map (warningsOn disk) = [0, 1, 0] := by
    decide +kernel
  have exit : swept.exit = 1 := failing.mpr (by rw [errors]; decide)
  have hexit : swept.exit ≠ 0 := by rw [exit]; decide
  refine ⟨by decide +kernel, ?_, faulty.mp hexit, exit, ?_, ?_⟩
  · exact (file "cast/good.char.json" good (by decide)).1 (by decide)
  · have last := concludes (by decide +kernel)
    rw [errors, warnings] at last
    obtain ⟨above, habove⟩ := last
    exact ⟨above, habove.trans (String.append_assoc ..)⟩
  · rw [(file "-x.char.json" stray (by decide)).2.1]
    decide +kernel

/-- The inspector refuses the name that looks like an option, and the sweep finds no fault there. -/
theorem option_like_path_refused :
    ensemble.kind? "-x.char.json" = some .file ∧
    inspected ensemble.disk ["check", "-x.char.json"] = 2 ∧
    (program ensemble.disk ["model-check", "-x.char.json"]).run.exit = 0 := by
  decide +kernel

end Sweep

end Portrait
