import Mathlib.Data.List.TakeWhile
import Portrait.Address
import Portrait.Proofs.Text.Offset

/-! What stands in front of an address, a scheme or the origin in a network, and where it ends in bytes:
addresses that are joined by way of offsets are cut between characters. -/

namespace Portrait.Address

def isAbsoluteAtOffset? (path : String) : Option Bool :=
  if "data:".toList.isPrefixOf path.toList || "blob:".toList.isPrefixOf path.toList then some true
  else match Text.offsetOf? "://".toList path.toList with
    | some offset =>
      if 0 < offset then (Text.before? path offset).map (·.toList.all isSchemeChar) else some false
    | none => some false

def authorityOffset? (base : String) : Option Nat :=
  if "http://".toList.isPrefixOf base.toList || "https://".toList.isPrefixOf base.toList then
    (Text.offsetOf? "://".toList base.toList).map (· + 3)
  else if "//".toList.isPrefixOf base.toList then some 2
  else none

def splitOriginAtOffset? (base : String) : Option (Option (String × String)) :=
  match authorityOffset? base with
  | none => some none
  | some start => do
    let afterMark ← Text.after? base start
    let stop := ((Text.offsetOf? ['/'] afterMark.toList).map (start + ·)).getD base.utf8ByteSize
    let origin ← Text.before? base stop
    let dir ← Text.after? base stop
    return some (origin, dir)

def resolveAtOffsets? (base path : String) : Option String := do
  if (← isAbsoluteAtOffset? path) || base.isEmpty then return path
  match ← splitOriginAtOffset? base with
  | some (origin, dir) =>
    let joined := if ['/'].isPrefixOf path.toList then path.toList
      else trimRight dir.toList ++ '/' :: path.toList
    return origin ++ .ofList (normalise joined)
  | none => return .ofList (trimRight base.toList ++ '/' :: trimLeft path.toList)

variable {mark : String} {s cs authority dir : List Char}

theorem offsetOf?_scheme (cs : List Char) : Text.offsetOf? "://".toList cs =
    (scheme? cs).map fun s => (String.ofList s).utf8ByteSize := by
  fun_induction scheme? cs with
  | case1 cs => rfl
  | case2 => rfl
  | case3 c cs hnot ih =>
    have hprefix : ¬ "://".toList.isPrefixOf (c :: cs) = true := by
      intro h
      obtain ⟨rest, hrest⟩ := List.isPrefixOf_iff_prefix.mp h
      obtain ⟨rfl, rfl⟩ := List.cons.inj hrest
      exact hnot rest rfl rfl
    rw [Text.offsetOf?, if_neg hprefix, ih, Option.map_map, Option.map_map]
    apply congrArg (Option.map · _)
    funext s
    simp [String.utf8ByteSize_ofList, Nat.add_comm]

theorem exists_of_scheme? (h : scheme? cs = some s) : ∃ rest, cs = s ++ "://".toList ++ rest := by
  fun_induction scheme? cs generalizing s with
  | case1 cs =>
    cases h
    exact ⟨cs, rfl⟩
  | case2 => cases h
  | case3 c cs hnot ih =>
    obtain ⟨s, hs, rfl⟩ := Option.map_eq_some_iff.mp h
    obtain ⟨rest, rfl⟩ := ih hs
    exact ⟨rest, rfl⟩

theorem isAbsoluteAtOffset?_eq (path : String) :
    isAbsoluteAtOffset? path = some (isAbsoluteAddress path) := by
  rw [isAbsoluteAtOffset?, isAbsoluteAddress, isAbsolute, offsetOf?_scheme]
  split
  · rename_i hdata
    rw [hdata, Bool.true_or]
  · rename_i hdata
    rw [Bool.eq_false_of_not_eq_true hdata, Bool.false_or]
    cases hs : scheme? path.toList with
    | none => rfl
    | some s =>
      obtain ⟨rest, hrest⟩ := exists_of_scheme? hs
      have hpath : path = .ofList s ++ .ofList ("://".toList ++ rest) := by
        rw [← String.ofList_append, ← List.append_assoc, ← hrest, String.ofList_toList]
      have hbefore : Text.before? path (String.ofList s).utf8ByteSize = some (.ofList s) := by
        conv_lhs => rw [hpath]
        exact Text.before?_append ..
      cases s with
      | nil => rfl
      | cons c s =>
        have hpos : 0 < (String.ofList (c :: s)).utf8ByteSize := by
          rw [String.utf8ByteSize_ofList, String.utf8Len_cons]
          exact Nat.add_pos_right _ c.utf8Size_pos
        simp only [Option.map_some, if_pos hpos, hbefore, String.toList_ofList]
        rfl

theorem offsetOf?_cons_of_ne {c d : Char} (h : c ≠ d) (cs : List Char) :
    Text.offsetOf? [d] (c :: cs) = (Text.offsetOf? [d] cs).map (c.utf8Size + ·) := by
  rw [Text.offsetOf?, if_neg (by simpa using Ne.symm h)]

theorem offsetOf?_slash (h : '/' ∉ authority) (dir : List Char) :
    Text.offsetOf? ['/'] (authority ++ '/' :: dir) = some (String.ofList authority).utf8ByteSize := by
  induction authority with
  | nil => simp [Text.offsetOf?]
  | cons c authority ih =>
    obtain ⟨hc, hauthority⟩ := not_or.mp (mt List.mem_cons.mpr h)
    rw [List.cons_append, offsetOf?_cons_of_ne (Ne.symm hc), ih hauthority]
    simp [String.utf8ByteSize_ofList, Nat.add_comm]

theorem offsetOf?_slash_eq_none (h : '/' ∉ authority) : Text.offsetOf? ['/'] authority = none := by
  induction authority with
  | nil => rfl
  | cons c authority ih =>
    obtain ⟨hc, hauthority⟩ := not_or.mp (mt List.mem_cons.mpr h)
    rw [offsetOf?_cons_of_ne (Ne.symm hc), ih hauthority, Option.map_none]

theorem eq_of_mem_marks (h : mark ∈ ["http://", "https://", "//"]) :
    mark = "http://" ∨ mark = "https://" ∨ mark = "//" := by
  simpa using h

theorem networkMark?_append (hmark : mark ∈ ["http://", "https://", "//"]) (rest : List Char) :
    networkMark? (mark.toList ++ rest) = some mark.toList := by
  rcases eq_of_mem_marks hmark with rfl | rfl | rfl <;> rfl

theorem exists_of_networkMark? {base m : List Char} (h : networkMark? base = some m) :
    ∃ mark ∈ ["http://", "https://", "//"], ∃ rest, base = mark.toList ++ rest ∧ m = mark.toList := by
  rw [networkMark?] at h
  have hprefix := List.find?_some h
  obtain ⟨rest, rfl⟩ := List.isPrefixOf_iff_prefix.mp hprefix
  obtain ⟨mark, hmark, rfl⟩ : ∃ mark ∈ ["http://", "https://", "//"], mark.toList = m := by
    simpa [eq_comm] using List.mem_of_find?_eq_some h
  exact ⟨mark, hmark, rest, rfl, rfl⟩

theorem exists_authority (rest : List Char) : ∃ authority dir, rest = authority ++ dir ∧
    '/' ∉ authority ∧ ∀ c ∈ dir.head?, c = '/' := by
  refine ⟨rest.takeWhile (· ≠ '/'), rest.dropWhile (· ≠ '/'), List.takeWhile_append_dropWhile.symm,
    fun h => by simpa using List.mem_takeWhile_imp h, fun c hc => ?_⟩
  have hnot := List.head?_dropWhile_not (· ≠ '/') rest
  rw [Option.mem_def.mp hc] at hnot
  simpa using hnot

theorem splitOrigin?_append (hmark : mark ∈ ["http://", "https://", "//"])
    (hauthority : '/' ∉ authority) (hdir : ∀ c ∈ dir.head?, c = '/') :
    splitOrigin? (mark.toList ++ (authority ++ dir)) = some (mark.toList ++ authority, dir) := by
  have hnot : ∀ c ∈ authority, decide (c ≠ '/') = true := by
    intro c hc
    simpa using fun h : c = '/' => hauthority (h ▸ hc)
  rw [splitOrigin?, networkMark?_append hmark, Option.map_some, List.drop_left]
  simp only [List.takeWhile_append_of_pos hnot, List.dropWhile_append_of_pos hnot]
  cases dir with
  | nil => simp
  | cons c dir =>
    obtain rfl : c = '/' := hdir c rfl
    simp

theorem authorityOffset?_append (hmark : mark ∈ ["http://", "https://", "//"]) (rest : String) :
    authorityOffset? (mark ++ rest) = some mark.utf8ByteSize := by
  rw [authorityOffset?, String.toList_append]
  rcases eq_of_mem_marks hmark with rfl | rfl | rfl <;> rfl

theorem authorityOffset?_eq_none {base : String} (h : networkMark? base.toList = none) :
    authorityOffset? base = none := by
  have hnot := List.find?_eq_none.mp h
  rw [authorityOffset?, if_neg, if_neg]
  · exact hnot _ (by simp)
  · simp only [Bool.or_eq_true, not_or]
    exact ⟨hnot _ (by simp), hnot _ (by simp)⟩

theorem splitOriginAtOffset?_append {authority dir : String}
    (hmark : mark ∈ ["http://", "https://", "//"]) (hauthority : '/' ∉ authority.toList)
    (hdir : ∀ c ∈ dir.toList.head?, c = '/') :
    splitOriginAtOffset? (mark ++ (authority ++ dir)) = some (some (mark ++ authority, dir)) := by
  have hstop : ((Text.offsetOf? ['/'] (authority ++ dir).toList).map (mark.utf8ByteSize + ·)).getD
      (mark ++ (authority ++ dir)).utf8ByteSize = (mark ++ authority).utf8ByteSize := by
    rw [String.toList_append]
    cases hlist : dir.toList with
    | nil =>
      obtain rfl : dir = "" := String.toList_eq_nil_iff.mp hlist
      rw [List.append_nil, offsetOf?_slash_eq_none hauthority, String.append_empty]
      rfl
    | cons c rest =>
      obtain rfl : c = '/' := hdir c (by simp [hlist])
      rw [offsetOf?_slash hauthority, String.ofList_toList, Option.map_some, Option.getD_some,
        String.utf8ByteSize_append]
  rw [splitOriginAtOffset?, authorityOffset?_append hmark]
  simp only [Text.after?_append, Option.bind_eq_bind, Option.bind_some, hstop]
  rw [← String.append_assoc, Text.before?_append, Text.after?_append]
  rfl

theorem splitOriginAtOffset?_eq (base : String) : splitOriginAtOffset? base =
    some ((splitOrigin? base.toList).map fun (origin, dir) => (.ofList origin, .ofList dir)) := by
  cases hmark : networkMark? base.toList with
  | none =>
    rw [splitOriginAtOffset?, authorityOffset?_eq_none hmark, splitOrigin?, hmark]
    rfl
  | some m =>
    obtain ⟨mark, hmem, rest, hbase, -⟩ := exists_of_networkMark? hmark
    obtain ⟨authority, dir, rfl, hauthority, hdir⟩ := exists_authority rest
    obtain rfl : base = mark ++ (.ofList authority ++ .ofList dir) := by
      simpa [← String.toList_inj] using hbase
    rw [hbase, splitOrigin?_append hmem hauthority hdir,
      splitOriginAtOffset?_append hmem (by simpa using hauthority) (by simpa using hdir)]
    simp

theorem resolveAtOffsets?_eq (base path : String) :
    resolveAtOffsets? base path = some (resolveAddress base path) := by
  have hempty : base.toList.isEmpty = base.isEmpty := by
    rw [Bool.eq_iff_iff]
    simp
  rw [resolveAtOffsets?, isAbsoluteAtOffset?_eq, splitOriginAtOffset?_eq, resolveAddress, join, hempty,
    ← isAbsoluteAddress]
  simp only [Option.bind_eq_bind, Option.bind_some, Option.pure_def]
  by_cases h : (isAbsoluteAddress path || base.isEmpty) = true
  · rw [if_pos h, if_pos h, String.ofList_toList]
  · rw [if_neg h, if_neg h]
    cases splitOrigin? base.toList with
    | none => rfl
    | some parts => simp

end Portrait.Address
