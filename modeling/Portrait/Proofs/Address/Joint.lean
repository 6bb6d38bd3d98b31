import Portrait.Proofs.Address.Network

/-! The joint of a base and a path.  Slashes beside it do not count: outside a network one slash is written
between what is left of the two, and in a network the slashes of a base lead nowhere. -/

namespace Portrait.Address

inductive HasScheme : List Char → Prop
  | data (rest : List Char) : HasScheme ("data:".toList ++ rest)
  | blob (rest : List Char) : HasScheme ("blob:".toList ++ rest)
  | named {name : List Char} (rest : List Char) : name ≠ [] →
      (∀ c ∈ name, c.isAlphanum ∨ c = '+' ∨ c = '-' ∨ c = '.') → HasScheme (name ++ "://".toList ++ rest)

def InNetwork (base : List Char) : Prop :=
  ∃ mark ∈ ["http://", "https://", "//"], mark.toList <+: base

instance (base : List Char) : Decidable (InNetwork base) :=
  inferInstanceAs (Decidable (∃ mark ∈ ["http://", "https://", "//"], mark.toList <+: base))

variable {base path address name : List Char}

/-! ### Schemes -/

theorem isSchemeChar_iff {c : Char} :
    isSchemeChar c = true ↔ c.isAlphanum ∨ c = '+' ∨ c = '-' ∨ c = '.' := by
  simp [isSchemeChar, or_assoc]

theorem scheme?_append (h : ':' ∉ name) (rest : List Char) :
    scheme? (name ++ "://".toList ++ rest) = some name := by
  induction name with
  | nil => rfl
  | cons c name ih =>
    obtain ⟨hc, hname⟩ := not_or.mp (mt List.mem_cons.mpr h)
    rw [List.cons_append, List.cons_append, scheme?.eq_3 _ _ fun _ h => absurd h.symm hc, ih hname,
      Option.map_some]

theorem isAbsolute_iff : isAbsolute address = true ↔ HasScheme address := by
  constructor
  · intro h
    rw [isAbsolute, Bool.or_eq_true, Bool.or_eq_true, List.isPrefixOf_iff_prefix,
      List.isPrefixOf_iff_prefix] at h
    obtain (⟨rest, rfl⟩ | ⟨rest, rfl⟩) | h := h
    · exact .data rest
    · exact .blob rest
    · cases hscheme : scheme? address with
      | none => simp [hscheme] at h
      | some name =>
        obtain ⟨hne, hname⟩ : name ≠ [] ∧ ∀ c ∈ name, isSchemeChar c = true := by
          simpa [hscheme] using h
        obtain ⟨rest, rfl⟩ := exists_of_scheme? hscheme
        exact .named rest hne fun c hc => isSchemeChar_iff.mp (hname c hc)
  · rintro (rest | rest | @⟨name, rest, hne, hname⟩)
    · rfl
    · rfl
    · have hcolon : ':' ∉ name := fun h => absurd (hname ':' h) (by decide)
      rw [isAbsolute, scheme?_append hcolon]
      simpa [hne, isSchemeChar_iff] using Or.inr hname

theorem isAbsolute_slash (path : List Char) : isAbsolute ('/' :: path) = false := by
  rw [isAbsolute, scheme?.eq_3 _ _ (by simp)]
  cases scheme? path <;> rfl

/-! ### Slashes that do not count -/

def slashes (n : Nat) : List Char := List.replicate n '/'

theorem eq_of_mem_slashes {n : Nat} {c : Char} (h : c ∈ slashes n) : c = '/' := List.eq_of_mem_replicate h

theorem reverse_slashes (n : Nat) : (slashes n).reverse = slashes n := List.reverse_replicate

theorem trimLeft_slashes_append (n : Nat) (path : List Char) :
    trimLeft (slashes n ++ path) = trimLeft path :=
  List.dropWhile_append_of_pos fun _ hc => decide_eq_true (eq_of_mem_slashes hc)

theorem trimRight_append_slashes (path : List Char) (n : Nat) :
    trimRight (path ++ slashes n) = trimRight path := by
  rw [trimRight, List.reverse_append, reverse_slashes]
  exact congrArg List.reverse (trimLeft_slashes_append n path.reverse)

theorem head?_trimLeft (path : List Char) : (trimLeft path).head? ≠ some '/' := by
  intro h
  have hnot := List.head?_dropWhile_not (· = '/') path
  rw [← trimLeft, h] at hnot
  simp at hnot

theorem getLast?_trimRight (path : List Char) : (trimRight path).getLast? ≠ some '/' := by
  rw [trimRight, List.getLast?_reverse]
  exact head?_trimLeft path.reverse

theorem exists_trimLeft (path : List Char) : ∃ n, path = slashes n ++ trimLeft path := by
  have hslashes : path.takeWhile (· = '/') = slashes (path.takeWhile (· = '/')).length :=
    List.eq_replicate_of_mem fun c hc => by simpa using List.mem_takeWhile_imp hc
  refine ⟨(path.takeWhile (· = '/')).length, ?_⟩
  rw [← hslashes]
  exact List.takeWhile_append_dropWhile.symm

theorem exists_trimRight (path : List Char) : ∃ n, path = trimRight path ++ slashes n := by
  obtain ⟨n, hn⟩ := exists_trimLeft path.reverse
  refine ⟨n, ?_⟩
  calc path = path.reverse.reverse := path.reverse_reverse.symm
    _ = (slashes n ++ trimLeft path.reverse).reverse := congrArg List.reverse hn
    _ = trimRight path ++ slashes n := by rw [List.reverse_append, reverse_slashes, trimRight, trimLeft]

theorem isAbsolute_slashes_append (h : isAbsolute path = false) (n : Nat) :
    isAbsolute (slashes n ++ path) = false := by
  cases n with
  | zero => exact h
  | succ n => exact isAbsolute_slash (slashes n ++ path)

theorem walk_append_slashes (directory : List (List Char)) (path : List Char) (n : Nat) :
    walk directory (path ++ slashes n) = walk directory path := by
  rw [← walk_trimRight, trimRight_append_slashes, walk_trimRight]

/-! ### Bases outside a network and in it -/

theorem exists_of_inNetwork (h : InNetwork base) : ∃ mark ∈ ["http://", "https://", "//"],
    ∃ authority dir, base = mark.toList ++ (authority ++ dir) ∧ '/' ∉ authority ∧
      ∀ c ∈ dir.head?, c = '/' := by
  obtain ⟨mark, hmark, rest, rfl⟩ := h
  obtain ⟨authority, dir, rfl, hauthority, hdir⟩ := exists_authority rest
  exact ⟨mark, hmark, authority, dir, rfl, hauthority, hdir⟩

theorem splitOrigin?_eq_none_iff : splitOrigin? base = none ↔ ¬ InNetwork base := by
  constructor
  · intro hnone h
    obtain ⟨mark, hmark, authority, dir, rfl, hauthority, hdir⟩ := exists_of_inNetwork h
    rw [splitOrigin?_append hmark hauthority hdir] at hnone
    cases hnone
  · intro h
    rw [splitOrigin?, Option.map_eq_none_iff, Option.eq_none_iff_forall_ne_some]
    intro m hm
    obtain ⟨mark, hmark, rest, rfl, -⟩ := exists_of_networkMark? hm
    exact h ⟨mark, hmark, mark.toList.prefix_append rest⟩

theorem join_plain (hne : base ≠ []) (hpath : isAbsolute path = false) (hbase : ¬ InNetwork base) :
    join base path = trimRight base ++ '/' :: trimLeft path := by
  rw [join, hpath, List.isEmpty_eq_false_iff.mpr hne, if_neg (by simp),
    splitOrigin?_eq_none_iff.mpr hbase]

theorem join_slashes_plain (hne : base ≠ []) (hpath : isAbsolute path = false)
    (hbase : ¬ InNetwork base) {j : Nat} (hbase' : ¬ InNetwork (base ++ slashes j)) (k : Nat) :
    join (base ++ slashes j) (slashes k ++ path) = join base path := by
  rw [join_plain (List.append_ne_nil_of_left_ne_nil hne _) (isAbsolute_slashes_append hpath k) hbase',
    trimRight_append_slashes, trimLeft_slashes_append, join_plain hne hpath hbase]

theorem exists_joint (hne : base ≠ []) (hpath : isAbsolute path = false) (hbase : ¬ InNetwork base) :
    ∃ front back m n, base = front ++ slashes m ∧ path = slashes n ++ back ∧
      front.getLast? ≠ some '/' ∧ back.head? ≠ some '/' ∧ join base path = front ++ '/' :: back := by
  obtain ⟨m, hm⟩ := exists_trimRight base
  obtain ⟨n, hn⟩ := exists_trimLeft path
  exact ⟨trimRight base, trimLeft path, m, n, hm, hn, getLast?_trimRight base, head?_trimLeft path,
    join_plain hne hpath hbase⟩

theorem join_slashes_network (hpath : isAbsolute path = false) (hbase : InNetwork base) (j : Nat) :
    join (base ++ slashes j) path = join base path := by
  obtain ⟨mark, hmark, authority, dir, rfl, hauthority, hdir⟩ := exists_of_inNetwork hbase
  have hdir' : ∀ c ∈ (dir ++ slashes j).head?, c = '/' := by
    cases dir with
    | nil => exact fun c hc => eq_of_mem_slashes (List.mem_of_mem_head? hc)
    | cons d dir => exact hdir
  have hplace : place (dir ++ slashes j) path = place dir path := by
    rw [place, walk_append_slashes, place]
  rw [List.append_assoc, List.append_assoc, join_network hmark hauthority hdir' hpath, hplace,
    join_network hmark hauthority hdir hpath]

end Portrait.Address

namespace Portrait

open Address

/-- Slashes at the end of a base and in front of a path do not count, as long as they do not make a base one
in a network: what is left of the two meets at one slash.  Slashes at the end of a base in a network do not
count either.  An address stands for itself just if it has a scheme. -/
theorem joint_slashes_do_not_count {base path : String} (hne : base ≠ "")
    (hpath : isAbsoluteAddress path = false) :
    (¬ InNetwork base.toList →
      (∃ front back : String, ∃ m n, base = front ++ .ofList (slashes m) ∧
        path = .ofList (slashes n) ++ back ∧ front.toList.getLast? ≠ some '/' ∧
        back.toList.head? ≠ some '/' ∧ resolveAddress base path = front ++ "/" ++ back) ∧
      ∀ j k, ¬ InNetwork (base ++ .ofList (slashes j)).toList →
        resolveAddress (base ++ .ofList (slashes j)) (.ofList (slashes k) ++ path) =
          resolveAddress base path) ∧
    (InNetwork base.toList → ∀ j,
      resolveAddress (base ++ .ofList (slashes j)) path = resolveAddress base path) ∧
    ∀ address, isAbsoluteAddress address = true ↔ HasScheme address.toList := by
  have hne : base.toList ≠ [] := String.toList_eq_nil_iff.not.mpr hne
  refine ⟨fun hbase => ⟨?joint, fun j k hbase' => ?plain⟩, fun hbase j => ?network,
    fun address => isAbsolute_iff⟩
  case joint =>
    obtain ⟨front, back, m, n, hm, hn, hfront, hback, hjoin⟩ := exists_joint hne hpath hbase
    refine ⟨.ofList front, .ofList back, m, n, ?_, ?_, by rwa [String.toList_ofList],
      by rwa [String.toList_ofList], ?_⟩
    · rw [← String.ofList_append, ← hm, String.ofList_toList]
    · rw [← String.ofList_append, ← hn, String.ofList_toList]
    · rw [resolveAddress, hjoin]
      simp [← String.toList_inj]
  case plain =>
    rw [String.toList_append, String.toList_ofList] at hbase'
    rw [resolveAddress, String.toList_append, String.toList_append, String.toList_ofList,
      String.toList_ofList, join_slashes_plain hne hpath hbase hbase', resolveAddress]
  case network =>
    rw [resolveAddress, String.toList_append, String.toList_ofList,
      join_slashes_network hpath hbase, resolveAddress]

theorem joint_slashes_do_not_count_doubled :
    "ä//" ≠ "" ∧ isAbsoluteAddress "/é" = false ∧ ¬ InNetwork "ä//".toList ∧
    ¬ InNetwork ("ä//" ++ .ofList (slashes 2)).toList ∧
    (∃ front back : String, ∃ m n, "ä//" = front ++ .ofList (slashes m) ∧
      "/é" = .ofList (slashes n) ++ back ∧ front.toList.getLast? ≠ some '/' ∧
      back.toList.head? ≠ some '/' ∧ resolveAddress "ä//" "/é" = front ++ "/" ++ back) ∧
    resolveAddress ("ä//" ++ .ofList (slashes 2)) (.ofList (slashes 3) ++ "/é") =
      resolveAddress "ä//" "/é" ∧
    "https://" ≠ "" ∧ isAbsoluteAddress "../é" = false ∧ InNetwork "https://".toList ∧
    resolveAddress ("https://" ++ .ofList (slashes 2)) "../é" = resolveAddress "https://" "../é" ∧
    (isAbsoluteAddress "x+y.1://:/" = true ↔ HasScheme "x+y.1://:/".toList) := by
  have hne : "ä//" ≠ "" := by decide
  have hpath : isAbsoluteAddress "/é" = false := by decide
  have hbase : ¬ InNetwork "ä//".toList := by decide
  have hbase' : ¬ InNetwork ("ä//" ++ .ofList (slashes 2)).toList := by decide
  have hne' : "https://" ≠ "" := by decide
  have hpath' : isAbsoluteAddress "../é" = false := by decide
  have hnetwork : InNetwork "https://".toList := by decide
  have h := (joint_slashes_do_not_count hne hpath).1 hbase
  have h' := (joint_slashes_do_not_count hne' hpath').2
  exact ⟨hne, hpath, hbase, hbase', h.1, h.2 2 3 hbase', hne', hpath', hnetwork, h'.1 hnetwork 2,
    h'.2 "x+y.1://:/"⟩

/-- With one more slash the root is an address in a network. -/
example : InNetwork "//".toList ∧ resolveAddress "/" "a" = "/a" ∧ resolveAddress "//" "a" = "///a" := by
  decide

end Portrait
