import Mathlib.Data.List.DropRight
import Portrait.Address

/-! Paths as lists of components.  A component that is a name leads into a directory, `..` leads out of it,
and all others lead nowhere; a normalised path consists of the names that are left. -/

namespace Portrait.Address

def IsName (c : List Char) : Prop := c ≠ [] ∧ c ≠ ['.'] ∧ c ≠ ['.', '.'] ∧ '/' ∉ c

def fromRoot (names : List (List Char)) : List Char := '/' :: ['/'].intercalate names

def Canonical (path : List Char) : Prop := ∃ names, (∀ c ∈ names, IsName c) ∧ path = fromRoot names

/-- Where a path leads from a directory.  A directory is the names that lead to it, innermost first. -/
def walk (directory : List (List Char)) (path : List Char) : List (List Char) :=
  (components path).foldl descend directory

variable {directory names : List (List Char)} {path c : List Char}

theorem normalise_eq (path : List Char) : normalise path = fromRoot (walk [] path).reverse := rfl

theorem components_append_slash (path path' : List Char) :
    components (path ++ '/' :: path') = components path ++ components path' :=
  List.splitOn_append_cons_self ..

theorem slash_not_mem_component (h : c ∈ components path) : '/' ∉ c := by
  induction path generalizing c with
  | nil =>
    obtain rfl : c = [] := by simpa [components] using h
    exact List.not_mem_nil
  | cons d path ih =>
    obtain ⟨first, rest, hcomponents⟩ := List.exists_cons_of_ne_nil (List.splitOn_ne_nil '/' path)
    rw [components, List.splitOn_cons_eq_if_modifyHead] at h
    rw [components, hcomponents] at ih
    by_cases hd : d = '/'
    · rw [if_pos (by simpa using hd), hcomponents] at h
      rcases List.mem_cons.mp h with rfl | h
      · exact List.not_mem_nil
      · exact ih h
    · rw [if_neg (by simpa using hd), hcomponents, List.modifyHead_cons] at h
      rcases List.mem_cons.mp h with rfl | h
      · exact fun hslash => (List.mem_cons.mp hslash).elim (Ne.symm hd) (ih List.mem_cons_self)
      · exact ih (List.mem_cons_of_mem _ h)

@[simp] theorem descend_nil (directory : List (List Char)) : descend directory [] = directory :=
  if_pos (.inl rfl)

theorem IsName.descend (h : IsName c) (directory : List (List Char)) :
    descend directory c = c :: directory := by
  rw [Address.descend, if_neg (not_or.mpr ⟨h.1, h.2.1⟩), if_neg h.2.2.1]

theorem isName_of_mem_descend (hdirectory : ∀ n ∈ directory, IsName n) (hc : '/' ∉ c) :
    ∀ n ∈ descend directory c, IsName n := by
  rw [descend]
  split
  · exact hdirectory
  · rename_i hstay
    split
    · exact fun n hn => hdirectory n (List.mem_of_mem_tail hn)
    · rename_i hup
      exact List.forall_mem_cons.mpr
        ⟨⟨fun h => hstay (.inl h), fun h => hstay (.inr h), hup, hc⟩, hdirectory⟩

@[simp] theorem walk_nil (directory : List (List Char)) : walk directory [] = directory := by
  simp [walk, components]

theorem walk_append_slash (directory : List (List Char)) (path path' : List Char) :
    walk directory (path ++ '/' :: path') = walk (walk directory path) path' := by
  rw [walk, components_append_slash, List.foldl_append, walk, walk]

theorem walk_slash (directory : List (List Char)) (path : List Char) :
    walk directory ('/' :: path) = walk directory path := by
  simpa using walk_append_slash directory [] path

theorem walk_trimRight (directory : List (List Char)) (path : List Char) :
    walk directory (trimRight path) = walk directory path := by
  induction path using List.reverseRecOn with
  | nil => rfl
  | append_singleton path d ih =>
    by_cases hd : d = '/'
    · have htrim : trimRight (path ++ [d]) = trimRight path :=
        List.rdropWhile_concat_pos _ _ _ (by simpa using hd)
      rw [htrim, ih, hd, walk_append_slash, walk_nil]
    · have htrim : trimRight (path ++ [d]) = path ++ [d] :=
        List.rdropWhile_concat_neg _ _ _ (by simpa using hd)
      rw [htrim]

theorem foldl_descend (h : ∀ n ∈ names, IsName n) (directory : List (List Char)) :
    names.foldl descend directory = names.reverse ++ directory := by
  induction names generalizing directory with
  | nil => rfl
  | cons n names ih =>
    obtain ⟨hn, hnames⟩ := List.forall_mem_cons.mp h
    rw [List.foldl_cons, hn.descend, ih hnames, List.reverse_cons, List.append_assoc,
      List.singleton_append]

theorem walk_fromRoot (h : ∀ n ∈ names, IsName n) (directory : List (List Char)) :
    walk directory (fromRoot names) = names.reverse ++ directory := by
  rw [fromRoot, walk_slash]
  by_cases hnames : names = []
  · simp [hnames, List.intercalate]
  · rw [walk, components, List.splitOn_intercalate '/' (fun n hn => (h n hn).2.2.2) hnames,
      foldl_descend h]

theorem isName_of_mem_walk (hdirectory : ∀ n ∈ directory, IsName n) (path : List Char) :
    ∀ n ∈ walk directory path, IsName n := by
  refine List.foldlRecOn (motive := fun directory => ∀ n ∈ directory, IsName n) (components path) descend
    hdirectory fun directory hdirectory c hc => ?_
  exact isName_of_mem_descend hdirectory (slash_not_mem_component hc)

theorem canonical_normalise (path : List Char) : Canonical (normalise path) :=
  ⟨_, fun n hn => isName_of_mem_walk (by simp) path n (List.mem_reverse.mp hn), normalise_eq path⟩

theorem normalise_of_canonical (h : Canonical path) : normalise path = path := by
  obtain ⟨names, hnames, rfl⟩ := h
  rw [normalise_eq, walk_fromRoot hnames, List.append_nil, List.reverse_reverse]

/-- More is climbed than the path has names, and slashes stand together. -/
example : normalise "a//.././../b/".toList = "/b".toList := by decide

end Portrait.Address
