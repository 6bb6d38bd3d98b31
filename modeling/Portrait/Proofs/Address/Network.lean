import Portrait.Proofs.Address.Component
import Portrait.Proofs.Address.Origin

/-! Addresses in a network.  A path leads from the directory of the base, or from the root, to a place that
is written in one way only; it does not lead out of the origin, and may be gone along in two steps. -/

namespace Portrait.Address

def place (dir path : List Char) : List (List Char) :=
  walk (if path.head? = some '/' then [] else walk [] dir) path

variable {mark : String} {authority dir path : List Char}

theorem normalise_joined (dir path : List Char) :
    normalise (if ['/'].isPrefixOf path then path else trimRight dir ++ '/' :: path) =
      fromRoot (place dir path).reverse := by
  rw [normalise_eq, place]
  cases path with
  | nil => simp [walk_append_slash, walk_trimRight]
  | cons c path =>
    by_cases hc : c = '/'
    · simp [hc]
    · simp [hc, Ne.symm hc, walk_append_slash, walk_trimRight]

theorem join_network (hmark : mark ∈ ["http://", "https://", "//"]) (hauthority : '/' ∉ authority)
    (hdir : ∀ c ∈ dir.head?, c = '/') (hpath : isAbsolute path = false) :
    join (mark.toList ++ (authority ++ dir)) path =
      mark.toList ++ authority ++ fromRoot (place dir path).reverse := by
  have hbase : (mark.toList ++ (authority ++ dir)).isEmpty = false := by
    rcases eq_of_mem_marks hmark with rfl | rfl | rfl <;> rfl
  rw [join, hpath, hbase, if_neg (by simp), splitOrigin?_append hmark hauthority hdir]
  exact congrArg (mark.toList ++ authority ++ ·) (normalise_joined dir path)

theorem isName_of_mem_place (dir path : List Char) : ∀ n ∈ (place dir path).reverse, IsName n := by
  have hfrom : ∀ n ∈ (if path.head? = some '/' then [] else walk [] dir), IsName n := by
    split
    · simp
    · exact isName_of_mem_walk (by simp) dir
  exact fun n hn => isName_of_mem_walk hfrom path n (List.mem_reverse.mp hn)

theorem place_append_slash (dir : List Char) {path path' : List Char} (hpath : path ≠ [])
    (hpath' : path'.head? ≠ some '/') :
    place (fromRoot (place dir path).reverse) path' = place dir (path ++ '/' :: path') := by
  rw [place, if_neg hpath', walk_fromRoot (isName_of_mem_place dir path), List.reverse_reverse,
    List.append_nil, place, place, walk_append_slash, List.head?_append_of_ne_nil _ hpath]

theorem isAbsolute_append (hmark : mark ∈ ["http://", "https://", "//"]) (hne : mark ≠ "//")
    (rest : List Char) : isAbsolute (mark.toList ++ rest) = true := by
  rcases eq_of_mem_marks hmark with rfl | rfl | rfl
  · rfl
  · rfl
  · exact absurd rfl hne

theorem join_of_isAbsolute (h : isAbsolute path = true) (base : List Char) : join base path = path := by
  rw [join, h, Bool.true_or, if_pos rfl]

end Portrait.Address

namespace Portrait

open Address

section

variable {mark authority dir path : String}

theorem exists_origin (rest : String) : ∃ authority dir : String, rest = authority ++ dir ∧
    '/' ∉ authority.toList ∧ ∀ c ∈ dir.toList.head?, c = '/' := by
  obtain ⟨authority, dir, hrest, hauthority, hdir⟩ := exists_authority rest.toList
  refine ⟨.ofList authority, .ofList dir, ?_, by simpa using hauthority, by simpa using hdir⟩
  rw [← String.ofList_append, ← hrest, String.ofList_toList]

theorem resolveAddress_network (hmark : mark ∈ ["http://", "https://", "//"])
    (hauthority : '/' ∉ authority.toList) (hdir : ∀ c ∈ dir.toList.head?, c = '/')
    (hpath : isAbsoluteAddress path = false) :
    resolveAddress (mark ++ (authority ++ dir)) path =
      mark ++ authority ++ .ofList (fromRoot (place dir.toList path.toList).reverse) := by
  rw [resolveAddress, String.toList_append, String.toList_append,
    join_network hmark hauthority hdir hpath]
  simp [String.append_assoc]

theorem isAbsoluteAddress_append (hmark : mark ∈ ["http://", "https://", "//"]) (hne : mark ≠ "//")
    (rest : String) : isAbsoluteAddress (mark ++ rest) = true := by
  rw [isAbsoluteAddress, String.toList_append]
  exact isAbsolute_append hmark hne rest.toList

theorem resolveAddress_of_isAbsolute (h : isAbsoluteAddress path = true) (base : String) :
    resolveAddress base path = path := by
  rw [resolveAddress, join_of_isAbsolute h, String.ofList_toList]

end

/-- A base in a network and a path give the origin of the base, which goes up to the first slash behind the
mark, and after it the names, from the root, of the place that the path leads to; they are in the form that
normalising leaves as it is.  If the mark has a scheme, then the address is absolute, and no second base
changes it.  Neither text is cut within a character. -/
theorem network_address_is_canonical {mark path : String} (hmark : mark ∈ ["http://", "https://", "//"])
    (hpath : isAbsoluteAddress path = false) (rest : String) :
    (∃ authority dir s : String, rest = authority ++ dir ∧ '/' ∉ authority.toList ∧
      (dir = "" ∨ dir.toList.head? = some '/') ∧
      resolveAddress (mark ++ rest) path = mark ++ authority ++ s ∧
      s.toList = fromRoot (place dir.toList path.toList).reverse ∧
      Canonical s.toList ∧ normalise s.toList = s.toList) ∧
    (mark ≠ "//" → isAbsoluteAddress (resolveAddress (mark ++ rest) path) = true ∧
      ∀ base, resolveAddress base (resolveAddress (mark ++ rest) path) =
        resolveAddress (mark ++ rest) path) ∧
    resolveAtOffsets? (mark ++ rest) path = some (resolveAddress (mark ++ rest) path) := by
  obtain ⟨authority, dir, rfl, hauthority, hdir⟩ := exists_origin rest
  have haddress := resolveAddress_network hmark hauthority hdir hpath
  have hcanonical : Canonical (fromRoot (place dir.toList path.toList).reverse) :=
    normalise_joined dir.toList path.toList ▸ canonical_normalise _
  refine ⟨⟨authority, dir, _, rfl, hauthority, ?dir, haddress, String.toList_ofList, ?canonical,
    ?normal⟩, fun hne => ?absolute, resolveAtOffsets?_eq ..⟩
  case dir =>
    cases hlist : dir.toList with
    | nil => exact .inl (String.toList_eq_nil_iff.mp hlist)
    | cons c dir' => exact .inr (congrArg some (hdir c (by simp [hlist])))
  case canonical => rwa [String.toList_ofList]
  case normal => rw [String.toList_ofList, normalise_of_canonical hcanonical]
  case absolute =>
    have habsolute : isAbsoluteAddress (resolveAddress (mark ++ (authority ++ dir)) path) = true := by
      rw [haddress, String.append_assoc]
      exact isAbsoluteAddress_append hmark hne _
    exact ⟨habsolute, resolveAddress_of_isAbsolute habsolute⟩

theorem network_address_is_canonical_climbing :
    "https://" ∈ ["http://", "https://", "//"] ∧ isAbsoluteAddress "../../../é//./ü" = false ∧
    (∃ authority dir s : String, "ö/a//b/." = authority ++ dir ∧ '/' ∉ authority.toList ∧
      (dir = "" ∨ dir.toList.head? = some '/') ∧
      resolveAddress ("https://" ++ "ö/a//b/.") "../../../é//./ü" = "https://" ++ authority ++ s ∧
      s.toList = fromRoot (place dir.toList "../../../é//./ü".toList).reverse ∧
      Canonical s.toList ∧ normalise s.toList = s.toList) ∧
    resolveAddress "ä" (resolveAddress ("https://" ++ "ö/a//b/.") "../../../é//./ü") =
      resolveAddress ("https://" ++ "ö/a//b/.") "../../../é//./ü" ∧
    resolveAtOffsets? ("https://" ++ "ö/a//b/.") "../../../é//./ü" =
      some (resolveAddress ("https://" ++ "ö/a//b/.") "../../../é//./ü") := by
  have hmark : "https://" ∈ ["http://", "https://", "//"] := by decide
  have hpath : isAbsoluteAddress "../../../é//./ü" = false := by decide
  have h := network_address_is_canonical hmark hpath "ö/a//b/."
  exact ⟨hmark, hpath, h.1, (h.2.1 (by decide)).2 "ä", h.2.2⟩

/-- A path may be gone along in two steps, of which the second one does not start at the root. -/
theorem resolveAddress_resolveAddress {mark path path' : String}
    (hmark : mark ∈ ["http://", "https://", "//"]) (hne : path ≠ "")
    (hslash : path'.toList.head? ≠ some '/') (hpath : isAbsoluteAddress path = false)
    (hpath' : isAbsoluteAddress path' = false)
    (hpaths : isAbsoluteAddress (path ++ "/" ++ path') = false) (rest : String) :
    resolveAddress (resolveAddress (mark ++ rest) path) path' =
      resolveAddress (mark ++ rest) (path ++ "/" ++ path') := by
  obtain ⟨authority, dir, rfl, hauthority, hdir⟩ := exists_origin rest
  have hroot : ∀ c ∈ (String.ofList (fromRoot (place dir.toList path.toList).reverse)).toList.head?,
      c = '/' := by
    simp [fromRoot, eq_comm]
  have hjoined : (path ++ "/" ++ path').toList = path.toList ++ '/' :: path'.toList := by simp
  calc resolveAddress (resolveAddress (mark ++ (authority ++ dir)) path) path'
      = resolveAddress (mark ++ (authority ++
          .ofList (fromRoot (place dir.toList path.toList).reverse))) path' := by
        rw [resolveAddress_network hmark hauthority hdir hpath, String.append_assoc]
    _ = mark ++ authority ++ .ofList (fromRoot
          (place (fromRoot (place dir.toList path.toList).reverse) path'.toList).reverse) := by
        rw [resolveAddress_network hmark hauthority hroot hpath', String.toList_ofList]
    _ = mark ++ authority ++ .ofList (fromRoot
          (place dir.toList (path.toList ++ '/' :: path'.toList)).reverse) := by
        rw [place_append_slash _ (by simpa using hne) hslash]
    _ = resolveAddress (mark ++ (authority ++ dir)) (path ++ "/" ++ path') := by
        rw [resolveAddress_network hmark hauthority hdir hpaths, hjoined]

theorem resolveAddress_resolveAddress_root :
    "//" ∈ ["http://", "https://", "//"] ∧ "x/../.." ≠ "" ∧ "..//é".toList.head? ≠ some '/' ∧
    isAbsoluteAddress "x/../.." = false ∧ isAbsoluteAddress "..//é" = false ∧
    isAbsoluteAddress ("x/../.." ++ "/" ++ "..//é") = false ∧
    resolveAddress (resolveAddress ("//" ++ "host//a/") "x/../..") "..//é" =
      resolveAddress ("//" ++ "host//a/") ("x/../.." ++ "/" ++ "..//é") := by
  have hmark : "//" ∈ ["http://", "https://", "//"] := by decide
  have hpath : isAbsoluteAddress "x/../.." = false := by decide
  have hpath' : isAbsoluteAddress "..//é" = false := by decide
  have hpaths : isAbsoluteAddress ("x/../.." ++ "/" ++ "..//é") = false := by decide
  exact ⟨hmark, by decide, by decide, hpath, hpath', hpaths,
    resolveAddress_resolveAddress hmark (by decide) (by decide) hpath hpath' hpaths "host//a/"⟩

end Portrait
