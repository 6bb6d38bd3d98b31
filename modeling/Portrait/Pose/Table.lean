import Portrait.SortedMap

namespace Portrait

abbrev PoseTable := SortedMap (List String)

namespace PoseTable

def items (t : PoseTable) (pose : String) : List String := (t.get? pose).getD []

def literals (t : PoseTable) (pose : String) : List String :=
  (t.items pose).filter (!t.contains ·)

def references (t : PoseTable) (pose : String) : List String :=
  (t.items pose).filter (t.contains ·)

end PoseTable

end Portrait
