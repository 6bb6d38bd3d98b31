import Portrait.Pose.Expansion
import Portrait.Visibility

namespace Portrait

structure PlayerState where
  active : List String := []
  overrides : SortedMap Bool := ∅
  deriving DecidableEq

def splitBy {κ : Type} (judge : κ → String → Bool × κ) (k : κ) :
    List String → List String × List String × κ
  | [] => ([], [], k)
  | x :: xs =>
    let (picked, k) := judge k x
    let (ins, outs, k) := splitBy judge k xs
    if picked then (x :: ins, outs, k) else (ins, x :: outs, k)

namespace PlayerState

def isActive (s : PlayerState) (pose : String) : Bool := s.active.contains pose

def activate (s : PlayerState) (pose : String) : Bool × PlayerState :=
  if s.isActive pose then (false, s) else (true, { s with active := s.active ++ [pose] })

def deactivate (s : PlayerState) (pose : String) : Bool × PlayerState :=
  (s.isActive pose, { s with active := s.active.filter (· ≠ pose) })

def evictWith {κ : Type} (judge : κ → String → Bool × κ) (k : κ) (s : PlayerState) :
    List String × PlayerState :=
  let (evicted, kept, _) := splitBy judge k s.active
  (evicted, { s with active := kept })

def evict (p : String → Bool) (s : PlayerState) : List String × PlayerState :=
  s.evictWith (fun u pose => (p pose, u)) ()

def setOverride (s : PlayerState) (id : String) (visible : Bool) : PlayerState :=
  { s with overrides := s.overrides.insert id visible }

def clearOverrides (s : PlayerState) (start : String) : Nat × PlayerState :=
  let kept := s.overrides.filter fun id => !start.toList.isPrefixOf id.toList
  (s.overrides.size - kept.size, { s with overrides := kept })

def visibility (m : Model) (s : PlayerState) : Visibility :=
  let base := (∅ : Visibility).applyAll m.layers m.baseLayers
  let posed := s.active.foldl (fun v pose => v.applyAll m.layers (m.poses.resolve pose)) base
  posed.insertAll s.overrides.entries

end PlayerState

end Portrait
