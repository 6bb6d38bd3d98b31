import Portrait.Pose.Expansion

/-! Poses on a cycle of references, found by a search from each pose that keeps a stack. -/

namespace Portrait.PoseTable

/-- The poses still to be looked at, the last one met first, those met so far, and whether the pose
that is searched for was one of them.  The pose at the start was not met yet. -/
structure Search where
  stack : List String
  met : List String := []
  found : Bool := false
  deriving DecidableEq, Repr

namespace Search

def start (pose : String) : Search := { stack := [pose] }

def meet (target : String) (s : Search) (pose : String) : Search :=
  let s := { s with found := s.found || pose = target }
  if pose ∈ s.met then s else { s with stack := pose :: s.stack, met := pose :: s.met }

def step (t : PoseTable) (target : String) (s : Search) : Search := match s.stack with
  | [] => s
  | pose :: stack => (t.references pose).foldl (meet target) { s with stack }

def pending (t : PoseTable) (s : Search) : Nat := t.unvisited s.met + s.stack.length

theorem pending_meet_le {t : PoseTable} {target pose : String} (s : Search) (h : pose ∈ t.keys) :
    (s.meet target pose).pending t ≤ s.pending t := by
  simp only [meet, pending]
  split
  · exact Nat.le_refl _
  · rename_i hnew
    have := unvisited_cons_lt h hnew
    simp only [List.length_cons]
    omega

theorem pending_foldl_meet_le {t : PoseTable} {target : String} {poses : List String} (s : Search)
    (h : ∀ pose ∈ poses, pose ∈ t.keys) : (poses.foldl (meet target) s).pending t ≤ s.pending t := by
  induction poses generalizing s with
  | nil => exact Nat.le_refl _
  | cons pose poses ih =>
    obtain ⟨hpose, hposes⟩ := List.forall_mem_cons.mp h
    exact Nat.le_trans (ih _ hposes) (s.pending_meet_le hpose)

theorem mem_keys_of_mem_references {t : PoseTable} {pose q : String} (h : q ∈ t.references pose) :
    q ∈ t.keys := by
  obtain ⟨items, hq⟩ := Option.isSome_iff_exists.mp (List.mem_filter.mp h).2
  exact mem_keys_of_get? hq

theorem pending_step_lt {t : PoseTable} {target : String} {s : Search} (h : s.stack ≠ []) :
    (s.step t target).pending t < s.pending t := by
  unfold step
  split
  · contradiction
  · rename_i pose stack hs
    refine Nat.lt_of_le_of_lt (pending_foldl_meet_le _ fun _ => mem_keys_of_mem_references) ?_
    simp [pending, hs]

def run (t : PoseTable) (target : String) (s : Search) : Search :=
  if h : s.stack = [] then s
  else
    have : (s.step t target).pending t < s.pending t := pending_step_lt h
    run t target (s.step t target)
termination_by s.pending t

end Search

def onCycle (t : PoseTable) (pose : String) : Bool := ((Search.start pose).run t pose).found

def cyclicPoses (t : PoseTable) : List String := t.keys.filter t.onCycle

end Portrait.PoseTable
