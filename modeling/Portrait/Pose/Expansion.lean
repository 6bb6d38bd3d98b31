import Portrait.Command
import Portrait.Pose.Table

/-! Expansion of poses into literal commands, depth first in definition order.  A pose contributes
once: occurrences of a visited pose add nothing, so cycles end. -/

namespace Portrait.PoseTable

structure Expansion where
  commands : List String
  visited : List String
  deriving DecidableEq, Repr

def Expansion.emit (command : String) (e : Expansion) : Expansion :=
  { e with commands := command :: e.commands }

def unvisited (t : PoseTable) (visited : List String) : Nat :=
  (t.keys.filter (· ∉ visited)).length

theorem length_filter_lt {p q : String → Bool} {a : String} {l : List String}
    (h : ∀ x, q x = true → p x = true) (ha : a ∈ l) (hp : p a = true) (hq : q a = false) :
    (l.filter q).length < (l.filter p).length := by
  induction l with
  | nil => cases ha
  | cons b l ih =>
    have hle : ∀ l : List String, (l.filter q).length ≤ (l.filter p).length := by
      intro l
      simpa [List.countP_eq_length_filter] using List.countP_mono_left (l := l) fun x _ => h x
    rcases List.mem_cons.mp ha with rfl | ha
    · simpa [hp, hq] using Nat.lt_succ_of_le (hle l)
    · have := ih ha
      cases hqb : q b with
      | true => simpa [hqb, h b hqb] using this
      | false => cases hpb : p b <;> simp [hqb, hpb] <;> omega

theorem unvisited_cons_lt {t : PoseTable} {visited : List String} {pose : String}
    (hk : pose ∈ t.keys) (hv : pose ∉ visited) :
    t.unvisited (pose :: visited) < t.unvisited visited :=
  length_filter_lt (a := pose) (by simp) hk (by simp [hv]) (by simp)

theorem mem_keys_of_get? {t : PoseTable} {pose : String} {items : List String}
    (h : t.get? pose = some items) : pose ∈ t.keys := by
  obtain ⟨es, _⟩ := t
  simp only [SortedMap.get?, SortedMap.keys] at h ⊢
  induction es with
  | nil => cases h
  | cons e es ih =>
    rw [List.lookup_cons] at h
    split at h <;> simp_all

def expand (t : PoseTable) (visited : List String) : List String → Expansion
  | [] => ⟨[], visited⟩
  | item :: pending => match h : t.get? item with
    | none => (expand t visited pending).emit item
    | some items =>
      if hv : item ∈ visited then expand t visited pending
      else
        have := unvisited_cons_lt (mem_keys_of_get? h) hv
        expand t (item :: visited) (items ++ pending)
termination_by pending => (t.unvisited visited, pending.length)

def expandPose (t : PoseTable) (visited : List String) (pose : String) : Expansion :=
  if t.contains pose then t.expand visited [pose] else ⟨[], visited⟩

def resolve (t : PoseTable) (pose : String) : List String := (t.expandPose [] pose).commands

def claims (t : PoseTable) (pose : String) : List Command :=
  ((t.resolve pose).map Command.parse).filter fun c => !c.isNoop && c.claimsGroup

def affectedGroups (t : PoseTable) (pose : String) : List String :=
  sortedNames ((t.claims pose).map (·.group))

end Portrait.PoseTable
