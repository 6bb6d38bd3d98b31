import Mathlib.Data.List.Basic
import Portrait.Player.Basic

/-! Runs of a player from its start. -/

namespace Portrait

variable {m : Model}

namespace PlayerState

theorem perform_of_not_updates (s : PlayerState) {a : Action} (h : a.updates m = false) :
    s.perform m a = s := by
  cases a with
  | setPose pose =>
    rw [Action.updates] at h
    simp [perform, h]
  | addPose pose =>
    rw [Action.updates] at h
    simp [perform, h]
  | _ => cases h

end PlayerState

namespace Player

variable {σ Handle : Type} [Stage σ Handle]

theorem showAll_ids (v : Visibility) (stage : σ) (es : List (String × Handle)) :
    (showAll v stage es).2.map (·.1) = es.map (·.1) := by
  induction es generalizing stage with
  | nil => rfl
  | cons e es ih => rw [showAll, List.map_cons, List.map_cons, ih]

@[simp] theorem sync_model (p : Player σ Handle) : p.sync.model = p.model := rfl
@[simp] theorem sync_state (p : Player σ Handle) : p.sync.state = p.state := rfl

theorem sync_ids (p : Player σ Handle) : p.sync.handles.map (·.1) = p.handles.map (·.1) :=
  showAll_ids p.visibility p.stage p.handles

@[simp] theorem perform_model (p : Player σ Handle) (a : Action) :
    (p.perform a).model = p.model := by
  rw [perform]
  split <;> rfl

theorem perform_ids (p : Player σ Handle) (a : Action) :
    (p.perform a).handles.map (·.1) = p.handles.map (·.1) := by
  rw [perform]
  split
  · exact sync_ids _
  · rfl

theorem perform_handles_eq_nil {p : Player σ Handle} (h : p.handles = []) (a : Action) :
    (p.perform a).handles = [] := by
  rw [← List.map_eq_nil_iff, perform_ids, h, List.map_nil]

@[simp] theorem perform_state (p : Player σ Handle) (a : Action) :
    (p.perform a).state = p.state.perform p.model a := by
  rw [perform]
  split <;> rfl

theorem perform_of_updates {p : Player σ Handle} {a : Action} (h : a.updates p.model = true) :
    p.perform a = { p with state := p.state.perform p.model a }.sync := by
  rw [perform, if_pos h]

theorem perform_of_not_updates {p : Player σ Handle} {a : Action}
    (h : a.updates p.model = false) : p.perform a = p := by
  simp [perform, h, p.state.perform_of_not_updates h]

inductive Operation
  | perform (a : Action)
  | teardown

def operate (p : Player σ Handle) : Operation → Player σ Handle
  | .perform a => p.perform a
  | .teardown => p.teardown

@[simp] theorem operate_model (p : Player σ Handle) (o : Operation) :
    (p.operate o).model = p.model := by
  cases o with
  | perform a => exact perform_model p a
  | teardown => rfl

def Operation.state (m : Model) (s : PlayerState) : Operation → PlayerState
  | .perform a => s.perform m a
  | .teardown => {}

@[simp] theorem operate_state (p : Player σ Handle) (o : Operation) :
    (p.operate o).state = o.state p.model p.state := by
  cases o with
  | perform a => exact perform_state p a
  | teardown => rfl

/-- The players that a fresh one becomes by a list of moves.  The order in which the handles are
visited may be another one at the start and before each move. -/
inductive Run (move : Player σ Handle → α → Player σ Handle) (m : Model) (stage : σ) :
    List α → Player σ Handle → Prop
  | start : (∀ es, (arrange es).Perm es) → Run move m stage [] (.start m stage arrange)
  | move : Run move m stage moves p → es.Perm p.handles →
      Run move m stage (moves ++ [a]) (move { p with handles := es } a)

namespace Run

variable {α : Type} {move : Player σ Handle → α → Player σ Handle} {stage : σ} {moves : List α}
  {p : Player σ Handle}

theorem model_eq (hmove : ∀ p a, (move p a).model = p.model) (h : Run move m stage moves p) :
    p.model = m := by
  induction h with
  | start _ => rfl
  | move _ _ ih => rw [hmove]; exact ih

theorem of_perform {actions : List Action} (h : Run perform m stage actions p) :
    Run operate m stage (actions.map .perform) p := by
  induction h with
  | start harrange => exact .start harrange
  | move _ hes ih =>
    rw [List.map_append]
    exact .move ih hes

theorem operate_state_eq {operations : List Operation} (h : Run operate m stage operations p) :
    p.state = operations.foldl (Operation.state m) (({} : PlayerState).perform m .reset) := by
  induction h with
  | start _ => rfl
  | move h _ ih =>
    have hm := h.model_eq operate_model
    rw [operate_state, List.foldl_append, List.foldl_cons, List.foldl_nil, ← ih]
    exact congrArg (Operation.state · _ _) hm

theorem state_eq {actions : List Action} (h : Run perform m stage actions p) :
    p.state = actions.foldl (PlayerState.perform m) (({} : PlayerState).perform m .reset) := by
  rw [h.of_perform.operate_state_eq, List.foldl_map]
  rfl

theorem foldl (h : Run move m stage moves p) (more : List α) :
    Run move m stage (moves ++ more) (more.foldl move p) := by
  induction more generalizing moves p with
  | nil => rwa [List.append_nil]
  | cons a more ih =>
    have := ih (h.move (.refl p.handles) (a := a))
    rwa [List.append_assoc] at this

theorem foldl_start (move : Player σ Handle → α → Player σ Handle) (m : Model) (stage : σ)
    (moves : List α) : Run move m stage moves (moves.foldl move (.start m stage)) :=
  foldl (.start fun _ => .refl _) moves

end Run

end Player

end Portrait
