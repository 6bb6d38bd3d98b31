import Mathlib
import Portrait.Proofs.Player.Records
import Portrait.Proofs.Sprite.Trace

/-! What a player asks of its stage, from its start to the end: each sprite is created once and released
once, and nothing is asked of it afterwards. -/

namespace Portrait

namespace Player

variable {σ Handle : Type} [Stage σ Handle] {m : Model} {stage : σ} {operations : List Operation}

/-! ### A recorder does not change a run -/

def unrecord (e : String × (Nat × Handle)) : String × Handle := (e.1, e.2.2)

def unrecorded (p : Player (Recorder σ) (Nat × Handle)) : Player σ Handle where
  model := p.model
  stage := p.stage.stage
  handles := p.handles.map unrecord
  state := p.state

/-- A player played on a stage behind a new recorder. -/
abbrev Recording (m : Model) (stage : σ) (operations : List Operation)
    (p : Player (Recorder σ) (Nat × Handle)) : Prop :=
  Run operate m { stage } operations p

theorem assign_unrecord (id : String) (h : Nat × Handle) (es : List (String × (Nat × Handle))) :
    assign id h.2 (es.map unrecord) =
      ((assign id h es).1.map unrecord, (assign id h es).2.map (·.2)) := by
  induction es with
  | nil => rfl
  | cons e es ih =>
    by_cases he : e.1 = id
    · rw [List.map_cons, assign_cons_of_eq (e := unrecord e) he, assign_cons_of_eq he]
      rfl
    · rw [List.map_cons, assign_cons_of_ne (e := unrecord e) he, assign_cons_of_ne he, ih]
      rfl

theorem mount_unrecord (m : Model) (r : Recorder σ) (es : List (String × (Nat × Handle))) (l : Layer) :
    mount m (r.stage, es.map unrecord) l =
      ((mount m (r, es) l).1.stage, (mount m (r, es) l).2.map unrecord) := by
  have hassign := assign_unrecord l.id (Stage.create r (m.sprite l)).1 es
  simp only [mount]
  rw [show (Stage.create r.stage (m.sprite l)).1 = (Stage.create r (m.sprite l)).1.2 from rfl, hassign]
  cases (assign l.id (Stage.create r (m.sprite l)).1 es).2 <;> rfl

theorem foldl_mount_unrecord (m : Model) (layers : List Layer) (r : Recorder σ)
    (es : List (String × (Nat × Handle))) :
    layers.foldl (mount m) (r.stage, es.map unrecord) =
      ((layers.foldl (mount m) (r, es)).1.stage, (layers.foldl (mount m) (r, es)).2.map unrecord) := by
  induction layers generalizing r es with
  | nil => rfl
  | cons l layers ih => rw [List.foldl_cons, mount_unrecord, ih, List.foldl_cons]

theorem showAll_unrecord (v : Visibility) (r : Recorder σ) (es : List (String × (Nat × Handle))) :
    showAll v r.stage (es.map unrecord) =
      ((showAll v r es).1.stage, (showAll v r es).2.map unrecord) := by
  induction es generalizing r with
  | nil => rfl
  | cons e es ih =>
    have hrest := ih (Stage.setVisible r e.2 (v.isVisible e.1)).2
    rw [List.map_cons, showAll, showAll, List.map_cons]
    exact congrArg (fun x => (x.1, _ :: x.2)) hrest

theorem foldl_release_unrecord (r : Recorder σ) (es : List (String × (Nat × Handle))) :
    (es.foldl (fun r e => Stage.release r e.2) r).stage =
      (es.map unrecord).foldl (fun s e => Stage.release s e.2) r.stage := by
  induction es generalizing r with
  | nil => rfl
  | cons e es ih => exact ih (Stage.release r e.2)

@[simp] theorem unrecorded_sync (p : Player (Recorder σ) (Nat × Handle)) :
    p.sync.unrecorded = p.unrecorded.sync := by
  have hshow : showAll p.unrecorded.visibility p.unrecorded.stage p.unrecorded.handles =
      ((showAll p.visibility p.stage p.handles).1.stage,
        (showAll p.visibility p.stage p.handles).2.map unrecord) :=
    showAll_unrecord p.visibility p.stage p.handles
  rw [sync, sync, hshow]
  rfl

theorem unrecorded_teardown (p : Player (Recorder σ) (Nat × Handle)) :
    p.teardown.unrecorded = p.unrecorded.teardown := by
  have hrelease : (p.handles.foldl (fun r e => Stage.release r e.2) p.stage).stage =
      p.unrecorded.handles.foldl (fun s e => Stage.release s e.2) p.stage.stage :=
    foldl_release_unrecord p.stage p.handles
  rw [teardown, teardown, unrecorded, hrelease]
  rfl

theorem unrecorded_operate (p : Player (Recorder σ) (Nat × Handle)) (o : Operation) :
    (p.operate o).unrecorded = p.unrecorded.operate o := by
  cases o with
  | perform a =>
    have hmodel : p.unrecorded.model = p.model := rfl
    rw [operate, operate, perform, perform, hmodel]
    split
    · exact unrecorded_sync _
    · rfl
  | teardown => exact unrecorded_teardown p

theorem exists_perm_unrecord {es : List (String × Handle)} {rs : List (String × (Nat × Handle))}
    (h : es.Perm (rs.map unrecord)) :
    ∃ rs' : List (String × (Nat × Handle)), rs'.Perm rs ∧ rs'.map unrecord = es := by
  have hcomp := congrFun (congrFun (List.eq_map_comp_perm unrecord) es) rs
  obtain ⟨rs', heq, hperm⟩ := hcomp.mpr h
  exact ⟨rs', hperm, heq.symm⟩

theorem start_eq (m : Model) (stage : σ) (arrange : List (String × Handle) → List (String × Handle)) :
    Player.start m stage arrange =
      ({ model := m, stage := (m.layers.foldl (mount m) (stage, [])).1,
         handles := arrange (m.layers.foldl (mount m) (stage, [])).2 } : Player σ Handle).operate
        (.perform .reset) := rfl

theorem exists_start_recorded (m : Model) (stage : σ)
    {arrange : List (String × Handle) → List (String × Handle)}
    (harrange : ∀ es, (arrange es).Perm es) :
    ∃ arrange' : List (String × (Nat × Handle)) → List (String × (Nat × Handle)),
      (∀ es, (arrange' es).Perm es) ∧
        (Player.start m ({ stage } : Recorder σ) arrange').unrecorded = .start m stage arrange := by
  classical
  let mounted := m.layers.foldl (mount m) (({ stage } : Recorder σ), [])
  have hmount : m.layers.foldl (mount m) (stage, []) =
      (mounted.1.stage, mounted.2.map unrecord) :=
    foldl_mount_unrecord m m.layers ({ stage } : Recorder σ) []
  obtain ⟨rs, hperm, hrs⟩ := exists_perm_unrecord (harrange (mounted.2.map unrecord))
  -- Only the handles that are mounted get to be arranged; all others may stay as they are.
  refine ⟨fun es => if es = mounted.2 then rs else es, fun es => ?_, ?_⟩
  · by_cases heq : es = mounted.2
    · simpa [heq] using hperm
    · simp [heq]
  · rw [start_eq, unrecorded_operate, start_eq, hmount, ← hrs]
    congr 1
    simp [unrecorded, mounted]

theorem Run.exists_recorded {p : Player σ Handle} (h : Run operate m stage operations p) :
    ∃ q, Recording m stage operations q ∧ q.unrecorded = p := by
  induction h with
  | start harrange =>
    obtain ⟨arrange', harrange', hstart⟩ := exists_start_recorded m stage harrange
    exact ⟨_, .start harrange', hstart⟩
  | move _ hes ih =>
    obtain ⟨q, hq, rfl⟩ := ih
    obtain ⟨rs, hperm, hrs⟩ := exists_perm_unrecord hes
    refine ⟨_, hq.move hperm, ?_⟩
    rw [unrecorded_operate, ← hrs]
    rfl

/-! ### The calls of a run -/

def held (handles : List (String × (Nat × Handle))) : List Nat := handles.map (·.2.1)

theorem perm_assign (id : String) (h : Handle) (es : List (String × Handle)) :
    ((assign id h es).2.toList ++ (assign id h es).1.map (·.2)).Perm (h :: es.map (·.2)) := by
  induction es with
  | nil => exact .refl _
  | cons e es ih =>
    by_cases he : e.1 = id
    · rw [assign_cons_of_eq he]
      exact .swap h e.2 _
    · rw [assign_cons_of_ne he]
      exact List.perm_middle.trans ((ih.cons e.2).trans (.swap h e.2 _))

variable {r : Recorder σ} {sprites : List Sprite} {handles es : List (String × (Nat × Handle))}

structure Tracks (r : Recorder σ) (sprites : List Sprite)
    (handles : List (String × (Nat × Handle))) : Prop where
  created : r.created = sprites.length
  traced : Traced sprites r.calls (held handles)

theorem Tracks.mount (h : Tracks r sprites handles) (m : Model) (l : Layer) :
    Tracks (Player.mount m (r, handles) l).1 (sprites ++ [m.sprite l])
      (Player.mount m (r, handles) l).2 := by
  have hcreated : r.created + 1 = (sprites ++ [m.sprite l]).length := by simp [h.created]
  have htraced := h.traced.create (m.sprite l)
  have hhandle : (Stage.create r (m.sprite l)).1.1 = r.created := rfl
  have hperm := (perm_assign l.id (Stage.create r (m.sprite l)).1 handles).map (·.1)
  rw [← h.created] at htraced
  simp only [Player.mount]
  cases hold : (assign l.id (Stage.create r (m.sprite l)).1 handles).2 with
  | none =>
    refine ⟨hcreated, htraced.perm ?_⟩
    simpa [hold, held, hhandle, Function.comp_def] using hperm
  | some old =>
    refine ⟨hcreated, Traced.release (htraced.perm ?_)⟩
    simpa [hold, held, hhandle, Function.comp_def] using hperm

theorem Tracks.foldl_mount (h : Tracks r sprites handles) (m : Model) (layers : List Layer) :
    Tracks (layers.foldl (Player.mount m) (r, handles)).1 (sprites ++ layers.map m.sprite)
      (layers.foldl (Player.mount m) (r, handles)).2 := by
  induction layers generalizing r sprites handles with
  | nil => simpa using h
  | cons l layers ih => simpa using ih (h.mount m l)

theorem held_showAll (v : Visibility) (r : Recorder σ) (es : List (String × (Nat × Handle))) :
    held (showAll v r es).2 = held es := by
  induction es generalizing r with
  | nil => rfl
  | cons e es ih => exact congrArg (e.2.1 :: ·) (ih (Stage.setVisible r e.2 (v.isVisible e.1)).2)

theorem traced_showAll (v : Visibility) (h : Traced sprites r.calls (held handles))
    (hes : ∀ e ∈ es, e ∈ handles) :
    Traced sprites (showAll v r es).1.calls (held handles) := by
  induction es generalizing r with
  | nil => exact h
  | cons e es ih =>
    obtain ⟨he, hes⟩ := List.forall_mem_cons.mp hes
    refine ih (h.use (fun n hn => ?_) rfl rfl) hes
    rw [← Option.some.inj hn]
    exact List.mem_map_of_mem he

theorem traced_foldl_release (h : Traced sprites r.calls (held es)) :
    Traced sprites (es.foldl (fun r e => Stage.release r e.2) r).calls [] := by
  induction es generalizing r with
  | nil => exact h
  | cons e es ih => exact ih h.release

theorem traced_sync {p : Player (Recorder σ) (Nat × Handle)}
    (h : Traced sprites p.stage.calls (held p.handles)) :
    Traced sprites p.sync.stage.calls (held p.sync.handles) := by
  have hall := (traced_showAll p.visibility h fun _ he => he).use
    (c := .sortChildren) (fun _ hn => nomatch hn) rfl rfl
  rwa [← held_showAll p.visibility p.stage p.handles] at hall

theorem traced_operate {p : Player (Recorder σ) (Nat × Handle)}
    (h : Traced sprites p.stage.calls (held p.handles)) (o : Operation) :
    Traced sprites (p.operate o).stage.calls (held (p.operate o).handles) := by
  cases o with
  | perform a =>
    rw [operate, perform]
    split
    · exact traced_sync h
    · exact h
  | teardown => exact traced_foldl_release h

theorem Run.traced {p : Player (Recorder σ) (Nat × Handle)}
    (h : Recording m stage operations p) :
    Traced (m.layers.map m.sprite) p.stage.calls (held p.handles) := by
  induction h with
  | start harrange =>
    have hstage : Tracks ({ stage } : Recorder σ) [] ([] : List (String × (Nat × Handle))) :=
      ⟨rfl, Traced.nil⟩
    have hmounted := (hstage.foldl_mount m m.layers).traced
    exact traced_operate (hmounted.perm ((harrange _).map _)) (.perform .reset)
  | @move moves p o es _ hes ih =>
    exact traced_operate (p := { p with handles := es }) (ih.perm (hes.map _)) o

/-! ### After a teardown -/

theorem calls_operate_of_no_handles {p : Player (Recorder σ) (Nat × Handle)} (h : p.handles = [])
    (o : Operation) : (p.operate o).handles = [] ∧ ∃ late : List Call,
      (p.operate o).stage.calls = p.stage.calls ++ late ∧ ∀ c ∈ late, c = .sortChildren := by
  cases o with
  | perform a =>
    refine ⟨perform_handles_eq_nil h a, ?_⟩
    rw [operate, perform]
    split
    · refine ⟨[.sortChildren], ?_, fun c hc => List.mem_singleton.mp hc⟩
      simp only [sync, h, showAll]
      rfl
    · exact ⟨[], (List.append_nil _).symm, List.forall_mem_nil _⟩
  | teardown =>
    refine ⟨rfl, [], ?_, List.forall_mem_nil _⟩
    simp [operate, teardown, h]

theorem Run.calls_after_teardown {before after : List Operation}
    {p : Player (Recorder σ) (Nat × Handle)}
    (h : Recording m stage (before ++ Operation.teardown :: after) p) :
    p.handles = [] ∧ ∃ torn late, Recording m stage (before ++ [Operation.teardown]) torn ∧
      p.stage.calls = torn.stage.calls ++ late ∧ ∀ c ∈ late, c = .sortChildren := by
  generalize hmoves : before ++ Operation.teardown :: after = moves at h
  induction h generalizing after with
  | start _ => simp at hmoves
  | @move moves p o es hrun hes ih =>
    -- The last operation is the teardown itself, or one that comes after it.
    rcases List.eq_nil_or_concat after with rfl | ⟨after, o', rfl⟩
    · obtain ⟨rfl, ho⟩ := List.append_inj' hmoves rfl
      obtain rfl := List.singleton_inj.mp ho
      exact ⟨rfl, _, [], hrun.move hes, (List.append_nil _).symm, List.forall_mem_nil _⟩
    · rw [List.concat_eq_append, ← List.cons_append, ← List.append_assoc] at hmoves
      obtain ⟨hmoves, -⟩ := List.append_inj' hmoves rfl
      obtain ⟨hnone, torn, late, htorn, hcalls, hlate⟩ := ih hmoves
      obtain ⟨hnone', late', hcalls', hlate'⟩ :=
        calls_operate_of_no_handles (p := { p with handles := es }) (hnone ▸ hes).eq_nil o
      refine ⟨hnone', torn, late ++ late', htorn, ?_, ?_⟩
      · rw [hcalls', hcalls, List.append_assoc]
      · exact List.forall_mem_append.mpr ⟨hlate, hlate'⟩

/-- A run on any stage may be recorded, one that changes its handles included.  When a player is done
with its sprites in the end, then it has created one for each layer, in layer order, and has released
each of them once, and no call on a sprite came before its creation or after its release.  From the first teardown on nothing was asked for but
sorting; on a ledger all sprites are released and invisible from then on. -/
theorem sprites_live_once {p : Player σ Handle}
    (h : Run operate m stage (operations ++ [Operation.teardown]) p) :
    (∃ q, Recording m stage (operations ++ [Operation.teardown]) q ∧ q.unrecorded = p) ∧
    (∀ q, Recording m stage (operations ++ [Operation.teardown]) q →
      q.stage.calls.filterMap Call.created? = (m.layers.map m.sprite).zipIdx ∧
      (q.stage.calls.filterMap Call.released?).Perm (List.range m.layers.length) ∧
      q.stage.calls.Pairwise Call.MayPrecede ∧
      ∀ before after, operations ++ [Operation.teardown] = before ++ Operation.teardown :: after →
        ∃ torn late, Recording m stage (before ++ [Operation.teardown]) torn ∧
          q.stage.calls = torn.stage.calls ++ late ∧ ∀ c ∈ late, c = .sortChildren) ∧
    ∀ before after (l : Player Ledger Nat),
      Run operate m {} (before ++ Operation.teardown :: after) l →
      l.stage.records.map (·.sprite) = m.layers.map m.sprite ∧
      ∀ r ∈ l.stage.records, r.released = true ∧ r.visible = false := by
  refine ⟨h.exists_recorded, fun q hq => ?recorded, fun before after l hl => ?ledger⟩
  case recorded =>
    have htraced := hq.traced
    rw [hq.calls_after_teardown.1] at htraced
    refine ⟨htraced.created, by simpa [held] using htraced.accounted, htraced.ordered, ?_⟩
    intro before after heq
    exact (heq ▸ hq).calls_after_teardown.2
  case ledger =>
    rcases hl.presents_or_vacated with ⟨hno, -⟩ | ⟨-, hl'⟩
    · simp at hno
    · rw [← hl.model_eq operate_model]
      exact ⟨hl'.sprites, hl'.gone⟩

/-- A stage that gives a sprite a new handle whenever it is shown or hidden. -/
structure Turnstile where
  issued : Nat := 0
  released : List Nat := []
  deriving DecidableEq

instance : Stage Turnstile Nat where
  create s _ := (s.issued, { s with issued := s.issued + 1 })
  setVisible s _ _ := (s.issued, { s with issued := s.issued + 1 })
  release s h := { s with released := s.released ++ [h] }

def encore : List Operation :=
  [.perform (.setPose "Raise"), .teardown, .perform (.setLayer "Arm/Down" true), .teardown]

def encored : Player Turnstile Nat :=
  (encore ++ [Operation.teardown]).foldl operate (.start doubled ({} : Turnstile))

theorem sprites_live_once_encore :
    Run operate doubled ({} : Turnstile) (encore ++ [Operation.teardown]) encored ∧
    encored.stage = { issued := 7, released := [0, 5, 6] } ∧
    ∃ q : Player (Recorder Turnstile) (Nat × Nat), q.unrecorded = encored ∧
      (q.stage.calls.filterMap Call.created?).map (·.2) = [0, 1, 2] ∧
      (q.stage.calls.filterMap Call.released?).Perm [0, 1, 2] ∧
      ∃ torn late, Recording doubled ({} : Turnstile) (encore.take 2) torn ∧
        q.stage.calls = torn.stage.calls ++ late ∧ ∀ c ∈ late, c = .sortChildren := by
  have run : Run operate doubled ({} : Turnstile) (encore ++ [Operation.teardown]) encored :=
    .foldl_start operate doubled ({} : Turnstile) _
  obtain ⟨⟨q, hq, hback⟩, recorded, -⟩ := sprites_live_once run
  obtain ⟨created, released, -, late⟩ := recorded q hq
  exact ⟨run, by cbv, q, hback, by rw [created]; rfl, released,
    late [.perform (.setPose "Raise")] (encore.drop 2 ++ [Operation.teardown]) rfl⟩

end Player

end Portrait
