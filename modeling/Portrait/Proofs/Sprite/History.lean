import Portrait.Proofs.LastWriter
import Portrait.Proofs.Sprite.Drawing

/-! A ledger after any requests, whatever handles they name.  What it shows, what it draws and what it has
released can be read off the requests. -/

namespace Portrait

namespace Ledger

inductive Request
  | create (sprite : Sprite)
  | setVisible (handle : Nat) (visible : Bool)
  | release (handle : Nat)
  | sortChildren
  deriving DecidableEq

def Request.created? : Request → Option Sprite
  | .create sprite => some sprite
  | _ => none

def Request.handle? : Request → Option Nat
  | .setVisible h _ | .release h => some h
  | _ => none

def serve (s : Ledger) : Request → Ledger
  | .create sprite => (s.create sprite).2
  | .setVisible h visible => s.setVisible h visible
  | .release h => s.release h
  | .sortChildren => s.sortChildren

def ofRequests (requests : List Request) : Ledger := requests.foldl serve {}

def created (requests : List Request) : List Sprite := requests.filterMap Request.created?

def Since (requests : List Request) (h : Nat) (sprite : Sprite) (later : List Request) : Prop :=
  ∃ before, requests = before ++ .create sprite :: later ∧ (created before).length = h

def Released (requests : List Request) (h : Nat) : Prop :=
  ∃ sprite later, Since requests h sprite later ∧ .release h ∈ later

/-- The sprite with the handle is not released after its creation, and it is made visible by the last
request after its creation that sets its visibility. -/
def Shows (requests : List Request) (h : Nat) (sprite : Sprite) : Prop :=
  ∃ later, Since requests h sprite later ∧ .release h ∉ later ∧
    IsLast (∃ visible, · = .setVisible h visible) later (.setVisible h true)

/-! ### One record -/

def Request.touch (h : Nat) (r : SpriteRecord) : Request → SpriteRecord
  | .setVisible h' visible => if h' = h then { r with visible } else r
  | .release h' => if h' = h then { r with visible := false, released := true } else r
  | _ => r

variable {s : Ledger} {q : Request} {requests later : List Request} {h : Nat} {r : SpriteRecord}
  {sprite : Sprite}

theorem serve_records (hr : s.records[h]? = some r) (q : Request) :
    (s.serve q).records[h]? = some (q.touch h r) := by
  cases q with
  | create sprite =>
    rw [serve, create_records, List.getElem?_append_left (List.getElem?_eq_some_iff.mp hr).1, hr]
    rfl
  | setVisible h' visible =>
    rw [serve, setVisible_records, hr]
    rfl
  | release h' =>
    rw [serve, release_records, hr]
    rfl
  | sortChildren => exact hr

theorem foldl_serve_records (hr : s.records[h]? = some r) (later : List Request) :
    (later.foldl serve s).records[h]? = some (later.foldl (Request.touch h) r) := by
  induction later generalizing s r with
  | nil => exact hr
  | cons q later ih => exact ih (serve_records hr q)

theorem released_foldl_touch :
    (later.foldl (Request.touch h) r).released = true ↔ r.released = true ∨ .release h ∈ later := by
  induction later generalizing r with
  | nil => simp
  | cons q later ih =>
    rw [List.foldl_cons, ih, List.mem_cons]
    cases q with
    | create sprite => simp [Request.touch]
    | setVisible h' visible => by_cases heq : h' = h <;> simp [Request.touch, heq]
    | release h' =>
      by_cases heq : h' = h
      · simp [Request.touch, heq]
      · simp [Request.touch, heq, Ne.symm heq]
    | sortChildren => simp [Request.touch]

theorem isShown_foldl_touch :
    (later.foldl (Request.touch h) { sprite }).isShown = true ↔ .release h ∉ later ∧
      IsLast (∃ visible, · = .setVisible h visible) later (.setVisible h true) := by
  induction later using List.reverseRecOn with
  | nil => simp [IsLast, SpriteRecord.isShown]
  | append_singleton later q ih =>
    have hreleased : (later.foldl (Request.touch h) { sprite }).released = true ↔ .release h ∈ later := by
      simp [released_foldl_touch]
    rw [List.foldl_append, List.foldl_cons, List.foldl_nil, isLast_append_singleton_iff, List.mem_append,
      List.mem_singleton]
    cases q with
    | create sprite' => simpa [Request.touch] using ih
    | setVisible h' visible =>
      by_cases heq : h' = h
      · simp [Request.touch, heq, SpriteRecord.isShown, ← Bool.not_eq_true, hreleased, and_comm]
      · simpa [Request.touch, heq] using ih
    | release h' =>
      by_cases heq : h' = h
      · simp [Request.touch, heq, SpriteRecord.isShown]
      · simpa [Request.touch, heq, Ne.symm heq] using ih
    | sortChildren => simpa [Request.touch] using ih

theorem sprite_foldl_touch : (later.foldl (Request.touch h) r).sprite = r.sprite := by
  induction later generalizing r with
  | nil => rfl
  | cons q later ih =>
    rw [List.foldl_cons, ih]
    cases q with
    | create sprite => rfl
    | setVisible h' visible => by_cases heq : h' = h <;> simp [Request.touch, heq]
    | release h' => by_cases heq : h' = h <;> simp [Request.touch, heq]
    | sortChildren => rfl

/-! ### All records -/

theorem serve_of_handle_ge (hq : q.handle? = some h) (hh : s.records.length ≤ h) : s.serve q = s := by
  cases q with
  | create sprite => cases hq
  | setVisible h' visible =>
    obtain rfl := Option.some.inj hq
    rw [serve, setVisible, List.modify_eq_self hh]
  | release h' =>
    obtain rfl := Option.some.inj hq
    rw [serve, release, List.modify_eq_self hh]
  | sortChildren => cases hq

theorem length_records_ofRequests (requests : List Request) :
    (ofRequests requests).records.length = (created requests).length := by
  induction requests using List.reverseRecOn with
  | nil => rfl
  | append_singleton requests q ih =>
    have hserve : (ofRequests (requests ++ [q])) = (ofRequests requests).serve q := by
      rw [ofRequests, List.foldl_append]
      rfl
    have hcreated : created (requests ++ [q]) = created requests ++ q.created?.toList := by
      rw [created, List.filterMap_append]
      cases q <;> rfl
    rw [hserve, hcreated, List.length_append, ← ih]
    cases q with
    | create sprite => exact List.length_append
    | setVisible h visible => exact List.length_modify ..
    | release h => exact List.length_modify ..
    | sortChildren => rfl

theorem exists_since_iff :
    (∃ later, Since requests h sprite later) ↔ (created requests)[h]? = some sprite := by
  constructor
  · rintro ⟨later, before, rfl, rfl⟩
    have hcreated : created (before ++ .create sprite :: later) =
        created before ++ sprite :: created later := List.filterMap_append
    rw [hcreated, List.getElem?_append_right (Nat.le_refl _), Nat.sub_self, List.getElem?_cons_zero]
  · intro hsprite
    induction requests generalizing h with
    | nil => cases hsprite
    | cons q requests ih =>
      cases hq : q.created? with
      | none =>
        rw [created, List.filterMap_cons_none hq] at hsprite
        obtain ⟨later, before, rfl, hlength⟩ := ih hsprite
        exact ⟨later, q :: before, rfl, by rwa [created, List.filterMap_cons_none hq]⟩
      | some sprite' =>
        rw [created, List.filterMap_cons_some hq] at hsprite
        cases h with
        | zero =>
          obtain rfl := Option.some.inj hsprite
          cases q with
          | create sprite => exact ⟨requests, [], by rw [Option.some.inj hq]; rfl, rfl⟩
          | _ => cases hq
        | succ h =>
          obtain ⟨later, before, rfl, hlength⟩ := ih hsprite
          refine ⟨later, q :: before, rfl, ?_⟩
          rw [created, List.filterMap_cons_some hq, List.length_cons]
          exact congrArg Nat.succ hlength

theorem Since.record (hsince : Since requests h sprite later) :
    (ofRequests requests).records[h]? = some (later.foldl (Request.touch h) { sprite }) := by
  obtain ⟨before, rfl, rfl⟩ := hsince
  rw [ofRequests, List.foldl_append, List.foldl_cons]
  apply foldl_serve_records
  rw [← length_records_ofRequests]
  exact List.getElem?_concat_length

theorem records_ofRequests : (ofRequests requests).records[h]? = some r ↔
    ∃ sprite later, Since requests h sprite later ∧ later.foldl (Request.touch h) { sprite } = r := by
  constructor
  · intro hr
    have hlt := (List.getElem?_eq_some_iff.mp hr).1
    rw [length_records_ofRequests] at hlt
    obtain ⟨later, hsince⟩ := exists_since_iff.mpr (List.getElem?_eq_getElem hlt)
    exact ⟨_, later, hsince, Option.some.inj (hsince.record.symm.trans hr)⟩
  · rintro ⟨sprite, later, hsince, rfl⟩
    exact hsince.record

theorem sprites_ofRequests (requests : List Request) :
    (ofRequests requests).records.map (·.sprite) = created requests := by
  apply List.ext_getElem?
  intro h
  apply Option.ext
  intro sprite
  rw [List.getElem?_map, Option.map_eq_some_iff, ← exists_since_iff]
  constructor
  · rintro ⟨r, hr, rfl⟩
    obtain ⟨sprite, later, hsince, rfl⟩ := records_ofRequests.mp hr
    rw [sprite_foldl_touch]
    exact ⟨later, hsince⟩
  · rintro ⟨later, hsince⟩
    exact ⟨_, hsince.record, sprite_foldl_touch⟩

theorem ids_ofRequests (requests : List Request) :
    (ofRequests requests).ids = (created requests).map (·.layerId) := by
  rw [← sprites_ofRequests, List.map_map]
  rfl

theorem shows_iff : Shows requests h sprite ↔
    ∃ r, (ofRequests requests).records[h]? = some r ∧ r.sprite = sprite ∧ r.isShown = true := by
  constructor
  · rintro ⟨later, hsince, hshown⟩
    exact ⟨_, hsince.record, sprite_foldl_touch, isShown_foldl_touch.mpr hshown⟩
  · rintro ⟨r, hr, rfl, hshown⟩
    obtain ⟨sprite, later, hsince, rfl⟩ := records_ofRequests.mp hr
    rw [sprite_foldl_touch]
    exact ⟨later, hsince, isShown_foldl_touch.mp hshown⟩

theorem released_iff : Released requests h ↔
    ∃ r, (ofRequests requests).records[h]? = some r ∧ r.released = true := by
  constructor
  · rintro ⟨sprite, later, hsince, hmem⟩
    exact ⟨_, hsince.record, released_foldl_touch.mpr (.inr hmem)⟩
  · rintro ⟨r, hr, hreleased⟩
    obtain ⟨sprite, later, hsince, rfl⟩ := records_ofRequests.mp hr
    exact ⟨sprite, later, hsince, (released_foldl_touch.mp hreleased).resolve_left Bool.false_ne_true⟩

theorem isVisible_ofRequests {id : String} : (ofRequests requests).isVisible id = true ↔
    ∃ h sprite, LastAt ((created requests).map (·.layerId)) id h ∧ Shows requests h sprite := by
  rw [isVisible_iff, ids_ofRequests]
  constructor
  · rintro ⟨h, r, hlast, hr, hshown⟩
    exact ⟨h, r.sprite, hlast, shows_iff.mpr ⟨r, hr, rfl, hshown⟩⟩
  · rintro ⟨h, sprite, hlast, hshows⟩
    obtain ⟨r, hr, -, hshown⟩ := shows_iff.mp hshows
    exact ⟨h, r, hlast, hr, hshown⟩

theorem drawn_ofRequests (requests : List Request) : ∃ order : List (Nat × Sprite),
    (ofRequests requests).drawn = order.map (·.2.layerId) ∧
      (∀ h sprite, (h, sprite) ∈ order ↔ Shows requests h sprite) ∧ (order.map (·.1)).Nodup ∧
      order.Pairwise fun a b => a.2.zIndex < b.2.zIndex ∨ a.2.zIndex = b.2.zIndex ∧ a.1 < b.1 := by
  refine ⟨(ofRequests requests).drawing.map fun x => (x.2, x.1.sprite), ?_, fun h sprite => ?_, ?_, ?_⟩
  · rw [drawn_eq, shown_eq, List.map_map, List.map_map]
    rfl
  · rw [shows_iff, List.mem_map]
    constructor
    · rintro ⟨⟨r, i⟩, hmem, heq⟩
      obtain ⟨rfl, rfl⟩ := Prod.mk.inj heq
      obtain ⟨hr, hshown⟩ := mem_drawing.mp hmem
      exact ⟨r, hr, rfl, hshown⟩
    · rintro ⟨r, hr, rfl, hshown⟩
      exact ⟨(r, h), mem_drawing.mpr ⟨hr, hshown⟩, rfl⟩
  · rw [List.map_map]
    exact (ofRequests requests).nodup_drawing
  · rw [List.pairwise_map]
    exact (ofRequests requests).pairwise_drawing

theorem releasedCount_ofRequests (requests : List Request) : ∃ gone : List Nat, gone.Nodup ∧
    (∀ h, h ∈ gone ↔ Released requests h) ∧ (ofRequests requests).releasedCount = gone.length := by
  refine ⟨((ofRequests requests).placed (·.released)).map (·.2), nodup_placed .., fun h => ?_, ?_⟩
  · rw [released_iff, List.mem_map]
    constructor
    · rintro ⟨⟨r, i⟩, hmem, rfl⟩
      exact ⟨r, mem_placed.mp hmem⟩
    · rintro ⟨r, hr⟩
      exact ⟨(r, h), mem_placed.mpr hr, rfl⟩
  · rw [List.length_map, length_placed]
    rfl

/-- After any requests a sprite is shown if it was created, not released since, and the last request since
then that sets its visibility makes it visible; of several sprites with one layer id the last one counts for
the id.  The shown sprites are drawn once each, by level, and in creation order on one level.  The number of
released sprites is that of the handles released after their creation.  A new sprite gets the next handle,
and a request about a handle that was not given out changes nothing. -/
theorem shows_what_requests_say (requests : List Request) :
    (∀ h sprite, (∃ r, (ofRequests requests).records[h]? = some r ∧ r.sprite = sprite ∧
      r.isShown = true) ↔ Shows requests h sprite) ∧
    (∀ id, (ofRequests requests).isVisible id = true ↔ ∃ h sprite,
      LastAt ((created requests).map (·.layerId)) id h ∧ Shows requests h sprite) ∧
    (∃ order : List (Nat × Sprite), (ofRequests requests).drawn = order.map (·.2.layerId) ∧
      (∀ h sprite, (h, sprite) ∈ order ↔ Shows requests h sprite) ∧ (order.map (·.1)).Nodup ∧
      order.Pairwise fun a b => a.2.zIndex < b.2.zIndex ∨ a.2.zIndex = b.2.zIndex ∧ a.1 < b.1) ∧
    (∃ gone : List Nat, gone.Nodup ∧ (∀ h, h ∈ gone ↔ Released requests h) ∧
      (ofRequests requests).releasedCount = gone.length) ∧
    (∀ sprite, ((ofRequests requests).create sprite).1 = (created requests).length) ∧
    ∀ q h, q.handle? = some h → (created requests).length ≤ h →
      (ofRequests requests).serve q = ofRequests requests := by
  refine ⟨fun h sprite => shows_iff.symm, fun id => isVisible_ofRequests, drawn_ofRequests requests,
    releasedCount_ofRequests requests, fun sprite => length_records_ofRequests requests, ?unissued⟩
  case unissued =>
    intro q h hq hh
    exact serve_of_handle_ge hq (length_records_ofRequests requests ▸ hh)

/-- What is asked before the creation does not count, and what is released is not shown again. -/
example (sprite : Sprite) :
    (ofRequests [.release 0, .create sprite, .setVisible 0 true]).records = [⟨sprite, true, false⟩] ∧
      (ofRequests [.create sprite, .release 0, .setVisible 0 true]).records = [⟨sprite, true, true⟩] :=
  ⟨rfl, rfl⟩

end Ledger

end Portrait
