import Paintbox.Proofs.Display.Sound
import Paintbox.Proofs.Registry.Guests

/-!
# Guests of a display

Whoever opens contexts and makes objects, draws through these contexts with these objects, and
closes and deletes all of them in the end leaves a display as it was, up to the pixels of its screen
and the handles that come next.  In between the contexts and objects are guests of the display.
Nothing is asked of the display but room for them: once they are there, what is done through them
does not fail.

* `DisplayAction.Yields` — what an action leaves if it answers, and how it may fail; closed under
  sequencing.
* `Drawing.Provided`, `Drawing.exists_stroke` — **what a drawing needs besides a live context**.
* `Display.Hosts` — one display is another one with guests on it.
* `Display.yields_addContext`, `Display.yields_addObject` — a guest comes, and is refused for want
  of room only.
* `Display.yields_perform`, `Display.yields_exchange`, … — guests are used.
* `Display.yields_closeContext`, `Display.yields_deleteObject` — a guest goes.
* `Display.Restored` — two displays with the same entries; `Display.Hosts.restored` — **so they are
  when the last guest has gone**.
-/

namespace Paintbox

/-! ## What actions yield -/

namespace DisplayAction

variable {α β : Type} {P P' : Display → Prop} {Q Q' : α → Display → Prop}
  {R : β → Display → Prop} {E : Error → Prop}

/-- Begun on a display with `P`, an action answers and leaves what `Q` says, or it fails in a way
that `E` allows. -/
def Yields (P : Display → Prop) (a : DisplayAction α) (Q : α → Display → Prop)
    (E : Error → Prop) : Prop :=
  ∀ d, P d → (∃ x d', a.on d = (.ok x, d') ∧ Q x d') ∨ ∃ e d', a.on d = (.error e, d') ∧ E e

namespace Yields

/-- What is left after an action is what the next one begins with, and a failure of either is one of
both. -/
lemma bind {a : DisplayAction α} {f : α → DisplayAction β} (ha : Yields P a Q E)
    (hf : ∀ x, Yields (Q x) (f x) R E) : Yields P (a >>= f) R E := by
  intro d hd
  rcases ha d hd with ⟨x, d', hrun, hleft⟩ | ⟨e, d', hrun, hfail⟩
  · rw [on_bind_ok hrun]
    exact hf x d' hleft
  · exact Or.inr ⟨e, d', on_bind_error hrun f, hfail⟩

lemma pre {a : DisplayAction α} (ha : Yields P a Q E) (hP : ∀ d, P' d → P d) : Yields P' a Q E :=
  fun d hd => ha d (hP d hd)

lemma post {a : DisplayAction α} (ha : Yields P a Q E) (hQ : ∀ x d, Q x d → Q' x d) :
    Yields P a Q' E := by
  intro d hd
  rcases ha d hd with ⟨x, d', hrun, hleft⟩ | hfail
  · exact Or.inl ⟨x, d', hrun, hQ x d' hleft⟩
  · exact Or.inr hfail

/-- More ways to fail may be allowed. -/
lemma mono {E' : Error → Prop} {a : DisplayAction α} (ha : Yields P a Q E)
    (hE : ∀ e, E e → E' e) : Yields P a Q E' :=
  fun d hd => (ha d hd).imp_right fun ⟨e, d', hrun, hfail⟩ => ⟨e, d', hrun, hE e hfail⟩

/-- What is so on every display that an action begins on may be used for it. -/
lemma assume {p : Prop} {a : DisplayAction α} (hp : ∀ d, P d → p) (ha : p → Yields P a Q E) :
    Yields P a Q E :=
  fun d hd => ha (hp d hd) d hd

lemma pure {x : α} (hQ : ∀ d, P d → Q x d) : Yields P (Pure.pure x) Q E :=
  fun d hd => Or.inl ⟨x, d, rfl, hQ d hd⟩

/-- A question that always has an answer. -/
lemma ask {answer : Display → α} :
    Yields P (DisplayAction.ask fun d => .ok (answer d)) (fun _ => P) E :=
  fun d hd => Or.inl ⟨answer d, d, rfl, hd⟩

end Yields

end DisplayAction

/-! ## What drawings need -/

/-- What a drawing needs on the display besides the context that it goes through. -/
def Drawing.Provided (d : Display) : Drawing → Prop
  | .path points _ => 2 ≤ points.length
  | .fillRect _ o | .frameRect _ o => ∃ b, d.objects.get? o.code = some (.brush b)
  | .bitTransfer _ src _ _ _ | .stretchTransfer _ src _ _ =>
      src = .null ∨ ∃ dc, d.contexts.get? src.code = some dc
  | _ => True

namespace Display

variable {d : Display} {h : ContextHandle} {dc : DeviceContext}

lemma brushInk_of_live {o : ObjectHandle} {b : Brush}
    (hbrush : d.objects.get? o.code = some (.brush b)) : d.brushInk o = .ok b.ink := by
  rw [brushInk, object_eq_ok_iff.mpr hbrush]
  rfl

lemma exists_source_eq {src : ContextHandle}
    (hsrc : src = .null ∨ ∃ dc, d.contexts.get? src.code = some dc) :
    ∃ source, d.source src = .ok source := by
  rcases hsrc with rfl | ⟨dc, hdc⟩
  · exact ⟨none, rfl⟩
  · exact ⟨_, source_of_live hdc⟩

end Display

open Display DisplayAction

/-- **A drawing that has what it needs is not refused.** -/
lemma Drawing.exists_stroke {d : Display} {h : ContextHandle} {dc : DeviceContext}
    (hdc : d.contexts.get? h.code = some dc) {g : Drawing} (hg : g.Provided d) :
    ∃ f, g.stroke d h = .ok f := by
  have hctx := context_eq_ok_iff.mpr hdc
  cases g with
  | path points closed =>
      have hmany : ¬ points.length < 2 := Nat.not_lt.mpr hg
      exact ⟨_, by rw [stroke, if_neg hmany, hctx]; rfl⟩
  | fillRect r o | frameRect r o =>
      obtain ⟨b, hbrush⟩ := hg
      exact ⟨_, by rw [stroke, brushInk_of_live hbrush, hctx]; rfl⟩
  | bitTransfer box src sx sy op =>
      obtain ⟨source, hsource⟩ := exists_source_eq hg
      exact ⟨_, by rw [stroke, transferStroke, hctx, hsource]; rfl⟩
  | stretchTransfer box src srcBox op =>
      obtain ⟨source, hsource⟩ := exists_source_eq hg
      exact ⟨_, by rw [stroke, transferStroke, hctx, hsource]; rfl⟩
  | _ => exact ⟨_, by rw [stroke, hctx]; rfl⟩

/-! ## Guests -/

namespace Display

variable {α : Type} {chosen : Settings} {d₀ d : Display} {cs : List ContextHandle}
  {os : List ObjectHandle} {h : ContextHandle} {o : ObjectHandle} {E : Error → Prop}

/-- There is room for `n` contexts and `m` objects more. -/
def HasRoom (d : Display) (n m : ℕ) : Prop :=
  d.contexts.live + n ≤ d.contexts.capacity ∧ d.objects.live + m ≤ d.objects.capacity

instance (d : Display) (n m : ℕ) : Decidable (d.HasRoom n m) :=
  inferInstanceAs (Decidable (_ ∧ _))

/-- The error of a full table, allowed where there is no room for so many contexts and objects. -/
def Crowded (d : Display) (n m : ℕ) (e : Error) : Prop :=
  (∃ table, e = .capacityExceeded table) ∧ ¬ d.HasRoom n m

/-- The error of a heap that has no room for so many bytes. -/
def Starved (heap : Heap) (bytes : ℕ) (e : Error) : Prop :=
  e = .outOfMemory bytes ∧ heap.grants bytes = false

/-- The display `d` is `d₀` with the contexts `cs` and the objects `os` more on it.  Besides those
only the pixels of the screen and the handles that come next may be others. -/
structure Hosts (chosen : Settings) (d₀ : Display) (cs : List ContextHandle)
    (os : List ObjectHandle) (d : Display) : Prop where
  sound : d.Sound chosen
  contexts : d₀.contexts.Hosts (cs.map ContextHandle.code) d.contexts
  objects : d₀.objects.Hosts (os.map ObjectHandle.code) d.objects

namespace Hosts

lemma refl (hd : d₀.Sound chosen) : Hosts chosen d₀ [] [] d₀ :=
  ⟨hd, .refl d₀.contexts, .refl d₀.objects⟩

/-- Which guest came first is of no matter. -/
lemma permObjects (hd : Hosts chosen d₀ cs os d) {os' : List ObjectHandle}
    (hperm : os'.Perm os) : Hosts chosen d₀ cs os' d :=
  ⟨hd.sound, hd.contexts, hd.objects.perm (hperm.map _)⟩

lemma exists_context (hd : Hosts chosen d₀ cs os d) (hh : h ∈ cs) :
    ∃ dc, d.contexts.get? h.code = some dc :=
  hd.contexts.lodged _ (List.mem_map_of_mem hh)

lemma exists_object (hd : Hosts chosen d₀ cs os d) (ho : o ∈ os) :
    ∃ object, d.objects.get? o.code = some object :=
  hd.objects.lodged _ (List.mem_map_of_mem ho)

lemma valid (hd : Hosts chosen d₀ cs os d) : chosen.Valid :=
  (Settings.check_eq_ok_iff chosen).mp hd.sound.valid

lemma capacity_contexts (hd : Hosts chosen d₀ cs os d) : d₀.contexts.capacity ≤ 65535 := by
  rw [← hd.contexts.capacity, hd.sound.maxContexts]
  exact hd.valid.maxContexts.2

lemma capacity_objects (hd : Hosts chosen d₀ cs os d) : d₀.objects.capacity ≤ 65535 := by
  rw [← hd.objects.capacity, hd.sound.maxObjects]
  exact hd.valid.maxObjects.2

/-- The guests have found room. -/
lemma hasRoom (hd : Hosts chosen d₀ cs os d) : d₀.HasRoom cs.length os.length := by
  have hcs := hd.contexts.room
  have hos := hd.objects.room
  rw [List.length_map] at hcs hos
  exact ⟨hcs, hos⟩

/-- A change of registers of guests. -/
lemma mapContext (hd : Hosts chosen d₀ cs os d) (hh : h ∈ cs)
    {k : DeviceContext → DeviceContext} (hsound : (d.mapContext h k).Sound chosen) :
    Hosts chosen d₀ cs os (d.mapContext h k) :=
  ⟨hsound, hd.contexts.modify (List.mem_map_of_mem hh) k, hd.objects⟩

end Hosts

/-! ## Guests come -/

variable {n m : ℕ}

lemma yields_addContext {dc : DeviceContext} (hdc : dc.Sound chosen) (hroom : cs.length < n) :
    Yields (Hosts chosen d₀ cs os) (addContext dc) (fun h => Hosts chosen d₀ (h :: cs) os)
      (d₀.Crowded n m) := by
  intro d hd
  rcases hd.contexts.insert_cases hd.capacity_contexts dc with ⟨v, hins⟩ | ⟨hins, hfull⟩
  · have hon : (addContext dc).on d
        = (.ok ⟨v.handle⟩, { d with contexts := d.contexts.add v dc }) := by
      rw [on_addContext, hins]
      rfl
    have hsound := (keeps_addContext hdc).of_on hon hd.sound
    exact Or.inl ⟨_, _, hon, hsound, hd.contexts.add v dc, hd.objects⟩
  · refine Or.inr ⟨.capacityExceeded d₀.contexts.table, d, ?_, ⟨_, rfl⟩, fun hfree => ?_⟩
    · rw [on_addContext, hins]
      rfl
    · have hfree := hfree.1
      rw [List.length_map] at hfull
      omega

/-- An object that comes is found under the handle that was answered. -/
lemma yields_addObject_found {object : GraphicsObject} (hobject : object.Sound)
    (hroom : os.length < m) :
    Yields (Hosts chosen d₀ cs os) (addObject object)
      (fun o d => Hosts chosen d₀ cs (o :: os) d ∧ d.objects.get? o.code = some object)
      (d₀.Crowded n m) := by
  intro d hd
  rcases hd.objects.insert_cases hd.capacity_objects object with ⟨v, hins⟩ | ⟨hins, hfull⟩
  · have hon : (addObject object).on d
        = (.ok ⟨v.handle⟩, { d with objects := d.objects.add v object }) := by
      rw [on_addObject, hins]
      rfl
    have hsound := (keeps_addObject hobject).of_on hon hd.sound
    refine Or.inl ⟨_, _, hon, ⟨hsound, hd.contexts, hd.objects.add v object⟩, ?_⟩
    rw [Registry.get?_add, if_pos rfl]
  · refine Or.inr ⟨.capacityExceeded d₀.objects.table, d, ?_, ⟨_, rfl⟩, fun hfree => ?_⟩
    · rw [on_addObject, hins]
      rfl
    · have hfree := hfree.2
      rw [List.length_map] at hfull
      omega

lemma yields_addObject {object : GraphicsObject} (hobject : object.Sound) (hroom : os.length < m) :
    Yields (Hosts chosen d₀ cs os) (addObject object) (fun o => Hosts chosen d₀ cs (o :: os))
      (d₀.Crowded n m) :=
  (yields_addObject_found hobject hroom).post fun _ _ hd => hd.1

/-- A memory context is as large as the screen, and its surface is made if the heap has room for
that. -/
lemma yields_openMemoryContext (heap : Heap) (hh : h ∈ cs) (hroom : cs.length < n) :
    Yields (Hosts chosen d₀ cs os) (openMemoryContext heap h)
      (fun g d => Hosts chosen d₀ (g :: cs) os d ∧ heap.grants chosen.area = true)
      (fun e => d₀.Crowded n m e ∨ Starved heap chosen.area e) := by
  intro d hd
  obtain ⟨dc, hdc⟩ := hd.exists_context hh
  obtain ⟨hw, hh⟩ := hd.sound.target hdc
  have hcreate := Pixmap.create_of_pos heap hd.valid.width.1 hd.valid.height.1
  by_cases hheap : heap.grants chosen.area = true
  · obtain ⟨p, hmade⟩ : ∃ p, Pixmap.create heap chosen.width chosen.height = .ok p :=
      ⟨_, hcreate.trans (if_pos hheap)⟩
    have hsurface := DeviceContext.sound_onSurface (Pixmap.hasSize_create hmade)
    have hon : (openMemoryContext heap h).on d = (addContext (.onSurface p)).on d := by
      refine on_bind_ok (x := p) ?_ _
      rw [on_ask, referenceSize_of_live hdc]
      simp only [bind, Except.bind, hw, hh, hmade]
    rcases yields_addContext hsurface hroom d hd with ⟨g, d', hrun, hleft⟩ | ⟨e, d', hrun, hfull⟩
    · exact Or.inl ⟨g, d', hon.trans hrun, hleft, hheap⟩
    · exact Or.inr ⟨e, d', hon.trans hrun, Or.inl hfull⟩
  · have hrefused : Pixmap.create heap chosen.width chosen.height
        = .error (.outOfMemory chosen.area) := hcreate.trans (if_neg hheap)
    have hon : (openMemoryContext heap h).on d = (.error (.outOfMemory chosen.area), d) := by
      refine on_bind_error ?_ _
      rw [on_ask, referenceSize_of_live hdc]
      simp only [bind, Except.bind, hw, hh, hrefused]
    exact Or.inr ⟨_, d, hon, Or.inr ⟨rfl, Bool.eq_false_iff.mpr hheap⟩⟩

/-! ## Guests are used -/

lemma yields_exchange (hh : h ∈ cs) (get : DeviceContext → α)
    {set : DeviceContext → DeviceContext} (hsurface : ∀ dc, (set dc).surface = dc.surface)
    (hpainting : ∀ dc, (set dc).painting = dc.painting) :
    Yields (Hosts chosen d₀ cs os) (exchange h get set) (fun _ => Hosts chosen d₀ cs os) E := by
  intro d hd
  obtain ⟨dc, hdc⟩ := hd.exists_context hh
  have hon : (exchange h get set).on d = (.ok (get dc), d.mapContext h set) := by
    rw [on_exchange, context_eq_ok_iff.mpr hdc]
  have hsound := (keeps_exchange h get hsurface hpainting).of_on hon hd.sound
  exact Or.inl ⟨_, _, hon, hd.mapContext hh hsound⟩

lemma yields_selectObject (hh : h ∈ cs) (ho : o ∈ os) :
    Yields (Hosts chosen d₀ cs os) (selectObject h o) (fun _ => Hosts chosen d₀ cs os) E := by
  intro d hd
  obtain ⟨dc, hdc⟩ := hd.exists_context hh
  obtain ⟨object, hobject⟩ := hd.exists_object ho
  have hon : (selectObject h o).on d = (.ok (dc.selection.get object.kind),
      d.mapContext h fun dc => { dc with selection := dc.selection.set object.kind o }) := by
    rw [on_selectObject, context_eq_ok_iff.mpr hdc, object_eq_ok_iff.mpr hobject]
  have hsound := (keeps_selectObject h o).of_on hon hd.sound
  exact Or.inl ⟨_, _, hon, hd.mapContext hh hsound⟩

/-- What is drawn through a guest lands on the screen or on the surface of the guest. -/
lemma yields_perform {P : Display → Prop} (g : Drawing) (hh : h ∈ cs)
    (hP : ∀ d, P d → Hosts chosen d₀ cs os d ∧ g.Provided d) :
    Yields P (g.perform h) (fun _ => Hosts chosen d₀ cs os) E := by
  intro d hd
  obtain ⟨hd, hprovided⟩ := hP d hd
  obtain ⟨dc, hdc⟩ := hd.exists_context hh
  obtain ⟨f, hf⟩ := Drawing.exists_stroke hdc hprovided
  have hon : (g.perform h).on d = (.ok (), d.drawn h f g.settle) := by
    rw [Drawing.on_perform, hf]
  have hsound := (keeps_perform g h).of_on hon hd.sound
  refine Or.inl ⟨_, _, hon, hsound, ?_, ?_⟩
  · rw [drawn_eq hdc]
    exact hd.contexts.modify (List.mem_map_of_mem hh) _
  · rw [objects_drawn]
    exact hd.objects

lemma yields_perform_of_provided (g : Drawing) (hh : h ∈ cs) (hg : ∀ d, g.Provided d) :
    Yields (Hosts chosen d₀ cs os) (g.perform h) (fun _ => Hosts chosen d₀ cs os) E :=
  yields_perform g hh fun d hd => ⟨hd, hg d⟩

lemma yields_fillRect {b : Brush} (hh : h ∈ cs) (r : Rect) :
    Yields (fun d => Hosts chosen d₀ cs os d ∧ d.objects.get? o.code = some (.brush b))
      (fillRect h r o) (fun _ => Hosts chosen d₀ cs os) E :=
  yields_perform (.fillRect r o) hh fun _ hd => ⟨hd.1, b, hd.2⟩

/-- One guest may be copied to another one. -/
lemma yields_stretchTransfer {g : ContextHandle} (hh : h ∈ cs) (hg : g ∈ cs) (box srcBox : Box)
    (op : RasterOp) :
    Yields (Hosts chosen d₀ cs os) (stretchTransfer h box g srcBox op)
      (fun _ => Hosts chosen d₀ cs os) E :=
  yields_perform (.stretchTransfer box g srcBox op) hh fun _ hd =>
    ⟨hd, Or.inr (hd.exists_context hg)⟩

/-! ## Guests go -/

lemma yields_closeContext (w : UInt16) :
    Yields (Hosts chosen d₀ (h :: cs) os) (closeContext w h) (fun _ => Hosts chosen d₀ cs os)
      E := by
  intro d hd
  obtain ⟨dc, hdc⟩ := hd.exists_context List.mem_cons_self
  have hon : (closeContext w h).on d
      = (.ok (), { d with contexts := (d.contexts.remove h.code).2 }) := by
    rw [on_closeContext, Registry.release_of_live hdc]
    rfl
  have hsound := (keeps_closeContext w h).of_on hon hd.sound
  exact Or.inl ⟨_, _, hon, hsound, hd.contexts.remove, hd.objects⟩

lemma yields_deleteObject :
    Yields (Hosts chosen d₀ cs (o :: os)) (deleteObject o) (fun _ => Hosts chosen d₀ cs os) E := by
  intro d hd
  obtain ⟨object, hobject⟩ := hd.exists_object List.mem_cons_self
  have hon : (deleteObject o).on d
      = (.ok (), { d with objects := (d.objects.remove o.code).2 }) := by
    rw [on_deleteObject, Registry.release_of_live hobject]
    rfl
  have hsound := (keeps_deleteObject o).of_on hon hd.sound
  exact Or.inl ⟨_, _, hon, hsound, hd.contexts, hd.objects.remove⟩

/-! ## When the guests have gone -/

/-- The contexts and objects of two displays are the same, with their handles, their registers,
their surfaces and their pixels, and so are the settings and the size of the screen.  What may
differ are the pixels of the screen and, for either table, the handle to try next. -/
structure Restored (d₀ d : Display) : Prop where
  settings : d.settings = d₀.settings
  size : d.screen.SameSize d₀.screen
  contexts : d₀.contexts.SameEntries d.contexts
  objects : d₀.objects.SameEntries d.objects

lemma Hosts.restored (hd₀ : d₀.Sound chosen) (hd : Hosts chosen d₀ [] [] d) : d₀.Restored d where
  settings := hd.sound.settings.trans hd₀.settings.symm
  size := by
    obtain ⟨hw, hh⟩ := hd.sound.screen
    obtain ⟨hw₀, hh₀⟩ := hd₀.screen
    exact ⟨Int.ofNat_inj.mp (hw.trans hw₀.symm), Int.ofNat_inj.mp (hh.trans hh₀.symm)⟩
  contexts := hd.contexts.sameEntries
  objects := hd.objects.sameEntries

end Display

end Paintbox
