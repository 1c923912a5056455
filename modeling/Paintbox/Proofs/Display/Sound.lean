import Paintbox.Proofs.Display.Stroke
import Paintbox.Proofs.FaceName
import Paintbox.Proofs.Pixmap.Cells
import Paintbox.Proofs.Registry.Entries

/-!
# What is true of every display

A display of given settings keeps its promises whatever is done to it: the screen has the size that
was chosen, and so has every private surface, because a memory context gets the size of another
context's picture and all of those have that size already.  Nothing that is done afterwards changes
the size of a picture or gives a painting context a surface.

* `Pixmap.create_of_pos` — whether a picture with positive sides is made.
* `DeviceContext.Sound`, `GraphicsObject.Sound` — what is true of each entry.
* `Display.Sound` — **what is true of a display of the chosen settings**.
* `Display.Sound.surface`, `Display.Sound.sides_le` — so whatever a handle draws on has the chosen
  size, and that is no larger than a screen can be.
* `DisplayAction.Keeps` — an action keeps a property of displays; closed under sequencing.
* `Display.keeps_addContext`, `Display.keeps_perform`, … — **every action keeps displays sound**.
-/

namespace Paintbox

/-! ## Sizes -/

/-- The number of pixels of a screen. -/
def Settings.area (s : Settings) : ℕ := s.width.toNat * s.height.toNat

namespace Pixmap

variable {width height : ℤ}

/-- With positive sides it is the heap that decides. -/
lemma create_of_pos (heap : Heap) (hw : 0 < width) (hh : 0 < height) :
    Pixmap.create heap width height
      = if heap.grants (width.toNat * height.toNat) then
          .ok (.blank width.toNat height.toNat (by omega) (by omega))
        else .error (.outOfMemory (width.toNat * height.toNat)) :=
  dif_pos ⟨hw, hh⟩

end Pixmap

/-! ## Sound entries -/

/-- A private surface has the size of the screen, and a painting context has none. -/
structure DeviceContext.Sound (chosen : Settings) (dc : DeviceContext) : Prop where
  surface : ∀ p, dc.surface = some p → p.HasSize chosen.width chosen.height
  painting : dc.painting = true → dc.surface = none

/-- The face name of a font fits into its room, and the sides of a bitmap are positive numbers that
device coordinates reach. -/
def GraphicsObject.Sound : GraphicsObject → Prop
  | .pen _ => True
  | .brush _ => True
  | .font f => f.faceName.utf8ByteSize ≤ FaceName.limit
  | .bitmap b => (1 ≤ b.pixels.width ∧ b.pixels.width ≤ Settings.maxSide) ∧
      1 ≤ b.pixels.height ∧ b.pixels.height ≤ Settings.maxSide

variable {chosen : Settings}

lemma DeviceContext.sound_fresh (chosen : Settings) (w : UInt16) : (fresh w).Sound chosen where
  surface := fun _ hp => nomatch hp
  painting := fun _ => rfl

lemma DeviceContext.sound_onSurface {p : Pixmap} (hp : p.HasSize chosen.width chosen.height) :
    (onSurface p).Sound chosen where
  surface := by
    rintro q ⟨⟩
    exact hp
  painting := fun hpaint => nomatch hpaint

/-- Registers other than the mark of a paint session do not matter. -/
lemma DeviceContext.Sound.of_eq {dc dc' : DeviceContext} (hdc : dc.Sound chosen)
    (hsurface : dc'.surface = dc.surface) (hpainting : dc'.painting = dc.painting) :
    dc'.Sound chosen where
  surface := by
    rw [hsurface]
    exact hdc.surface
  painting := by
    rw [hsurface, hpainting]
    exact hdc.painting

lemma DeviceContext.Sound.mapSurface {dc : DeviceContext} (hdc : dc.Sound chosen)
    {f : Pixmap → Pixmap} (hf : ∀ p, (f p).SameSize p) :
    Sound chosen { dc with surface := dc.surface.map f } where
  surface := by
    intro q hq
    obtain ⟨p, hp, rfl⟩ := Option.map_eq_some_iff.mp hq
    exact (hf p).hasSize (hdc.surface p hp)
  painting := by
    intro hpaint
    exact Option.map_eq_none_iff.mpr (hdc.painting hpaint)

/-- A bitmap of an asked-for size is sound, since 16 bits were asked with. -/
lemma GraphicsObject.sound_bitmap (width height : Int16) {planes bpp : UInt8} {p : Pixmap}
    (hp : p.HasSize width.toInt height.toInt) :
    (GraphicsObject.bitmap ⟨planes, bpp, p⟩).Sound := by
  obtain ⟨hw, hh⟩ := hp
  have hwide := width.toInt_lt
  have htall := height.toInt_lt
  have hwp := p.width_pos
  have hhp := p.height_pos
  show (1 ≤ p.width ∧ p.width ≤ 32767) ∧ 1 ≤ p.height ∧ p.height ≤ 32767
  omega

lemma GraphicsObject.Sound.mapPixels {object : GraphicsObject} (hobject : object.Sound)
    {f : Pixmap → Pixmap} (hf : ∀ p, (f p).SameSize p) : (object.mapPixels f).Sound := by
  cases object with
  | bitmap b =>
      have hsize := hf b.pixels
      simpa only [GraphicsObject.mapPixels, GraphicsObject.Sound, hsize.1, hsize.2] using hobject
  | _ => exact hobject

/-! ## Sound displays -/

namespace Display

/-- What is true of a display of the chosen settings. -/
structure Sound (chosen : Settings) (d : Display) : Prop where
  valid : chosen.check = .ok ()
  settings : d.settings = chosen
  screen : d.screen.HasSize chosen.width chosen.height
  contexts : d.contexts.Every (DeviceContext.Sound chosen)
  objects : d.objects.Every GraphicsObject.Sound
  maxContexts : d.contexts.capacity = chosen.maxContexts
  maxObjects : d.objects.capacity = chosen.maxObjects

/-- A new display is sound. -/
lemma sound_of_open {heap : Heap} {d : Display} (hopen : Display.open heap chosen = .ok d) :
    d.Sound chosen := by
  unfold Display.open at hopen
  split at hopen
  · cases hopen
  · rename_i hcheck
    split at hopen
    · cases hopen
    · rename_i screen hscreen
      cases hopen
      exact {
        valid := hcheck
        settings := rfl
        screen := Pixmap.hasSize_create hscreen
        contexts := Registry.every_empty _ _ _
        objects := Registry.every_empty _ _ _
        maxContexts := Registry.capacity_empty _ _
        maxObjects := Registry.capacity_empty _ _ }

/-- A new display has no contexts and no objects. -/
lemma empty_of_open {heap : Heap} {d : Display} (hopen : Display.open heap chosen = .ok d) :
    d.contexts = .empty .contexts chosen.maxContexts ∧
      d.objects = .empty .objects chosen.maxObjects := by
  unfold Display.open at hopen
  split at hopen
  · cases hopen
  · split at hopen
    · cases hopen
    · cases hopen
      exact ⟨rfl, rfl⟩

variable {d : Display} {h : ContextHandle} {dc : DeviceContext}

lemma Sound.area (hd : d.Sound chosen) : d.screen.width * d.screen.height = chosen.area := by
  obtain ⟨hw, hh⟩ := hd.screen
  rw [Settings.area, ← hw, ← hh, Int.toNat_natCast, Int.toNat_natCast]

/-- Whatever a context draws on has the chosen size. -/
lemma Sound.target (hd : d.Sound chosen) (hdc : d.contexts.get? h.code = some dc) :
    (d.target dc).HasSize chosen.width chosen.height := by
  cases hmem : dc.isMemory with
  | false =>
      rw [target_screen hmem]
      exact hd.screen
  | true => exact (hd.contexts _ _ hdc).surface _ (surface_eq_target hmem)

/-- A picture of the chosen size is no larger than a screen can be. -/
lemma Sound.sides_le (hd : d.Sound chosen) {p : Pixmap}
    (hp : p.HasSize chosen.width chosen.height) :
    p.width ≤ Settings.maxSide ∧ p.height ≤ Settings.maxSide := by
  have hvalid := (Settings.check_eq_ok_iff chosen).mp hd.valid
  exact ⟨Int.ofNat_le.mp (hp.1.trans_le hvalid.width.2),
    Int.ofNat_le.mp (hp.2.trans_le hvalid.height.2)⟩

lemma Sound.surface (hd : d.Sound chosen) {p : Pixmap} (hp : d.surface h = .ok p) :
    p.HasSize chosen.width chosen.height := by
  obtain ⟨dc, hdc, rfl⟩ := Drawing.of_map_eq_ok hp
  exact hd.target (context_eq_ok_iff.mp hdc)

lemma Sound.referenceSize (hd : d.Sound chosen) {size : ℕ × ℕ}
    (hsize : d.referenceSize h = .ok size) :
    (size.1 : ℤ) = chosen.width ∧ (size.2 : ℤ) = chosen.height := by
  rw [Display.referenceSize] at hsize
  split_ifs at hsize with hnull
  · cases hsize
    exact hd.screen
  · obtain ⟨p, hp, rfl⟩ := Drawing.of_map_eq_ok hsize
    exact hd.surface hp

lemma Sound.withContexts (hd : d.Sound chosen) {contexts : Registry DeviceContext}
    (hevery : contexts.Every (DeviceContext.Sound chosen))
    (hcap : contexts.capacity = d.contexts.capacity) :
    Sound chosen { d with contexts := contexts } :=
  { hd with contexts := hevery, maxContexts := hcap.trans hd.maxContexts }

lemma Sound.withObjects (hd : d.Sound chosen) {objects : Registry GraphicsObject}
    (hevery : objects.Every GraphicsObject.Sound)
    (hcap : objects.capacity = d.objects.capacity) :
    Sound chosen { d with objects := objects } :=
  { hd with objects := hevery, maxObjects := hcap.trans hd.maxObjects }

lemma Sound.mapContext (hd : d.Sound chosen) {k : DeviceContext → DeviceContext}
    (hk : ∀ dc, d.contexts.get? h.code = some dc → (k dc).Sound chosen) :
    (d.mapContext h k).Sound chosen :=
  hd.withContexts (hd.contexts.modify hk) (Registry.capacity_modify _ _ _)

lemma Sound.mapObject (hd : d.Sound chosen) (o : ObjectHandle) {k : GraphicsObject → GraphicsObject}
    (hk : ∀ object, object.Sound → (k object).Sound) : (d.mapObject o k).Sound chosen :=
  hd.withObjects (hd.objects.modify fun _ hfound => hk _ (hd.objects _ _ hfound))
    (Registry.capacity_modify _ _ _)

/-- Painting changes pixels, not sizes. -/
lemma Sound.paint (hd : d.Sound chosen) (h : ContextHandle) {f : Pixmap → Pixmap}
    (hf : ∀ p, (f p).SameSize p) : (d.paint h f).Sound chosen := by
  cases hdc : d.contexts.get? h.code with
  | none =>
      rw [paint_dead hdc]
      exact hd
  | some dc =>
      cases hmem : dc.isMemory with
      | false =>
          rw [paint_screen hdc hmem]
          exact { hd with screen := (hf d.screen).hasSize hd.screen }
      | true =>
          rw [paint_memory hdc hmem]
          exact hd.mapContext fun dc hfound => (hd.contexts _ _ hfound).mapSurface hf

lemma Sound.drawn (hd : d.Sound chosen) (h : ContextHandle) {f : Pixmap → Pixmap}
    (hf : ∀ p, (f p).SameSize p) {k : DeviceContext → DeviceContext}
    (hk : ∀ c, ∃ position, k c = { c with position }) : (d.drawn h f k).Sound chosen := by
  have hpaint := hd.paint h hf
  refine hpaint.mapContext fun dc hfound => ?_
  obtain ⟨position, hpos⟩ := hk dc
  exact (hpaint.contexts _ _ hfound).of_eq (by rw [hpos]) (by rw [hpos])

end Display

/-! ## Actions -/

namespace DisplayAction

variable {α β : Type}

/-- An action keeps a property of displays, whether it answers or fails. -/
def Keeps (I : Display → Prop) (a : DisplayAction α) : Prop := ∀ d, I d → I (a.on d).2

variable {I : Display → Prop}

/-- The display that an action leaves has what the action keeps. -/
lemma Keeps.of_on {a : DisplayAction α} (ha : Keeps I a) {d d' : Display} {x : Except Error α}
    (hon : a.on d = (x, d')) (hd : I d) : I d' := by
  have hd' := ha d hd
  rwa [hon] at hd'

lemma Keeps.pure (x : α) : Keeps I (Pure.pure x) := fun _ hd => hd

lemma Keeps.ask (question : Display → Except Error α) : Keeps I (ask question) := fun _ hd => hd

lemma Keeps.bind {a : DisplayAction α} {f : α → DisplayAction β} (ha : Keeps I a)
    (hf : ∀ x, Keeps I (f x)) : Keeps I (a >>= f) := by
  intro d hd
  rw [on_bind]
  rcases hrun : a.on d with ⟨_ | x, d'⟩
  · exact ha.of_on hrun hd
  · exact hf x d' (ha.of_on hrun hd)

/-- What follows a question may rely on its answer. -/
lemma Keeps.ask_bind {question : Display → Except Error α} {f : α → DisplayAction β}
    (hf : ∀ d x, I d → question d = .ok x → I ((f x).on d).2) :
    Keeps I (DisplayAction.ask question >>= f) := by
  intro d hd
  rw [on_bind, on_ask]
  cases hq : question d with
  | error e => exact hd
  | ok x => exact hf d x hd hq

end DisplayAction

namespace Display

open DisplayAction

variable {α : Type}

lemma keeps_addContext {dc : DeviceContext} (hdc : dc.Sound chosen) :
    Keeps (Sound chosen) (addContext dc) := by
  intro d hd
  rw [on_addContext]
  exact hd.withContexts (hd.contexts.insert hdc) (Registry.capacity_insert _ _)

lemma keeps_openContext (w : UInt16) : Keeps (Sound chosen) (openContext w) :=
  keeps_addContext (DeviceContext.sound_fresh chosen w)

lemma keeps_closeContext (w : UInt16) (h : ContextHandle) :
    Keeps (Sound chosen) (closeContext w h) := by
  intro d hd
  rw [on_closeContext]
  exact hd.withContexts (hd.contexts.release h.code) (Registry.capacity_release _ _)

/-- A memory context is as large as another context's picture, and so as the screen. -/
lemma keeps_openMemoryContext (heap : Heap) (reference : ContextHandle) :
    Keeps (Sound chosen) (openMemoryContext heap reference) := by
  refine Keeps.ask_bind fun d surface hd hsurface => ?_
  refine keeps_addContext (DeviceContext.sound_onSurface ?_) d hd
  cases hsize : d.referenceSize reference with
  | error e =>
      rw [hsize] at hsurface
      cases hsurface
  | ok size =>
      rw [hsize] at hsurface
      obtain ⟨hw, hh⟩ := hd.referenceSize hsize
      rw [← hw, ← hh]
      exact Pixmap.hasSize_create hsurface

lemma keeps_exchange (h : ContextHandle) (get : DeviceContext → α)
    {set : DeviceContext → DeviceContext} (hsurface : ∀ dc, (set dc).surface = dc.surface)
    (hpainting : ∀ dc, (set dc).painting = dc.painting) :
    Keeps (Sound chosen) (exchange h get set) := by
  intro d hd
  rw [on_exchange]
  cases d.context h with
  | error e => exact hd
  | ok dc =>
      exact hd.mapContext fun dc hfound =>
        (hd.contexts _ _ hfound).of_eq (hsurface dc) (hpainting dc)

lemma keeps_setTextColor (h : ContextHandle) (c : Color) :
    Keeps (Sound chosen) (setTextColor h c) :=
  keeps_exchange h _ (fun _ => rfl) (fun _ => rfl)

lemma keeps_setBackgroundColor (h : ContextHandle) (c : Color) :
    Keeps (Sound chosen) (setBackgroundColor h c) :=
  keeps_exchange h _ (fun _ => rfl) (fun _ => rfl)

lemma keeps_setBackgroundMode (h : ContextHandle) (m : BackgroundMode) :
    Keeps (Sound chosen) (setBackgroundMode h m) :=
  keeps_exchange h _ (fun _ => rfl) (fun _ => rfl)

lemma keeps_moveTo (h : ContextHandle) (p : Point) : Keeps (Sound chosen) (moveTo h p) :=
  keeps_exchange h _ (fun _ => rfl) (fun _ => rfl)

lemma keeps_selectObject (h : ContextHandle) (o : ObjectHandle) :
    Keeps (Sound chosen) (selectObject h o) :=
  .bind (.ask _) fun _ => .bind (.ask _) fun _ => keeps_exchange h _ (fun _ => rfl) (fun _ => rfl)

/-- The context that is marked as painting is a new one, and has no surface. -/
lemma keeps_beginPaint (w : UInt16) : Keeps (Sound chosen) (beginPaint w) := by
  intro d hd
  rw [beginPaint, on_bind]
  rcases hopen : (openContext w).on d with ⟨_ | h, d'⟩
  · exact (keeps_openContext w).of_on hopen hd
  · have hopened := (keeps_openContext w).of_on hopen hd
    have hfound : d'.contexts.get? h.code = some (.fresh w) := get?_of_addContext hopen
    simp only [on_bind, on_exchange, context_eq_ok_iff.mpr hfound]
    refine Sound.mapContext hopened fun dc hdc => ?_
    rw [hfound] at hdc
    cases hdc
    exact ⟨fun _ hp => (nomatch hp), fun _ => rfl⟩

lemma keeps_addObject {object : GraphicsObject} (hobject : object.Sound) :
    Keeps (Sound chosen) (addObject object) := by
  intro d hd
  rw [on_addObject]
  exact hd.withObjects (hd.objects.insert hobject) (Registry.capacity_insert _ _)

lemma keeps_createPen (style : PenStyle) (width : Int16) (color : Color) :
    Keeps (Sound chosen) (createPen style width color) :=
  keeps_addObject trivial

lemma keeps_createBrush (style : BrushStyle) (color : Color) :
    Keeps (Sound chosen) (createBrush style color) :=
  keeps_addObject trivial

lemma keeps_createFont (height width weight : Int16) (name : String) :
    Keeps (Sound chosen) (createFont height width weight name) :=
  keeps_addObject (FaceName.utf8ByteSize_truncate name)

lemma keeps_createBitmap (heap : Heap) (width height : Int16) (planes bpp : UInt8)
    (initial : Option ByteArray) :
    Keeps (Sound chosen) (createBitmap heap width height planes bpp initial) := by
  refine Keeps.ask_bind fun d pixels hd hpixels => ?_
  refine keeps_addObject (GraphicsObject.sound_bitmap width height ?_) d hd
  cases initial with
  | none => exact Pixmap.hasSize_create hpixels
  | some bytes => exact Pixmap.hasSize_createFrom hpixels

lemma keeps_deleteObject (o : ObjectHandle) : Keeps (Sound chosen) (deleteObject o) := by
  intro d hd
  rw [on_deleteObject]
  exact hd.withObjects (hd.objects.release o.code) (Registry.capacity_release _ _)

lemma keeps_setBitmapBits (o : ObjectHandle) (bytes : ByteArray) :
    Keeps (Sound chosen) (setBitmapBits o bytes) := by
  refine Keeps.bind (.ask _) fun count => Keeps.bind (fun d hd => ?_) fun _ => .pure count
  exact hd.mapObject o fun object hobject =>
    hobject.mapPixels fun p => Pixmap.sameSize_load p bytes

lemma keeps_perform (g : Drawing) (h : ContextHandle) : Keeps (Sound chosen) (g.perform h) := by
  intro d hd
  rw [Drawing.on_perform]
  cases hstroke : g.stroke d h with
  | error e => exact hd
  | ok f => exact hd.drawn h (Drawing.sameSize_stroke hstroke) g.settle_eq

lemma keeps_writePixel (h : ContextHandle) (pt : Point) (c : Color) :
    Keeps (Sound chosen) (writePixel h pt c) := by
  intro d hd
  rw [on_writePixel]
  cases d.context h with
  | error e => exact hd
  | ok dc => exact hd.paint h fun p => Pixmap.sameSize_put p _ _ _

end Display

end Paintbox
