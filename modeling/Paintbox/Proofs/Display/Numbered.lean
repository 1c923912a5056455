import Paintbox.Proofs.Display.Sound
import Paintbox.Proofs.Registry.Reissue

/-!
# Handles as numbers

Contexts and objects are numbered independently of each other, each kind from 1 on.  An action that
opens a context gives it the next number, if it succeeds; every other action, and every one that
fails, leaves the counter of contexts where it is, and so it is with objects.

* `DisplayAction.Numbers` — what an action answers is the next number.
* `Display.ContextLap`, `Display.ObjectLap` — how many handles of either kind were given out.
* `Display.numbers_addContext`, `Display.numbers_openMemoryContext`, `Display.numbers_beginPaint`,
  `Display.numbers_addObject` — what gives a number.
* `Display.keepsLap_closeContext`, `Display.keepsLap_perform`, … — what gives none.
-/

namespace Paintbox

namespace DisplayAction

variable {α β : Type}

/-- If `k` numbers were given out, in the sense of `R`, then the action gives out the next one with
its answer, or it fails and gives out none. -/
def Numbers (R : ℕ → Display → Prop) (k : ℕ) (code : α → UInt16) (a : DisplayAction α) : Prop :=
  ∀ d, R k d → (∃ e d', a.on d = (.error e, d') ∧ R k d') ∨
    ∃ x d', a.on d = (.ok x, d') ∧ (code x).toNat = k + 1 ∧ R (k + 1) d'

/-- What is only asked before makes no difference. -/
lemma Numbers.ask_bind {R : ℕ → Display → Prop} {k : ℕ} {code : β → UInt16}
    {question : Display → Except Error α} {f : α → DisplayAction β}
    (hf : ∀ x, Numbers R k code (f x)) : Numbers R k code (DisplayAction.ask question >>= f) := by
  intro d hd
  rw [on_bind, on_ask]
  cases question d with
  | error e => exact Or.inl ⟨e, d, rfl, hd⟩
  | ok x => exact hf x d hd

end DisplayAction

namespace Display

open DisplayAction

variable {α : Type} {k : ℕ}

def ContextLap (k : ℕ) (d : Display) : Prop := d.contexts.FirstLap k

def ObjectLap (k : ℕ) (d : Display) : Prop := d.objects.FirstLap k

/-! ## What gives a number -/

lemma numbers_addContext (hk : k < 65535) (dc : DeviceContext) :
    Numbers ContextLap k ContextHandle.code (addContext dc) := by
  intro d hd
  rw [on_addContext]
  rcases Registry.FirstLap.insert hd hk dc with ⟨e, hins⟩ | ⟨h, contexts, hins, hnumber, hlap⟩
  · rw [hins]
    exact Or.inl ⟨e, _, rfl, hd⟩
  · rw [hins]
    exact Or.inr ⟨⟨h⟩, _, rfl, hnumber, hlap⟩

lemma numbers_openMemoryContext (hk : k < 65535) (heap : Heap) (reference : ContextHandle) :
    Numbers ContextLap k ContextHandle.code (openMemoryContext heap reference) :=
  .ask_bind fun _ => numbers_addContext hk _

/-- The context is marked as painting under the handle that it has just been given. -/
lemma numbers_beginPaint (hk : k < 65535) (w : UInt16) :
    Numbers ContextLap k (fun session : PaintSession => session.context.code) (beginPaint w) := by
  intro d hd
  rw [beginPaint]
  rcases numbers_addContext hk (.fresh w) d hd with
    ⟨e, d', hrun, hlap⟩ | ⟨h, d', hrun, hnumber, hlap⟩
  · exact Or.inl ⟨e, d', on_bind_error hrun _, hlap⟩
  · have hfound := context_eq_ok_iff.mpr (get?_of_addContext hrun)
    rw [openContext, on_bind_ok hrun, on_bind, on_exchange, hfound]
    exact Or.inr ⟨_, _, rfl, hnumber, hlap.step (.modify h.code _) rfl⟩

lemma numbers_addObject (hk : k < 65535) (object : GraphicsObject) :
    Numbers ObjectLap k ObjectHandle.code (addObject object) := by
  intro d hd
  rw [on_addObject]
  rcases Registry.FirstLap.insert hd hk object with ⟨e, hins⟩ | ⟨o, objects, hins, hnumber, hlap⟩
  · rw [hins]
    exact Or.inl ⟨e, _, rfl, hd⟩
  · rw [hins]
    exact Or.inr ⟨⟨o⟩, _, rfl, hnumber, hlap⟩

/-! ## What gives none -/

variable (k)

lemma keepsLap_closeContext (w : UInt16) (h : ContextHandle) :
    Keeps (ContextLap k) (closeContext w h) := by
  intro d hd
  rw [on_closeContext, Registry.snd_release]
  exact Registry.FirstLap.step hd (.remove h.code) rfl

lemma ContextLap.mapContext {d : Display} (hd : d.ContextLap k) (h : ContextHandle)
    (f : DeviceContext → DeviceContext) : (d.mapContext h f).ContextLap k :=
  Registry.FirstLap.step hd (.modify h.code f) rfl

lemma ContextLap.drawn {d : Display} (hd : d.ContextLap k) (h : ContextHandle)
    (f : Pixmap → Pixmap) (g : DeviceContext → DeviceContext) : (d.drawn h f g).ContextLap k := by
  rw [Display.drawn]
  refine ContextLap.mapContext k ?_ h g
  rcases paint_cases d h f with ⟨p, hp⟩ | ⟨f', hf'⟩
  · rw [hp]
    exact hd
  · rw [hf']
    exact hd.mapContext k h f'

lemma keepsLap_exchange (h : ContextHandle) (get : DeviceContext → α)
    (set : DeviceContext → DeviceContext) : Keeps (ContextLap k) (exchange h get set) := by
  intro d hd
  rw [on_exchange]
  cases d.context h with
  | error e => exact hd
  | ok dc => exact hd.mapContext k h set

lemma keepsLap_selectObject (h : ContextHandle) (o : ObjectHandle) :
    Keeps (ContextLap k) (selectObject h o) :=
  .bind (.ask _) fun _ => .bind (.ask _) fun _ => keepsLap_exchange k h _ _

lemma keepsLap_perform (g : Drawing) (h : ContextHandle) :
    Keeps (ContextLap k) (g.perform h) := by
  intro d hd
  rw [Drawing.on_perform]
  cases g.stroke d h with
  | error e => exact hd
  | ok f => exact hd.drawn k h f g.settle

lemma keepsLap_writePixel (h : ContextHandle) (pt : Point) (c : Color) :
    Keeps (ContextLap k) (writePixel h pt c) := by
  intro d hd
  rw [on_writePixel]
  cases d.context h with
  | error e => exact hd
  | ok dc =>
      have hlap := hd.drawn k h (fun p => p.put pt.x.toInt pt.y.toInt c.index) id
      rwa [drawn_id] at hlap

lemma keepsLap_createBitmap (heap : Heap) (width height : Int16) (planes bpp : UInt8)
    (initial : Option ByteArray) :
    Keeps (ContextLap k) (createBitmap heap width height planes bpp initial) :=
  .bind (.ask _) fun _ _ hd => hd

lemma keepsLap_setBitmapBits (o : ObjectHandle) (bytes : ByteArray) :
    Keeps (ContextLap k) (setBitmapBits o bytes) :=
  .bind (.ask _) fun count => .bind (fun _ hd => hd) fun _ => .pure count

end Display

end Paintbox
