import Paintbox.Proofs.Display.Stroke
import Paintbox.Proofs.Registry.Related

/-!
# Displays that differ in the registers of their contexts

Two displays with the same pictures and the same objects may still differ in what the registers of
their contexts hold.  If the registers differ only where no drawing looks, whatever is drawn on both
of them comes out the same.

* `Display.Tied` — the same screen, the same objects, the same handles, and contexts that are
  related by some relation.
* `DrawsAlike` — what such a relation needs for drawings not to see the difference.
* `Display.Tied.stroke`, `Display.Tied.drawn` — **a drawing does the same to both**.
* `Display.DrawsAs` — the widest relation of the kind: the same position, surface and inks.
-/

namespace Paintbox

open DisplayAction

namespace Display

/-- Two displays with the same pictures, objects and handles, and with contexts related by `E`. -/
structure Tied (E : DeviceContext → DeviceContext → Prop) (d d' : Display) : Prop where
  settings : d'.settings = d.settings
  screen : d'.screen = d.screen
  objects : d'.objects = d.objects
  contexts : d.contexts.Related E d'.contexts

end Display

/-- Among these objects, drawing through related contexts looks the same, and they stay related. -/
structure DrawsAlike (objects : Registry GraphicsObject)
    (E : DeviceContext → DeviceContext → Prop) : Prop where
  position : ∀ {dc dc'}, E dc dc' → dc'.position = dc.position
  surface : ∀ {dc dc'}, E dc dc' → dc'.surface = dc.surface
  inks : ∀ {d : Display} {dc dc'}, d.objects = objects → E dc dc' → d.inks dc' = d.inks dc
  mapSurface : ∀ {dc dc'} (f : Pixmap → Pixmap), E dc dc' →
    E { dc with surface := dc.surface.map f } { dc' with surface := dc'.surface.map f }
  move : ∀ {dc dc'} (b : Point), E dc dc' → E { dc with position := b } { dc' with position := b }

namespace Display

variable {E : DeviceContext → DeviceContext → Prop} {d d' : Display} {β : Type}

lemma drawn_dead {h : ContextHandle} (hdead : d.contexts.get? h.code = none)
    (f : Pixmap → Pixmap) (k : DeviceContext → DeviceContext) : d.drawn h f k = d := by
  have hsame : d.contexts.modify h.code k = d.contexts :=
    Registry.modify_eq_self fun a ha => nomatch hdead.symm.trans ha
  rw [drawn, paint_dead hdead, mapContext, hsame]

/-- A stroke and what comes after it do not part related contexts. -/
lemma touched_settle {objects : Registry GraphicsObject} (hE : DrawsAlike objects E)
    (f : Pixmap → Pixmap) (g : Drawing) {dc dc' : DeviceContext} (hrel : E dc dc') :
    E (touched f g.settle dc) (touched f g.settle dc') := by
  have hpainted := hE.mapSurface f hrel
  cases g with
  | lineTo b => exact hE.move b hpainted
  | _ => exact hpainted

namespace Tied

variable (hd : d.Tied E d')

include hd

/-- Under every handle there are related contexts, or the same reason why there is none. -/
lemma context (g : ContextHandle) :
    (∃ dc dc', d.context g = .ok dc ∧ d'.context g = .ok dc' ∧ E dc dc') ∨
      ∃ e, d.context g = .error e ∧ d'.context g = .error e :=
  hd.contexts.resolve g.code

/-- What is the same of related contexts is found the same. -/
lemma map_context {f f' : DeviceContext → β} (hf : ∀ dc dc', E dc dc' → f' dc' = f dc)
    (g : ContextHandle) : (d'.context g).map f' = (d.context g).map f := by
  rcases hd.context g with ⟨dc, dc', hdc, hdc', hrel⟩ | ⟨e, he, he'⟩
  · rw [hdc, hdc']
    exact congrArg Except.ok (hf dc dc' hrel)
  · rw [he, he']
    rfl

variable (hE : DrawsAlike d.objects E)

include hE

lemma target {dc dc' : DeviceContext} (hrel : E dc dc') : d'.target dc' = d.target dc := by
  rw [Display.target, Display.target, hE.surface hrel, hd.screen]

lemma surface (g : ContextHandle) : d'.surface g = d.surface g :=
  hd.map_context (fun _ _ hrel => hd.target hE hrel) g

lemma source (g : ContextHandle) : d'.source g = d.source g := by
  rw [Display.source, Display.source, hd.surface hE]

lemma inks {dc dc' : DeviceContext} (hrel : E dc dc') : d'.inks dc' = d.inks dc := by
  rw [Drawing.inks_of_objects hd.objects, hE.inks rfl hrel]

/-- Both displays are drawn on by the same stroke. -/
lemma stroke (g : Drawing) (h : ContextHandle) : g.stroke d' h = g.stroke d h := by
  have hbrush := Drawing.brushInk_of_objects hd.objects
  have hsame : ∀ {f f' : DeviceContext → Pixmap → Pixmap},
      (∀ dc dc', E dc dc' → f' dc' = f dc) → (d'.context h).map f' = (d.context h).map f :=
    fun hf => hd.map_context hf h
  have htransfer : ∀ box src m op,
      d'.transferStroke h box src m op = d.transferStroke h box src m op := by
    intro box src m op
    rw [transferStroke, transferStroke, hd.source hE]
    rcases hd.context h with ⟨dc, dc', hdc, hdc', hrel⟩ | ⟨e, he, he'⟩
    · rw [hdc, hdc']
      simp only [bind, Except.bind, hd.inks hE hrel]
    · rw [he, he']
      rfl
  have hbrushed : ∀ (o : ObjectHandle) (f : UInt8 → Pixmap → Pixmap),
      (do let ink ← d'.brushInk o; (d'.context h).map fun _ => inked ink f)
        = (do let ink ← d.brushInk o; (d.context h).map fun _ => inked ink f) := by
    intro o f
    rw [hbrush]
    cases d.brushInk o with
    | error e => rfl
    | ok ink => exact hsame fun _ _ _ => rfl
  cases g with
  | dot pt color => exact hsame fun _ _ _ => rfl
  | line a b color => exact hsame fun _ _ _ => rfl
  | lineTo b => exact hsame fun _ _ hrel => by rw [hd.inks hE hrel, hE.position hrel]
  | rectangle r => exact hsame fun _ _ hrel => by rw [hd.inks hE hrel]
  | ellipse r => exact hsame fun _ _ hrel => by rw [hd.inks hE hrel]
  | path points closed =>
      rw [Drawing.stroke, Drawing.stroke]
      split_ifs
      · rfl
      · exact hsame fun _ _ hrel => by rw [hd.inks hE hrel]
  | text pt codes len => exact hsame fun _ _ hrel => by rw [hd.inks hE hrel]
  | fillRect r brush => exact hbrushed brush _
  | frameRect r brush => exact hbrushed brush _
  | invertRect r => exact hsame fun _ _ _ => rfl
  | bitTransfer box src sx sy op => exact htransfer box src _ op
  | stretchTransfer box src srcBox op => exact htransfer box src _ op
  | patternTransfer box op => exact hsame fun _ _ hrel => by rw [hd.inks hE hrel]

/-- The same stroke leaves them tied. -/
lemma drawn (h : ContextHandle) (f : Pixmap → Pixmap) (g : Drawing) :
    (d.drawn h f g.settle).Tied E (d'.drawn h f g.settle) := by
  have hget := hd.contexts.get? h.code
  cases hdc : d.contexts.get? h.code <;> cases hdc' : d'.contexts.get? h.code <;>
    rw [hdc, hdc'] at hget <;> cases hget
  case none.none =>
    rw [drawn_dead hdc, drawn_dead hdc']
    exact hd
  case some.some dc dc' hrel =>
    have hmem : dc'.isMemory = dc.isMemory := by
      rw [DeviceContext.isMemory, DeviceContext.isMemory, hE.surface hrel]
    rw [drawn_eq hdc, drawn_eq hdc', hmem]
    exact {
      settings := hd.settings
      screen := by simp only [hd.screen]
      objects := hd.objects
      contexts := hd.contexts.modify (fun _ _ hrel => touched_settle hE f g hrel) h.code }

end Tied

/-! ## The widest relation -/

/-- What is drawn through the two contexts looks the same on this display. -/
structure DrawsAs (d : Display) (dc dc' : DeviceContext) : Prop where
  position : dc'.position = dc.position
  surface : dc'.surface = dc.surface
  inks : d.inks dc' = d.inks dc

lemma DrawsAs.refl (d : Display) (dc : DeviceContext) : d.DrawsAs dc dc := ⟨rfl, rfl, rfl⟩

lemma drawsAlike_drawsAs (d : Display) : DrawsAlike d.objects d.DrawsAs where
  position := fun hrel => hrel.position
  surface := fun hrel => hrel.surface
  inks := by
    intro d' dc dc' hobjects hrel
    rw [Drawing.inks_of_objects hobjects, hrel.inks]
  mapSurface := by
    intro dc dc' f hrel
    exact ⟨hrel.position, by rw [hrel.surface], hrel.inks⟩
  move := fun b hrel => ⟨rfl, hrel.surface, hrel.inks⟩

end Display

end Paintbox
