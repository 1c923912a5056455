import Paintbox.Proofs.Display.Sound

/-!
# The objects of a display

An object comes in as it was asked for, and then nothing happens to it but its own deletion and, to
a bitmap, the loading of its pixels.

* `GraphicsObject.Holds`, `GraphicsObject.Holds.load` — the bytes of a bitmap, and what loading
  makes of them.
* `Display.exists_createBitmap_eq` — a bitmap of positive size is made like any other object.
* `Display.keepsObjects_addContext`, `Display.keepsObjects_perform`, … — **what has nothing to do
  with objects leaves all of them alone**.
* `Display.objects_setBitmapBits` — what loading does, whatever the handle denotes.
-/

namespace Paintbox

lemma ObjectHandle.code_inj {o o' : ObjectHandle} : o.code = o'.code ↔ o = o' := by
  cases o
  cases o'
  simp

/-! ## Bytes -/

namespace Pixmap

lemma getElem?_load (p : Pixmap) (src : ByteArray) (i : ℕ) :
    (p.load src).data.data[i]? = p.data.data[i]?.map fun old => src.data[i]?.getD old := by
  have hdata : (p.load src).data.data
      = src.data.extract 0 (p.transferable src.size)
        ++ p.data.data.extract (p.transferable src.size) p.data.data.size := by
    simp only [load, ByteArray.data_append, ByteArray.data_extract]
    rfl
  have hle : p.transferable src.size ≤ src.data.size := Nat.min_le_left _ _
  rw [hdata, getElem?_overlay _ _ _ hle]
  have hcount : p.transferable src.size = min src.data.size p.data.data.size := rfl
  cases hold : p.data.data[i]? with
  | none =>
      have hout : p.data.data.size ≤ i := Array.getElem?_eq_none_iff.mp hold
      rw [if_neg (by omega)]
      rfl
  | some old =>
      have hin : i < p.data.data.size := (Array.getElem?_eq_some_iff.mp hold).1
      rw [Option.map_some]
      split_ifs with hlt
      · rw [Array.getElem?_eq_getElem (by omega)]
        rfl
      · have hnone : src.data[i]? = none := Array.getElem?_eq_none (by omega)
        rw [hnone]
        rfl

lemma getElem?_blank {w h : ℕ} (hw : 0 < w) (hh : 0 < h) {i : ℕ} (hi : i < w * h) :
    (blank w h hw hh).data.data[i]? = some 0 := by
  show (bytesOf (w * h) fun _ => 0).data[i]? = some 0
  rw [data_bytesOf, Array.getElem?_map, Array.getElem?_range, if_pos hi]
  rfl

end Pixmap

namespace GraphicsObject

/-- The bytes of a bitmap, in row order. -/
def Holds (bytes : ℕ → UInt8) : GraphicsObject → Prop
  | bitmap b => ∀ i < b.pixels.width * b.pixels.height, b.pixels.data.data[i]? = some (bytes i)
  | _ => True

/-- Bytes that are loaded come in front of those that were there. -/
lemma Holds.load {object : GraphicsObject} {bytes : ℕ → UInt8} (hobject : object.Holds bytes)
    (src : ByteArray) :
    (object.mapPixels (·.load src)).Holds fun i => src.data[i]?.getD (bytes i) := by
  cases object with
  | bitmap b =>
      intro i hi
      have hold : b.pixels.data.data[i]? = some (bytes i) := hobject i hi
      show (b.pixels.load src).data.data[i]? = _
      rw [Pixmap.getElem?_load, hold, Option.map_some]
  | _ => exact trivial

/-- Pixels are no part of a description, only their number is. -/
lemma describe_load (object : GraphicsObject) (src : ByteArray) :
    (object.mapPixels (·.load src)).describe = object.describe := by
  cases object <;> rfl

end GraphicsObject

/-! ## Making objects -/

namespace Display

open DisplayAction

/-- A bitmap of positive size is made like any other object if the heap has room for its pixels.
They start with the bytes given and go on with zeros. -/
lemma exists_createBitmap_eq {heap : Heap} {width height : Int16} (hw : 0 < width.toInt)
    (hh : 0 < height.toInt)
    (hheap : heap.grants (width.toInt.toNat * height.toInt.toNat) = true) (planes bpp : UInt8)
    (initial : Option ByteArray) :
    ∃ pixels : Pixmap,
      createBitmap heap width height planes bpp initial
        = addObject (.bitmap ⟨planes, bpp, pixels⟩) ∧
      pixels.width = width.toInt.toNat ∧ pixels.height = height.toInt.toNat ∧
      ∀ i < pixels.width * pixels.height,
        pixels.data.data[i]? = some ((initial.bind (·.data[i]?)).getD 0) := by
  have hw' : 0 < width.toInt.toNat := by omega
  have hh' : 0 < height.toInt.toNat := by omega
  have hcreate : Pixmap.create heap width.toInt height.toInt
      = .ok (.blank width.toInt.toNat height.toInt.toNat hw' hh') :=
    (Pixmap.create_of_pos heap hw hh).trans (if_pos hheap)
  cases initial with
  | none =>
      refine ⟨.blank _ _ hw' hh', ?_, rfl, rfl, fun i hi => Pixmap.getElem?_blank hw' hh' hi⟩
      rw [createBitmap]
      simp only [hcreate]
      rfl
  | some bytes =>
      refine ⟨.load (.blank _ _ hw' hh') bytes, ?_, rfl, rfl, fun i hi => ?_⟩
      · rw [createBitmap]
        simp only [Pixmap.createFrom, hcreate]
        rfl
      · rw [Pixmap.getElem?_load, Pixmap.getElem?_blank hw' hh' hi]
        rfl

/-! ## What leaves objects alone -/

/-- The objects of a display are these. -/
def HasObjects (objects : Registry GraphicsObject) (d : Display) : Prop := d.objects = objects

variable {α : Type} (objects : Registry GraphicsObject)

lemma keepsObjects_addContext (dc : DeviceContext) :
    Keeps (HasObjects objects) (addContext dc) :=
  fun _ hd => hd

lemma keepsObjects_openMemoryContext (heap : Heap) (reference : ContextHandle) :
    Keeps (HasObjects objects) (openMemoryContext heap reference) :=
  .bind (.ask _) fun _ => keepsObjects_addContext objects _

lemma keepsObjects_closeContext (w : UInt16) (h : ContextHandle) :
    Keeps (HasObjects objects) (closeContext w h) :=
  fun _ hd => hd

lemma keepsObjects_exchange (h : ContextHandle) (get : DeviceContext → α)
    (set : DeviceContext → DeviceContext) : Keeps (HasObjects objects) (exchange h get set) :=
  .bind (.ask _) fun _ => .bind (fun _ hd => hd) fun _ => .pure _

lemma keepsObjects_selectObject (h : ContextHandle) (o : ObjectHandle) :
    Keeps (HasObjects objects) (selectObject h o) :=
  .bind (.ask _) fun _ => .bind (.ask _) fun _ => keepsObjects_exchange objects h _ _

lemma keepsObjects_beginPaint (w : UInt16) : Keeps (HasObjects objects) (beginPaint w) :=
  .bind (keepsObjects_addContext objects _) fun h =>
    .bind (keepsObjects_exchange objects h _ _) fun _ => .pure _

lemma keepsObjects_perform (g : Drawing) (h : ContextHandle) :
    Keeps (HasObjects objects) (g.perform h) := by
  intro d hd
  rw [Drawing.on_perform]
  cases g.stroke d h with
  | error e => exact hd
  | ok f => exact (objects_drawn d h f g.settle).trans hd

lemma keepsObjects_writePixel (h : ContextHandle) (pt : Point) (c : Color) :
    Keeps (HasObjects objects) (writePixel h pt c) := by
  intro d hd
  rw [on_writePixel]
  cases d.context h with
  | error e => exact hd
  | ok dc =>
      have hkept := objects_drawn d h (fun p => p.put pt.x.toInt pt.y.toInt c.index) id
      rw [drawn_id] at hkept
      exact hkept.trans hd

/-- Loading changes the bitmap under the handle, and nothing if there is none. -/
lemma objects_setBitmapBits (o : ObjectHandle) (bytes : ByteArray) (d : Display) :
    ((setBitmapBits o bytes).on d).2.objects
      = d.objects.modify o.code (·.mapPixels (·.load bytes)) := by
  rw [setBitmapBits, on_bind, on_ask]
  cases hbitmap : d.bitmap o with
  | ok b => rfl
  | error e =>
      show d.objects = _
      refine (Registry.modify_eq_self fun object hobject => ?_).symm
      rw [bitmap, object_eq_ok_iff.mpr hobject] at hbitmap
      cases object with
      | bitmap b => cases hbitmap
      | _ => rfl

end Display

end Paintbox
