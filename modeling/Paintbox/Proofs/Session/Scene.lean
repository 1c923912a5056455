import Paintbox.Proofs.Display.Guests
import Paintbox.Proofs.Session.Sound

/-!
# The demo scene

The demo scene opens two contexts and makes four objects, all of which are there at a time but for
one: the memory context with the tiles is closed before the last brush is made.  Beyond room for
them, and for the surface with the tiles, it needs nothing.  Every context that it draws through is
its own, and so is every object that it draws with, so that whatever the size of the screen and
wherever the figures land, no step after the last of the guests has come can fail.

* `Scene.yields_checkerboard`, `Scene.yields_render` — the steps of the scene one after the other.
* **`Session.renderScene_of_run`** — after any run the scene is drawn if there is room for its
  contexts and objects, and then leaves nothing behind but the picture; otherwise a full table is
  reported.
-/

namespace Paintbox

open DisplayAction Display

variable {chosen : Settings} {d₀ : Display} {cs : List ContextHandle} {os : List ObjectHandle}
  {n m : ℕ} {heap : Heap}

namespace Scene

lemma yields_checkerboard {h : ContextHandle} (hh : h ∈ cs) (hroom : cs.length < n) :
    Yields (Hosts chosen d₀ cs os) (checkerboard heap h)
      (fun g d => Hosts chosen d₀ (g :: cs) os d ∧ heap.grants chosen.area = true)
      (fun e => d₀.Crowded n m e ∨ Starved heap chosen.area e) :=
  .bind (yields_openMemoryContext heap hh hroom) fun _ =>
  .assume (fun _ hd => hd.2) fun hheap =>
  .pre
    (.bind (yields_perform_of_provided (.patternTransfer _ _) (.head _) fun _ => trivial) fun _ =>
    .bind (yields_perform_of_provided (.patternTransfer _ _) (.head _) fun _ => trivial) fun _ =>
    .bind (yields_perform_of_provided (.patternTransfer _ _) (.head _) fun _ => trivial) fun _ =>
      .pure fun _ hd => ⟨hd, hheap⟩)
    fun _ hd => hd.1

/-- The guests of the scene come and go.  Only their coming can fail, and if all have come then
there was room for them. -/
lemma yields_render (heap : Heap) :
    Yields (Hosts chosen d₀ [] []) (render heap)
      (fun _ d => Hosts chosen d₀ [] [] d ∧ d₀.HasRoom 2 4 ∧ heap.grants chosen.area = true)
      (fun e => d₀.Crowded 2 4 e ∨ Starved heap chosen.area e) :=
  .bind .ask fun _ =>
  .bind (.mono (yields_addContext (DeviceContext.sound_fresh chosen 1) (by simp))
    fun _ => Or.inl) fun dc =>
  .bind (.mono (yields_addObject_found trivial (by simp)) fun _ => Or.inl) fun ground =>
  .bind (yields_fillRect (.head _) _) fun _ =>
  .bind (.mono (yields_addObject trivial (by simp)) fun _ => Or.inl) fun pen =>
  .bind (.mono (yields_addObject trivial (by simp)) fun _ => Or.inl) fun brush =>
  .bind (yields_selectObject (.head _) (.tail _ (.head _))) fun _ =>
  .bind (yields_selectObject (.head _) (.head _)) fun _ =>
  .bind (yields_perform_of_provided (.rectangle _) (.head _) fun _ => trivial) fun _ =>
  .bind (yields_perform_of_provided (.ellipse _) (.head _) fun _ => trivial) fun _ =>
  .bind (yields_perform_of_provided (.path [_, _, _] true) (.head _) fun _ => Nat.le_succ 2) fun _ =>
  .bind (yields_exchange (.head _) _ (fun _ => rfl) (fun _ => rfl)) fun _ =>
  .bind (yields_perform_of_provided (.text _ caption none) (.head _) fun _ => trivial) fun _ =>
  .bind (yields_checkerboard (.head _) (by simp)) fun tiles =>
  .assume (fun _ hd => And.intro hd.1.hasRoom.1 hd.2) fun ⟨hcontexts, hheap⟩ =>
  .bind ((yields_stretchTransfer (.tail _ (.head _)) (.head _) _ _ .srcCopy).pre
    fun _ hd => hd.1) fun _ =>
  .bind (yields_closeContext 0) fun _ =>
  .bind (yields_perform_of_provided (.invertRect _) (.head _) fun _ => trivial) fun _ =>
  .bind (.mono (yields_addObject trivial (by simp)) fun _ => Or.inl) fun hollow =>
  .assume (fun _ hd => hd.hasRoom.2) fun hobjects =>
  .bind (yields_selectObject (.head _) (.head _)) fun _ =>
  .bind (yields_perform_of_provided (.rectangle _) (.head _) fun _ => trivial) fun _ =>
  .bind (yields_closeContext 1) fun _ =>
  -- the objects go in the order in which they came
  .pre
    (.bind yields_deleteObject fun _ =>
    .bind yields_deleteObject fun _ =>
    .bind yields_deleteObject fun _ =>
      yields_deleteObject.post fun _ _ hd => ⟨hd, ⟨hcontexts, hobjects⟩, hheap⟩)
    fun _ hd => hd.permObjects (List.reverse_perm [hollow, brush, pen, ground])

end Scene

/-- **The demo scene succeeds exactly when there is room, and cleans up.**  On a display that any
run has led to, whatever its size, its entries and the handles that come next, the scene is drawn if
two contexts and four objects more fit in and the heap has room for a surface.  Then the contexts
and objects are those from before, under the same handles, with all their registers, surfaces and
pixels: nothing has changed but the pixels of the screen and the handles to try next.  If they do
not fit in, the answer is that a table is full.  Without room in the heap the scene fails as well,
for want of memory or because a table is full. -/
theorem Session.renderScene_of_run {rs : List Request} {d : Display}
    (hrun : (Session.closed.run rs).2 = ⟨some d⟩) (heap : Heap) :
    (d.HasRoom 2 4 → heap.grants (d.screen.width * d.screen.height) = true →
      ∃ d', (Request.renderScene heap).perform ⟨some d⟩ = (.ok .done, ⟨some d'⟩) ∧ d.Restored d') ∧
    (¬ d.HasRoom 2 4 → heap.grants (d.screen.width * d.screen.height) = true →
      ∃ table d', (Request.renderScene heap).perform ⟨some d⟩
        = (.error (.capacityExceeded table), ⟨some d'⟩)) ∧
    (heap.grants (d.screen.width * d.screen.height) = false →
      ∃ e d', (Request.renderScene heap).perform ⟨some d⟩ = (.error e, ⟨some d'⟩) ∧
        (e = .outOfMemory (d.screen.width * d.screen.height) ∨
          (∃ table, e = .capacityExceeded table) ∧ ¬ d.HasRoom 2 4)) := by
  obtain ⟨chosen, -, hd⟩ := sound_run (sound_closed none) rs d (congrArg Session.display hrun)
  have hanswer : (Request.renderScene heap).perform ⟨some d⟩
      = (((Scene.render heap).on d).1.map fun _ => .done, ⟨some ((Scene.render heap).on d).2⟩) :=
    rfl
  rw [hanswer, hd.area]
  rcases Scene.yields_render heap d (.refl hd) with ⟨_, d', hon, hleft, hroom, hheap⟩ |
    ⟨_, d', hon, ⟨⟨table, rfl⟩, hcrowded⟩ | ⟨rfl, hheap⟩⟩
  · rw [hon, hheap]
    exact ⟨fun _ _ => ⟨d', rfl, hleft.restored hd⟩, fun hnot => absurd hroom hnot, nofun⟩
  · rw [hon]
    exact ⟨fun hroom => absurd hroom hcrowded, fun _ _ => ⟨table, d', rfl⟩,
      fun _ => ⟨_, d', rfl, Or.inr ⟨⟨table, rfl⟩, hcrowded⟩⟩⟩
  · rw [hon, hheap]
    exact ⟨nofun, nofun, fun _ => ⟨_, d', rfl, Or.inl rfl⟩⟩

/-- A memory context and a bitmap are live.  On the first display two contexts and four objects
more just fit in, and when the scene has been drawn the two entries are still there, and no others.
On the second display the fourth object does not fit in. -/
theorem Session.renderScene_of_run_crowded :
    (∃ d d', (Session.closed.run [.start .ample ⟨2, 1, 3, 5⟩, .openMemoryContext .ample .null,
        .createBitmap .ample 1 1 1 8 none]).2 = ⟨some d⟩ ∧
      (Request.renderScene .ample).perform ⟨some d⟩ = (.ok .done, ⟨some d'⟩) ∧ d.Restored d' ∧
      d'.contexts.handles = [1] ∧ d'.objects.handles = [1] ∧
      ∃ b, d'.objects.get? 1 = some (.bitmap b)) ∧
    ∃ d d' table, (Session.closed.run [.start .ample ⟨2, 1, 3, 4⟩, .openMemoryContext .ample .null,
        .createBitmap .ample 1 1 1 8 none]).2 = ⟨some d⟩ ∧
      (Request.renderScene .ample).perform ⟨some d⟩
        = (.error (.capacityExceeded table), ⟨some d'⟩) := by
  constructor
  · obtain ⟨d, hrun, hroom, hcontexts, hobjects, b, hbitmap⟩ :
        ∃ d, (Session.closed.run [.start .ample ⟨2, 1, 3, 5⟩, .openMemoryContext .ample .null,
            .createBitmap .ample 1 1 1 8 none]).2 = ⟨some d⟩ ∧ d.HasRoom 2 4 ∧
          d.contexts.handles = [1] ∧ d.objects.handles = [1] ∧
          ∃ b, d.objects.get? 1 = some (.bitmap b) :=
      ⟨_, rfl, by decide +kernel, rfl, rfl, _, rfl⟩
    obtain ⟨d', hdone, hrestored⟩ := (renderScene_of_run hrun .ample).1 hroom rfl
    refine ⟨d, d', hrun, hdone, hrestored, ?_, ?_, b, ?_⟩
    · rw [hrestored.contexts.handles, hcontexts]
    · rw [hrestored.objects.handles, hobjects]
    · rw [hrestored.objects.get?, hbitmap]
  · obtain ⟨d, hrun, hroom⟩ : ∃ d, (Session.closed.run [.start .ample ⟨2, 1, 3, 4⟩,
        .openMemoryContext .ample .null, .createBitmap .ample 1 1 1 8 none]).2 = ⟨some d⟩ ∧
          ¬ d.HasRoom 2 4 :=
      ⟨_, rfl, by decide +kernel⟩
    obtain ⟨table, d', hfull⟩ := (renderScene_of_run hrun .ample).2.1 hroom rfl
    exact ⟨d, d', table, hrun, hfull⟩

end Paintbox
