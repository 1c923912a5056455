import Paintbox.Proofs.Display.Guests
import Paintbox.Proofs.Session.Failure
import Paintbox.Proofs.Session.Sound

/-!
# What a failed scene leaves behind

The demo scene closes its contexts and deletes its objects at its end.  A scene that runs into a
full table, or that finds no room for the surface with the tiles, never gets there: whatever had
come before stays, and nobody knows its handle any more.  Only the tiles are gone again, if they had
been copied.

* `DisplayAction.Ends` — what an action leaves if it answers, and what it leaves if it fails; closed
  under sequencing.
* `Scene.leftovers` — **how many contexts and objects a failed scene leaves behind**, told by the
  room that there was for them.
* `Scene.Abandoned` — the display after a failed scene: the one from before, with so many guests
  more on it.
* `Scene.ends_render` — the steps of the scene one after the other, each with what is left if it is
  the one that fails.
* **`Session.stranded_of_renderScene`** — after any run, a scene that fails leaves just that.
-/

namespace Paintbox

/-! ## What actions leave when they fail -/

namespace DisplayAction

variable {α β : Type} {P : Display → Prop} {Q : α → Display → Prop} {R : β → Display → Prop}
  {E : Error → Prop} {F : Error → Display → Prop}

/-- Begun on a display with `P`, an action answers and leaves what `Q` says, or it fails and leaves
what `F` says. -/
def Ends (P : Display → Prop) (a : DisplayAction α) (Q : α → Display → Prop)
    (F : Error → Display → Prop) : Prop :=
  ∀ d, P d → (∃ x d', a.on d = (.ok x, d') ∧ Q x d') ∨ ∃ e d', a.on d = (.error e, d') ∧ F e d'

namespace Ends

/-- An action that cannot fail leaves nothing behind in failing. -/
lemma of_yields {a : DisplayAction α} (ha : Yields P a Q fun _ => False) : Ends P a Q F :=
  fun d hd => (ha d hd).imp_right fun ⟨_, _, _, hnever⟩ => hnever.elim

/-- An atomic action that fails leaves what it began with. -/
lemma of_atomic {a : DisplayAction α} (ha : Yields P a Q E) (hatomic : Atomic a)
    (hF : ∀ e d, E e → P d → F e d) : Ends P a Q F := by
  intro d hd
  rcases ha d hd with hleft | ⟨e, d', hrun, hfail⟩
  · exact Or.inl hleft
  · obtain rfl := hatomic d d' e hrun
    exact Or.inr ⟨e, d', hrun, hF e d' hfail hd⟩

/-- A failure of the next action leaves behind what this one has left, too. -/
lemma bind {a : DisplayAction α} {f : α → DisplayAction β} (ha : Ends P a Q F)
    (hf : ∀ x, Ends (Q x) (f x) R F) : Ends P (a >>= f) R F := by
  intro d hd
  rcases ha d hd with ⟨x, d', hrun, hleft⟩ | ⟨e, d', hrun, hfail⟩
  · rw [on_bind_ok hrun]
    exact hf x d' hleft
  · exact Or.inr ⟨e, d', on_bind_error hrun f, hfail⟩

end Ends

end DisplayAction

/-! ## The scene -/

namespace Scene

open DisplayAction Display

variable {chosen : Settings} {d₀ d : Display} {cs : List ContextHandle} {os : List ObjectHandle}
  {e : Error} {heap : Heap}

/-- How many contexts and how many objects a scene leaves behind that fails on the display.  If no
context can be opened it leaves nothing.  Otherwise its own context stays, with those of the first
three objects that there was room for; the fourth object is the last thing that can be refused. -/
def leftovers (d : Display) : ℕ × ℕ :=
  if d.contexts.live < d.contexts.capacity then
    (1, min 3 (d.objects.capacity - d.objects.live))
  else
    (0, 0)

/-- A scene has failed on `d₀` for want of room, in a table or in the heap, and has left `d`. -/
def Abandoned (heap : Heap) (chosen : Settings) (d₀ : Display) (e : Error) (d : Display) : Prop :=
  ((∃ table, e = .capacityExceeded table) ∨ Starved heap chosen.area e) ∧
    ∃ cs os, Hosts chosen d₀ cs os d ∧ (cs.length, os.length) = leftovers d₀

/-- The own context of the scene is refused. -/
lemma abandoned_of_context (he : d₀.Crowded 1 0 e) (hd : Hosts chosen d₀ [] [] d) :
    Abandoned heap chosen d₀ e d := by
  refine ⟨Or.inl he.1, [], [], hd, ?_⟩
  have hcrowded := he.2
  have hroom := hd.hasRoom
  simp only [HasRoom, List.length_nil, leftovers] at *
  rw [if_neg (by omega)]

/-- One of the four objects is refused. -/
lemma abandoned_of_object {h : ContextHandle} (hfew : os.length ≤ 3)
    (he : d₀.Crowded 1 (os.length + 1) e) (hd : Hosts chosen d₀ [h] os d) :
    Abandoned heap chosen d₀ e d := by
  refine ⟨Or.inl he.1, [h], os, hd, ?_⟩
  have hcrowded := he.2
  have hroom := hd.hasRoom
  simp only [HasRoom, List.length_singleton, leftovers] at *
  rw [if_pos (by omega)]
  exact congrArg (Prod.mk 1) (by omega)

/-- The context of the tiles is refused, or its surface, with three objects there. -/
lemma abandoned_of_tiles {h : ContextHandle} (hthree : os.length = 3)
    (he : d₀.Crowded 2 3 e ∨ Starved heap chosen.area e) (hd : Hosts chosen d₀ [h] os d) :
    Abandoned heap chosen d₀ e d := by
  refine ⟨he.imp_left And.left, [h], os, hd, ?_⟩
  have hroom := hd.hasRoom
  simp only [HasRoom, List.length_singleton, leftovers, hthree] at *
  rw [if_pos (by omega)]
  exact congrArg (Prod.mk 1) (by omega)

/-- Nothing but the opening of the context can fail. -/
lemma ends_checkerboard {h : ContextHandle} (hthree : os.length = 3) :
    Ends (Hosts chosen d₀ [h] os) (checkerboard heap h) (fun g => Hosts chosen d₀ [g, h] os)
      (Abandoned heap chosen d₀) :=
  .bind (.of_atomic ((yields_openMemoryContext heap (.head _) Nat.one_lt_two).post
    fun _ _ hd => hd.1) (.openMemoryContext heap h) fun _ _ => abandoned_of_tiles hthree) fun _ =>
  .of_yields (
    .bind (yields_perform_of_provided (.patternTransfer _ _) (.head _) fun _ => trivial) fun _ =>
    .bind (yields_perform_of_provided (.patternTransfer _ _) (.head _) fun _ => trivial) fun _ =>
    .bind (yields_perform_of_provided (.patternTransfer _ _) (.head _) fun _ => trivial) fun _ =>
      .pure fun _ hd => hd)

/-- A new object that is found under its handle, or a failed scene. -/
lemma ends_addObject_found {h : ContextHandle} {object : GraphicsObject} (hobject : object.Sound)
    (hfew : os.length ≤ 3) :
    Ends (Hosts chosen d₀ [h] os) (addObject object)
      (fun o d => Hosts chosen d₀ [h] (o :: os) d ∧ d.objects.get? o.code = some object)
      (Abandoned heap chosen d₀) :=
  .of_atomic (yields_addObject_found hobject (Nat.lt_succ_self _)) (.addObject object)
    fun _ _ => abandoned_of_object hfew

lemma ends_addObject {h : ContextHandle} {object : GraphicsObject} (hobject : object.Sound)
    (hfew : os.length ≤ 3) :
    Ends (Hosts chosen d₀ [h] os) (addObject object) (fun o => Hosts chosen d₀ [h] (o :: os))
      (Abandoned heap chosen d₀) :=
  .of_atomic (yields_addObject hobject (Nat.lt_succ_self _)) (.addObject object)
    fun _ _ => abandoned_of_object hfew

/-- The six guests come one after the other.  Each of them may be the one that is refused, and then
those that have come before stay. -/
lemma ends_render :
    Ends (Hosts chosen d₀ [] []) (render heap) (fun _ _ => True) (Abandoned heap chosen d₀) :=
  .bind (.of_yields .ask) fun _ =>
  .bind (.of_atomic (yields_addContext (DeviceContext.sound_fresh chosen 1) Nat.zero_lt_one)
    (.addContext _) fun _ _ => abandoned_of_context) fun dc =>
  .bind (ends_addObject_found trivial (Nat.zero_le 3)) fun ground =>
  .bind (.of_yields (yields_fillRect (.head _) _)) fun _ =>
  .bind (ends_addObject trivial (by simp)) fun pen =>
  .bind (ends_addObject trivial (by simp)) fun brush =>
  .bind (.of_yields (yields_selectObject (.head _) (.tail _ (.head _)))) fun _ =>
  .bind (.of_yields (yields_selectObject (.head _) (.head _))) fun _ =>
  .bind (.of_yields (yields_perform_of_provided (.rectangle _) (.head _) fun _ => trivial))
    fun _ =>
  .bind (.of_yields (yields_perform_of_provided (.ellipse _) (.head _) fun _ => trivial)) fun _ =>
  .bind (.of_yields (yields_perform_of_provided (.path [_, _, _] true) (.head _)
    fun _ => Nat.le_succ 2)) fun _ =>
  .bind (.of_yields (yields_exchange (.head _) _ (fun _ => rfl) (fun _ => rfl))) fun _ =>
  .bind (.of_yields (yields_perform_of_provided (.text _ caption none) (.head _)
    fun _ => trivial)) fun _ =>
  .bind (ends_checkerboard rfl) fun tiles =>
  .bind (.of_yields (yields_stretchTransfer (.tail _ (.head _)) (.head _) _ _ .srcCopy)) fun _ =>
  .bind (.of_yields (yields_closeContext 0)) fun _ =>
  .bind (.of_yields (yields_perform_of_provided (.invertRect _) (.head _) fun _ => trivial))
    fun _ =>
  .bind (ends_addObject trivial (Nat.le_refl 3)) fun hollow =>
  -- from here on nothing can fail
  .of_yields (
    .bind (yields_selectObject (.head _) (.head _)) fun _ =>
    .bind (yields_perform_of_provided (.rectangle _) (.head _) fun _ => trivial) fun _ =>
    .bind (yields_closeContext 1) fun _ =>
    .pre
      (.bind yields_deleteObject fun _ =>
      .bind yields_deleteObject fun _ =>
      .bind yields_deleteObject fun _ =>
        yields_deleteObject.post fun _ _ _ => trivial)
      fun _ hd => hd.permObjects (List.reverse_perm [hollow, brush, pen, ground]))

end Scene

open Display

/-- **A scene that fails leaves behind what it had opened and made.**  On a display that any run has
led to, a demo scene that fails does so because a table is full, or because the heap has no room for
a surface.  Every entry from before is still there, as it was, but for the pixels of the screen.
With it stay the own context of the scene, if one could be opened, and then the first three of its
objects, as far as there was room for them, all under handles that had been dead.  So the live
handles are those from before only if not a single context could be opened. -/
theorem Session.stranded_of_renderScene {rs : List Request} {d : Display}
    (hrun : (Session.closed.run rs).2 = ⟨some d⟩) {heap : Heap} {e : Error} {s : Session}
    (hfail : (Request.renderScene heap).perform ⟨some d⟩ = (.error e, s)) :
    ((∃ table, e = .capacityExceeded table) ∨
        e = .outOfMemory (d.screen.width * d.screen.height) ∧
          heap.grants (d.screen.width * d.screen.height) = false) ∧
      ∃ (d' : Display) (cs : List ContextHandle) (os : List ObjectHandle), s = ⟨some d'⟩ ∧
        d.contexts.Hosts (cs.map ContextHandle.code) d'.contexts ∧
        d.objects.Hosts (os.map ObjectHandle.code) d'.objects ∧
        (cs.length, os.length) = Scene.leftovers d ∧
        (((∀ h, h ∈ d'.contexts.handles ↔ h ∈ d.contexts.handles) ∧
          ∀ o, o ∈ d'.objects.handles ↔ o ∈ d.objects.handles) ↔
            d.contexts.live = d.contexts.capacity) := by
  obtain ⟨chosen, -, hd⟩ := sound_run (sound_closed none) rs d (congrArg Session.display hrun)
  have hanswer : (Request.renderScene heap).perform ⟨some d⟩
      = (((Scene.render heap).on d).1.map fun _ => .done, ⟨some ((Scene.render heap).on d).2⟩) :=
    rfl
  rw [hanswer] at hfail
  rw [hd.area]
  rcases Scene.ends_render d (.refl hd) with ⟨_, d', hon, -⟩ | ⟨e', d', hon, hcause, habandoned⟩
  · rw [hon] at hfail
    cases hfail
  · rw [hon] at hfail
    cases hfail
    obtain ⟨cs, os, hleft, hcount⟩ := habandoned
    refine ⟨hcause, d', cs, os, rfl, hleft.contexts, hleft.objects, hcount, ?_⟩
    rw [hleft.contexts.mem_handles_iff_iff, hleft.objects.mem_handles_iff_iff, List.map_eq_nil_iff,
      List.map_eq_nil_iff, ← List.length_eq_zero_iff, ← List.length_eq_zero_iff]
    have hbound := Registry.live_le_capacity d.contexts
    rw [Scene.leftovers] at hcount
    split_ifs at hcount with hroom
    · simp only [Prod.mk.injEq] at hcount
      omega
    · simp only [Prod.mk.injEq] at hcount
      omega

/-- With one memory context and no object there, and room for one context and three objects more,
the tiles are refused when all three objects have come. -/
theorem Session.stranded_of_renderScene_crowded :
    ∃ (d : Display) (e : Error) (d' : Display) (cs : List ContextHandle) (os : List ObjectHandle),
      (Session.closed.run [.start .ample ⟨2, 1, 2, 3⟩, .openMemoryContext .ample .null]).2
        = ⟨some d⟩ ∧
      (Request.renderScene .ample).perform ⟨some d⟩ = (.error e, ⟨some d'⟩) ∧
      d.contexts.Hosts (cs.map ContextHandle.code) d'.contexts ∧
      d.objects.Hosts (os.map ObjectHandle.code) d'.objects ∧
      (cs.length, os.length) = (1, 3) ∧
      ¬ ((∀ h, h ∈ d'.contexts.handles ↔ h ∈ d.contexts.handles) ∧
        ∀ o, o ∈ d'.objects.handles ↔ o ∈ d.objects.handles) := by
  obtain ⟨d, hrun, hleft, hfree, hrefused⟩ :
      ∃ d, (Session.closed.run [.start .ample ⟨2, 1, 2, 3⟩, .openMemoryContext .ample .null]).2
          = ⟨some d⟩ ∧
        Scene.leftovers d = (1, 3) ∧ d.contexts.live ≠ d.contexts.capacity ∧
        ((Request.renderScene .ample).perform ⟨some d⟩).1.isOk = false :=
    ⟨_, rfl, by decide +kernel, by decide +kernel, by decide +kernel⟩
  rcases hfail : (Request.renderScene .ample).perform ⟨some d⟩ with ⟨e | reply, s⟩
  · obtain ⟨-, d', cs, os, rfl, hcs, hos, hcount, hsame⟩ := stranded_of_renderScene hrun hfail
    exact ⟨d, e, d', cs, os, hrun, hfail, hcs, hos, hcount.trans hleft,
      fun h => hfree (hsame.mp h)⟩
  · rw [hfail] at hrefused
    cases hrefused

/-- With room for one context and one object, both are there for good when the pen is refused,
although nothing was live before. -/
theorem Session.renderScene_leaves_context :
    ∃ d e d', (Session.closed.run [.start .ample ⟨2, 1, 1, 1⟩]).2 = ⟨some d⟩ ∧
      (Request.renderScene .ample).perform ⟨some d⟩ = (.error e, ⟨some d'⟩) ∧
      (d.contexts.handles = [] ∧ d'.contexts.handles = [1]) ∧
      d.objects.handles = [] ∧ d'.objects.handles = [1] :=
  ⟨_, _, _, rfl, rfl, ⟨rfl, rfl⟩, rfl, rfl⟩

end Paintbox
