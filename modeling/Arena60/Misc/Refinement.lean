import Arena60.Misc.Runs

/-!
# One run seen as a run of another system

Each item of a trace is seen as some items of another system. If every step of a run is seen as steps of
the other system, the run is seen as a run of it.
-/

namespace Arena60.Misc

universe u v w x

variable {σ : Type u} {ι : Type v} {τ : Type w} {κ : Type x}

/-- What is seen of a trace, newest first as the trace is. -/
def seenAs (view : ι → List κ) (trace : List ι) : List κ := trace.flatMap fun item => (view item).reverse

theorem seenAs_append (view : ι → List κ) (items trace : List ι) :
    seenAs view (items.reverse ++ trace) = (items.flatMap view).reverse ++ seenAs view trace := by
  rw [seenAs, List.flatMap_append, List.reverse_flatMap]
  rfl

/-- Items of which nothing is seen. -/
theorem seenAs_unseen {view : ι → List κ} {items : List ι} (unseen : ∀ item ∈ items, view item = [])
    (trace : List ι) : seenAs view (items.reverse ++ trace) = seenAs view trace := by
  rw [seenAs_append, List.flatMap_eq_nil_iff.mpr unseen]
  rfl

/-- Steps that are what is seen of some items go on with the run that is seen of the trace before. -/
theorem Steps.seen {init : τ → Prop} {step : τ → List κ → τ → Prop} {view : ι → List κ} {items trace : List ι}
    {state state' : τ} (steps : Steps step state (items.flatMap view) state')
    (earlier : Run init step (seenAs view trace) state) :
    Run init step (seenAs view (items.reverse ++ trace)) state' := by
  rw [seenAs_append]
  exact steps.run earlier

end Arena60.Misc
