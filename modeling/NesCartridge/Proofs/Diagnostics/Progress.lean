/-
  NesCartridge.Proofs.Diagnostics.Progress

  Reasoning about routines that may stop early. `Returns result post` says that a computation goes
  through and that what it gives satisfies `post`; it is composed along binds and, with an
  invariant on what has been done so far, along loops.
-/
import NesCartridge.Diagnostics

namespace NesCartridge

/-- A computation that succeeds, with a value as described. -/
def Returns {ε α : Type} (result : Except ε α) (post : α → Prop) : Prop :=
  ∃ value, result = .ok value ∧ post value

namespace Returns

variable {ε α β σ : Type} {result : Except ε α} {post : α → Prop}

theorem pure {value : α} (h : post value) : Returns (Pure.pure value : Except ε α) post :=
  ⟨value, rfl, h⟩

theorem mono {post' : α → Prop} (h : Returns result post)
    (hpost : ∀ value, post value → post' value) :
    Returns result post' := by
  obtain ⟨value, hvalue, hholds⟩ := h
  exact ⟨value, hvalue, hpost value hholds⟩

/-- What comes next may rely on what went before. -/
theorem bind {next : α → Except ε β} {last : β → Prop} (h : Returns result post)
    (hnext : ∀ value, post value → Returns (next value) last) :
    Returns (result >>= next) last := by
  obtain ⟨value, rfl, hholds⟩ := h
  exact hnext value hholds

/-- A loop keeps an invariant that speaks of the items done so far. -/
theorem foldlM {step : σ → α → Except ε σ} {items : List α} (Inv : List α → σ → Prop)
    (hstep : ∀ done item rest, items = done ++ item :: rest → ∀ state, Inv done state →
      Returns (step state item) (Inv (done ++ [item])))
    {state : σ} (h : Inv [] state) : Returns (items.foldlM step state) (Inv items) := by
  -- The induction is on what is left, so what has been done has to vary with it.
  have hloop : ∀ rest done state, items = done ++ rest → Inv done state →
      Returns (rest.foldlM step state) (Inv items) := by
    intro rest
    induction rest with
    | nil =>
      intro done state hitems hinv
      rw [List.append_nil] at hitems
      exact pure (hitems ▸ hinv)
    | cons item rest ih =>
      intro done state hitems hinv
      rw [List.foldlM_cons]
      apply bind (hstep done item rest hitems state hinv)
      intro next hnext
      exact ih (done ++ [item]) next (by rw [hitems, List.append_assoc]; rfl) hnext
  exact hloop items [] state rfl h

/-- A loop keeps what every one of its items keeps. -/
theorem foldlM_of_mem {step : σ → α → Except ε σ} {items : List α} {Inv : σ → Prop}
    (hstep : ∀ item ∈ items, ∀ state, Inv state → Returns (step state item) Inv)
    {state : σ} (h : Inv state) : Returns (items.foldlM step state) Inv := by
  refine foldlM (fun _ => Inv) (fun done item rest hitems state hinv => ?_) h
  exact hstep item (hitems ▸ List.mem_append_right done List.mem_cons_self) state hinv

/-- A routine that goes through ends where it went. -/
theorem finish {progress : Progress} {Q : Bench → Prop} (h : Returns progress Q) :
    Q (Bench.finish progress) := by
  obtain ⟨bench, rfl, hholds⟩ := h
  exact hholds

end Returns

end NesCartridge
