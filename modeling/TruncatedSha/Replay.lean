/-!
# Running a machine on a list of inputs

A machine goes from a state and an input to the next state and an output. Main statement: two
machines whose single steps keep a relation and give one output do so over any list of inputs.
-/
namespace TruncatedSha

variable {σ τ ι ο : Type}

/-- The last state, and the outputs in order. -/
def replay (step : σ → ι → σ × ο) (s : σ) : List ι → σ × List ο
  | [] => (s, [])
  | input :: rest =>
    let (next, output) := step s input
    let (last, outputs) := replay step next rest
    (last, output :: outputs)

/-- Two outcomes of a step: related states, and one output. -/
def Matches (R : σ → τ → Prop) (left : σ × ο) (right : τ × ο) : Prop :=
  R left.1 right.1 ∧ left.2 = right.2

theorem replay_matches {f : σ → ι → σ × ο} {g : τ → ι → τ × ο} {R : σ → τ → Prop} {inputs : List ι}
    (preserved : ∀ input ∈ inputs, ∀ s t, R s t → Matches R (f s input) (g t input))
    {s : σ} {t : τ} (start : R s t) : Matches R (replay f s inputs) (replay g t inputs) := by
  induction inputs generalizing s t with
  | nil => exact ⟨start, rfl⟩
  | cons input rest ih =>
    obtain ⟨related, output⟩ := preserved input List.mem_cons_self s t start
    have later := ih (fun input member => preserved input (List.mem_cons_of_mem _ member)) related
    exact ⟨later.1, List.cons_eq_cons.mpr ⟨output, later.2⟩⟩

/-- One machine beside another that only keeps track: what holds of every output of a single step
holds of all of them. -/
theorem replay_keeps {f : σ → ι → σ × ο} {g : τ → ι → τ} {R : σ → τ → Prop} {P : ο → Prop}
    {inputs : List ι}
    (preserved : ∀ input ∈ inputs, ∀ s t, R s t → R (f s input).1 (g t input) ∧ P (f s input).2)
    {s : σ} {t : τ} (start : R s t) :
    R (replay f s inputs).1 (inputs.foldl g t) ∧ ∀ output ∈ (replay f s inputs).2, P output := by
  induction inputs generalizing s t with
  | nil => exact ⟨start, by simp [replay]⟩
  | cons input rest ih =>
    obtain ⟨related, output⟩ := preserved input List.mem_cons_self s t start
    have later := ih (fun input member => preserved input (List.mem_cons_of_mem _ member)) related
    exact ⟨later.1, List.forall_mem_cons.mpr ⟨output, later.2⟩⟩

end TruncatedSha
