import Mathlib.Data.List.Forall2
import RecordSearch.Trace

/-!
Results of computations that may fail: what a success in several steps is made of, and the results
of computations that also report events.
-/
namespace RecordSearch

variable {ε α β : Type}

@[simp]
theorem ok_bind (a : α) (f : α → Except ε β) : (Except.ok a >>= f) = f a := rfl

@[simp]
theorem error_bind (e : ε) (f : α → Except ε β) : (Except.error e >>= f) = .error e := rfl

@[simp]
theorem bind_ok (x : Except ε α) : (x >>= Except.ok) = x := by
  cases x <;> rfl

@[simp]
theorem pure_eq_ok (a : α) : (pure a : Except ε α) = .ok a := rfl

@[simp]
theorem throw_eq_error (e : ε) : (throw e : Except ε α) = .error e := rfl

theorem bind_eq_ok_iff {x : Except ε α} {f : α → Except ε β} {b : β} :
    (x >>= f) = .ok b ↔ ∃ a, x = .ok a ∧ f a = .ok b := by
  cases x <;> simp

theorem bind_eq_error_iff {x : Except ε α} {f : α → Except ε β} {e : ε} :
    (x >>= f) = .error e ↔ x = .error e ∨ ∃ a, x = .ok a ∧ f a = .error e := by
  cases x <;> simp

theorem map_eq_ok_iff {x : Except ε α} {f : α → β} {b : β} :
    (f <$> x) = .ok b ↔ ∃ a, x = .ok a ∧ f a = b := by
  cases x <;> simp

theorem map_eq_error_iff {x : Except ε α} {f : α → β} {e : ε} :
    x.map f = .error e ↔ x = .error e := by
  cases x <;> simp [Except.map]

theorem mapError_eq_ok_iff {ε' : Type} {x : Except ε α} {f : ε → ε'} {a : α} :
    x.mapError f = .ok a ↔ x = .ok a := by
  cases x <;> simp [Except.mapError]

theorem mapError_id (x : Except ε α) : x.mapError id = x := by
  cases x <;> rfl

/-- A traversal succeeds if each of its steps does, and gathers what they yield. -/
theorem mapM_eq_ok_iff {f : α → Except ε β} {inputs : List α} {outputs : List β} :
    inputs.mapM f = .ok outputs ↔ List.Forall₂ (fun input output => f input = .ok output) inputs
      outputs := by
  induction inputs generalizing outputs with
  | nil => simp [eq_comm]
  | cons input rest ih =>
    rw [List.mapM_cons, bind_eq_ok_iff, List.forall₂_cons_left_iff]
    constructor
    · rintro ⟨output, first, others⟩
      obtain ⟨outputs', gathered, whole⟩ := bind_eq_ok_iff.mp others
      exact ⟨output, outputs', first, ih.mp gathered, (Except.ok.inj whole).symm⟩
    · rintro ⟨output, outputs', first, gathered, rfl⟩
      exact ⟨output, first, bind_eq_ok_iff.mpr ⟨outputs', ih.mpr gathered, rfl⟩⟩

theorem exists_of_mem_left {R : α → β → Prop} {inputs : List α} {outputs : List β}
    (related : List.Forall₂ R inputs outputs) {input : α} (member : input ∈ inputs) :
    ∃ output ∈ outputs, R input output := by
  induction related with
  | nil => cases member
  | cons first _ ih =>
    rcases List.mem_cons.mp member with rfl | later
    · exact ⟨_, List.mem_cons_self, first⟩
    · obtain ⟨output, inside, relates⟩ := ih later
      exact ⟨output, List.mem_cons_of_mem _ inside, relates⟩

theorem exists_of_mem_right {R : α → β → Prop} {inputs : List α} {outputs : List β}
    (related : List.Forall₂ R inputs outputs) {output : β} (member : output ∈ outputs) :
    ∃ input ∈ inputs, R input output :=
  exists_of_mem_left (R := fun output input => R input output) related.flip member

theorem map_eq_of_forall₂ {γ : Type} {R : α → β → Prop} {inputs : List α} {outputs : List β}
    {f : α → γ} {g : β → γ} (related : List.Forall₂ R inputs outputs)
    (same : ∀ input ∈ inputs, ∀ output, R input output → f input = g output) :
    inputs.map f = outputs.map g := by
  induction related with
  | nil => rfl
  | cons first _ ih =>
    rw [List.map_cons, List.map_cons, same _ List.mem_cons_self _ first,
      ih fun input member => same input (List.mem_cons_of_mem _ member)]

theorem flatMap_eq_of_forall₂ {γ : Type} {R : α → β → Prop} {inputs : List α} {outputs : List β}
    {f : α → List γ} {g : β → List γ} (related : List.Forall₂ R inputs outputs)
    (same : ∀ input ∈ inputs, ∀ output, R input output → f input = g output) :
    inputs.flatMap f = outputs.flatMap g := by
  rw [List.flatMap_def, List.flatMap_def, map_eq_of_forall₂ related same]

/-- A traversal whose first step fails comes to its error. -/
theorem mapM_eq_error {f : α → Except ε β} {input : α} {rest : List α} {e : ε}
    (failed : f input = .error e) : (input :: rest).mapM f = .error e := by
  rw [List.mapM_cons, failed]
  rfl

/-- A traversal fails with the error of the first step that does. -/
theorem mapM_eq_error_iff {f : α → Except ε β} {inputs : List α} {e : ε} :
    inputs.mapM f = .error e ↔
      ∃ before input after, inputs = before ++ input :: after ∧
        (∀ earlier ∈ before, ∃ output, f earlier = .ok output) ∧ f input = .error e := by
  constructor
  · intro failed
    induction inputs with
    | nil => simp at failed
    | cons input rest ih =>
      cases first : f input with
      | error e' =>
        obtain rfl : e' = e := Except.error.inj ((mapM_eq_error first).symm.trans failed)
        exact ⟨[], input, rest, rfl, by simp, first⟩
      | ok output =>
        rw [List.mapM_cons, first] at failed
        -- The first step yields, so the error is one of the rest.
        cases others : rest.mapM f with
        | ok outputs => simp [others] at failed
        | error e' =>
          obtain rfl : e' = e := by simpa [others] using failed
          obtain ⟨before, input', after, rfl, earlier, here⟩ := ih others
          refine ⟨input :: before, input', after, rfl, ?_, here⟩
          exact List.forall_mem_cons.mpr ⟨⟨output, first⟩, earlier⟩
  · rintro ⟨before, input, after, rfl, earlier, here⟩
    induction before with
    | nil => exact mapM_eq_error here
    | cons first before ih =>
      obtain ⟨⟨output, yields⟩, earlier⟩ := List.forall_mem_cons.mp earlier
      rw [List.cons_append, List.mapM_cons, yields]
      rw [ok_bind, ih earlier, error_bind]

/-- Two traversals of the same inputs fail alike if each of their steps does. -/
theorem mapM_eq_error_congr {γ : Type} {f : α → Except ε β} {g : α → Except ε γ}
    (alike : ∀ input e, f input = .error e ↔ g input = .error e) {inputs : List α} {e : ε} :
    inputs.mapM f = .error e ↔ inputs.mapM g = .error e := by
  have yields : ∀ input, (∃ output, f input = .ok output) ↔ ∃ output, g input = .ok output := by
    intro input
    -- A step that does not fail yields something, so what is said of errors holds of yields.
    cases ran : f input with
    | error e =>
      have failed := (alike input e).mp ran
      simp [failed]
    | ok output =>
      cases ran' : g input with
      | error e => cases ran.symm.trans ((alike input e).mpr ran')
      | ok output' => simp
  simp only [mapM_eq_error_iff, alike, yields]

theorem exists_mapM_eq_ok {f : α → Except ε β} {inputs : List α}
    (each : ∀ input ∈ inputs, ∃ output, f input = .ok output) :
    ∃ outputs, inputs.mapM f = .ok outputs := by
  induction inputs with
  | nil => exact ⟨[], rfl⟩
  | cons input rest ih =>
    obtain ⟨output, first⟩ := each input List.mem_cons_self
    obtain ⟨outputs, others⟩ := ih fun later member => each later (List.mem_cons_of_mem _ member)
    refine ⟨output :: outputs, ?_⟩
    rw [mapM_eq_ok_iff] at others ⊢
    exact .cons first others

namespace Traced

@[simp]
theorem result_ofExcept (result : Except ε α) : (ofExcept result).result = result := rfl

@[simp]
theorem result_bind (x : Traced ε α) (f : α → Traced ε β) :
    (x >>= f).result = x.result >>= fun a => (f a).result := by
  change (Traced.bind x f).result = _
  cases returned : x.result with
  | error e => simp [Traced.bind, returned]
  | ok a => simp [Traced.bind, returned]

end Traced

end RecordSearch
