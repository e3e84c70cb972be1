import Mathlib.Data.List.Perm.Basic

/-! Computations that can fail. A computation in two steps succeeds when both steps do, and a
traversal of a list when every step does; the order of the list is no matter then. -/

namespace LogSieve

variable {ε α β : Type}

theorem bind_eq_ok {first : Except ε α} {next : α → Except ε β} {result : β} :
    first >>= next = .ok result ↔ ∃ value, first = .ok value ∧ next value = .ok result := by
  cases first with
  | error error => exact ⟨nofun, nofun⟩
  | ok value => exact ⟨fun succeeded => ⟨value, rfl, succeeded⟩, fun ⟨_, same, later⟩ => by
      cases same
      exact later⟩

theorem bind_of_ok {first : Except ε α} {next : α → Except ε β} {value : α}
    (computed : first = .ok value) : first >>= next = next value := by
  rw [computed]
  rfl

theorem map_eq_ok {first : Except ε α} {make : α → β} {result : β} :
    first.map make = .ok result ↔ ∃ value, first = .ok value ∧ make value = result := by
  cases first with
  | error error => exact ⟨nofun, nofun⟩
  | ok value => simp [Except.map]

theorem toOption_eq_some {computed : Except ε α} {result : α} :
    computed.toOption = some result ↔ computed = .ok result := by
  cases computed <;> simp [Except.toOption]

theorem toOption_map (computed : Except ε α) (make : α → β) :
    (computed.map make).toOption = computed.toOption.map make := by
  cases computed <;> rfl

def Gives (right : α → Prop) (computed : Except ε α) : Prop :=
  ∀ result, computed = .ok result → right result

theorem gives_error {right : α → Prop} (error : ε) : Gives right (.error error) := nofun

theorem gives_ok {right : α → Prop} {result : α} (holds : right result) :
    Gives right (.ok result : Except ε α) := by
  rintro _ ⟨⟩
  exact holds

theorem Gives.mono {right more : α → Prop} {computed : Except ε α} (gives : Gives right computed)
    (within : ∀ result, right result → more result) : Gives more computed :=
  fun result same => within result (gives result same)

theorem Gives.bind {right : β → Prop} {first : Except ε α} {next : α → Except ε β}
    (later : ∀ value, first = .ok value → Gives right (next value)) :
    Gives right (first >>= next) := by
  intro result same
  obtain ⟨value, computed, rest⟩ := bind_eq_ok.mp same
  exact later value computed result rest

theorem Gives.map {right : β → Prop} {first : Except ε α} {make : α → β}
    (each : ∀ value, right (make value)) : Gives right (first.map make) := by
  intro result same
  obtain ⟨value, -, rfl⟩ := map_eq_ok.mp same
  exact each value

theorem Gives.ite {right : α → Prop} {condition : Prop} [Decidable condition]
    {first second : Except ε α} (yes : condition → Gives right first)
    (no : ¬ condition → Gives right second) :
    Gives right (if condition then first else second) := by
  split
  · next holds => exact yes holds
  · next fails => exact no fails

theorem Gives.unless {right : α → Prop} {refuses : Prop} [Decidable refuses] {error : ε}
    {next : PUnit → Except ε α} (later : Gives right (next ⟨⟩)) :
    Gives right (if refuses then throw error >>= next else next ⟨⟩) := by
  split
  · exact gives_error error
  · exact later

theorem mapM_eq_ok {step : α → Except ε β} {inputs : List α} {outputs : List β} :
    inputs.mapM step = .ok outputs ↔
      List.Forall₂ (fun input output => step input = .ok output) inputs outputs := by
  induction inputs generalizing outputs with
  | nil =>
    rw [List.mapM_nil, List.forall₂_nil_left_iff]
    exact ⟨fun same => (Except.ok.inj same).symm, fun same => congrArg Except.ok same.symm⟩
  | cons input rest ih =>
    rw [List.mapM_cons, bind_eq_ok, List.forall₂_cons_left_iff]
    constructor
    · rintro ⟨output, first, succeeded⟩
      obtain ⟨others, later, same⟩ := bind_eq_ok.mp succeeded
      exact ⟨output, others, first, ih.mp later, (Except.ok.inj same).symm⟩
    · rintro ⟨output, others, first, later, rfl⟩
      exact ⟨output, first, bind_eq_ok.mpr ⟨others, ih.mpr later, rfl⟩⟩

theorem exists_mapM_eq_ok {step : α → Except ε β} {inputs : List α}
    (each : ∀ input ∈ inputs, ∃ output, step input = .ok output) :
    ∃ outputs, inputs.mapM step = .ok outputs := by
  induction inputs with
  | nil => exact ⟨[], rfl⟩
  | cons input rest ih =>
    obtain ⟨output, first⟩ := each input List.mem_cons_self
    obtain ⟨others, later⟩ := ih fun other member => each other (List.mem_cons_of_mem _ member)
    exact ⟨output :: others, mapM_eq_ok.mpr (List.Forall₂.cons first (mapM_eq_ok.mp later))⟩

theorem exists_of_mapM_eq_ok {step : α → Except ε β} {inputs : List α} {outputs : List β}
    (succeeded : inputs.mapM step = .ok outputs) {input : α} (member : input ∈ inputs) :
    ∃ output ∈ outputs, step input = .ok output := by
  induction mapM_eq_ok.mp succeeded with
  | nil => cases member
  | @cons first output rest others reached later ih =>
    rcases List.mem_cons.mp member with rfl | further
    · exact ⟨output, List.mem_cons_self, reached⟩
    · obtain ⟨found, known, made⟩ := ih (mapM_eq_ok.mpr later) further
      exact ⟨found, List.mem_cons_of_mem _ known, made⟩

theorem mapM_perm {step : α → Except ε β} {inputs order : List α} {outputs : List β}
    (perm : order.Perm inputs) (succeeded : inputs.mapM step = .ok outputs) :
    ∃ arranged, order.mapM step = .ok arranged ∧ arranged.Perm outputs := by
  obtain ⟨arranged, each, permuted⟩ := List.perm_comp_forall₂ perm (mapM_eq_ok.mp succeeded)
  exact ⟨arranged, mapM_eq_ok.mpr each, permuted⟩

theorem mapM_toOption_map {γ : Type} (step : α → Except ε β) (make : β → γ) (inputs : List α) :
    (inputs.mapM fun input => (step input).toOption.map make) =
      (inputs.mapM step).toOption.map (List.map make) := by
  induction inputs with
  | nil => rfl
  | cons input rest ih =>
    rw [List.mapM_cons, List.mapM_cons, ih]
    cases step input with
    | error => rfl
    | ok output => cases rest.mapM step <;> rfl

end LogSieve
