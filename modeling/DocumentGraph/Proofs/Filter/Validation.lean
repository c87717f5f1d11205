import DocumentGraph.Proofs.Filter.Meaning
set_option autoImplicit false

namespace DocumentGraph.Filter

variable {name : String}

def validated (filter : Filter) : Except StoreError Unit :=
  match filter.fields.find? fun n => !Field.isPath n with
  | some n => .error (.invalidFieldName n)
  | none => .ok ()

theorem validated_of_isPath {f : Filter} (h : ∀ n ∈ f.fields, Field.isPath n = true) :
    f.validated = .ok () := by
  have hnone : f.fields.find? (fun n => !Field.isPath n) = none := by simpa using h
  rw [validated, hnone]

theorem validField_of_find? {n : String} (h : [name].find? (fun n => !Field.isPath n) = some n) :
    validField name = .error (.invalidFieldName n) := by
  have hn : n = name := by
    have := List.mem_of_find?_eq_some h
    simpa using this
  have hp : Field.isPath name = false := by
    have := List.find?_some h
    simpa [hn] using this
  rw [validField, Field.ofName?_eq_none_iff.mpr hp, hn]

mutual

theorem compile_of_find? (filter : Filter) {n : String}
    (h : filter.fields.find? (fun n => !Field.isPath n) = some n) :
    filter.compile = .error (.invalidFieldName n) := by
  cases filter with
  | and children => rw [compile, compileAll_of_find? children h]; rfl
  | or children => rw [compile, compileAll_of_find? children h]; rfl
  | _ => rw [compile, validField_of_find? h]; rfl

theorem compileAll_of_find? (filters : List Filter) {n : String}
    (h : (fieldsAll filters).find? (fun n => !Field.isPath n) = some n) :
    compileAll filters = .error (.invalidFieldName n) := by
  cases filters with
  | nil => cases h
  | cons filter rest =>
    rw [fieldsAll, List.find?_append] at h
    cases hfirst : filter.fields.find? fun n => !Field.isPath n with
    | some m =>
      rw [hfirst] at h
      cases h
      rw [compileAll, compile_of_find? filter hfirst]
      rfl
    | none =>
      rw [hfirst] at h
      have hvalid : ∀ m ∈ filter.fields, Field.isPath m = true := by simpa using hfirst
      obtain ⟨p, hp, -⟩ := compile_decides filter hvalid
      rw [compileAll, hp, compileAll_of_find? rest h]
      rfl

end

theorem compile_of_invalid {filter : Filter} {e : StoreError} (h : filter.validated = .error e) :
    filter.compile = .error e := by
  unfold validated at h
  split at h
  · next n hn =>
    cases h
    exact compile_of_find? filter hn
  · cases h

theorem compile_of_valid {filter : Filter} (h : filter.validated = .ok ()) :
    ∃ p, filter.compile = .ok p ∧ ∀ doc, p.selects doc = filter.holds doc := by
  unfold validated at h
  split at h
  · cases h
  · next hn =>
    obtain ⟨p, hp, hd⟩ := compile_decides filter (by simpa using hn)
    refine ⟨p, hp, fun doc => ?_⟩
    obtain ⟨t, heval, ht⟩ := hd doc []
    rw [List.append_nil] at heval
    rw [Predicate.selects, Condition.selects, heval, ht]

end DocumentGraph.Filter
