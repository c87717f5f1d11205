import DocumentGraph.Proofs.Filter.Scope
import DocumentGraph.Proofs.Filter.Written
set_option autoImplicit false

namespace DocumentGraph

namespace Field

/-- The first of the names that is no field path. -/
def IsFirstBad (names : List String) (name : String) : Prop :=
  ∃ before after, names = before ++ name :: after ∧ (∀ n ∈ before, IsDotted n) ∧ ¬ IsDotted name

theorem isDotted_inside {scope : String} (hscope : IsDotted scope) (name : String) :
    IsDotted (scope ++ "." ++ name) ↔ IsDotted name := by
  have hpath : isPath scope = true := isPath_iff_isDotted.mpr hscope
  rw [← isPath_iff_isDotted, ← isPath_iff_isDotted, isPath_inside ⟨scope, hpath⟩ name]

theorem find?_eq_some_iff_isFirstBad {names : List String} {name : String} :
    names.find? (fun n => !isPath n) = some name ↔ IsFirstBad names name := by
  have hbad (n : String) : (!isPath n) = true ↔ ¬ IsDotted n := by
    rw [← isPath_iff_isDotted, Bool.not_eq_true', Bool.not_eq_true]
  have hgood (n : String) : (!(!isPath n)) = true ↔ IsDotted n := by
    rw [Bool.not_not, isPath_iff_isDotted]
  simp only [List.find?_eq_some_iff_append, hbad, hgood, IsFirstBad]
  constructor
  · rintro ⟨hname, before, after, rfl, hbefore⟩
    exact ⟨before, after, rfl, hbefore, hname⟩
  · rintro ⟨before, after, rfl, hbefore, hname⟩
    exact ⟨hname, before, after, rfl, hbefore⟩

theorem isFirstBad_inside {scope : String} (hscope : IsDotted scope) {names : List String}
    {bad : String} : IsFirstBad (names.map fun n => scope ++ "." ++ n) bad ↔
      ∃ name, bad = scope ++ "." ++ name ∧ IsFirstBad names name := by
  constructor
  · rintro ⟨before, after, hsplit, hbefore, hbad⟩
    obtain ⟨first, last, rfl, rfl, hlast⟩ := List.map_eq_append_iff.mp hsplit
    obtain ⟨name, rest, rfl, rfl, rfl⟩ := List.map_eq_cons_iff.mp hlast
    refine ⟨name, rfl, first, rest, rfl, fun n hn => ?_, (isDotted_inside hscope name).not.mp hbad⟩
    exact (isDotted_inside hscope n).mp (hbefore _ (List.mem_map_of_mem hn))
  · rintro ⟨name, rfl, before, after, rfl, hbefore, hbad⟩
    refine ⟨_, _, List.map_append, ?_, (isDotted_inside hscope name).not.mpr hbad⟩
    exact List.forall_mem_map.mpr fun n hn => (isDotted_inside hscope n).mpr (hbefore n hn)

end Field

namespace Filter

theorem validated_eq_error_iff {filter : Filter} {e : StoreError} :
    filter.validated = .error e ↔
      ∃ name, Field.IsFirstBad filter.fields name ∧ e = .invalidFieldName name := by
  simp only [← Field.find?_eq_some_iff_isFirstBad]
  rw [validated]
  cases filter.fields.find? fun n => !Field.isPath n with
  | none => simp
  | some name => simp [eq_comm]

theorem compile_eq_error_iff {filter : Filter} {e : StoreError} :
    filter.compile = .error e ↔
      ∃ name, Field.IsFirstBad filter.fields name ∧ e = .invalidFieldName name := by
  rw [← validated_eq_error_iff]
  refine ⟨fun hcompile => ?_, compile_of_invalid⟩
  cases hvalid : filter.validated with
  | error d =>
    rw [compile_of_invalid hvalid] at hcompile
    cases hcompile
    rfl
  | ok u =>
    obtain ⟨p, hp, -⟩ := compile_of_valid hvalid
    rw [hp] at hcompile
    cases hcompile

theorem compiles_iff {filter : Filter} :
    (∃ p, filter.compile = .ok p) ↔ ∀ name ∈ filter.fields, Field.IsDotted name := by
  constructor
  · rintro ⟨p, hp⟩ name hname
    by_contra hbad
    rw [← Field.isPath_iff_isDotted] at hbad
    -- An earlier name may be the first bad one.
    obtain ⟨first, hfirst⟩ : ∃ first, filter.fields.find? (fun n => !Field.isPath n) = some first := by
      rw [← Option.isSome_iff_exists, List.find?_isSome]
      exact ⟨name, hname, by simpa using hbad⟩
    rw [compile_of_find? filter hfirst] at hp
    cases hp
  · intro h
    have hpaths : ∀ name ∈ filter.fields, Field.isPath name = true :=
      fun name hname => Field.isPath_iff_isDotted.mpr (h name hname)
    obtain ⟨p, hp, -⟩ := compile_of_valid (validated_of_isPath hpaths)
    exact ⟨p, hp⟩

theorem compiles_within_iff {scope : String} (hscope : Field.IsDotted scope) {filter : Filter} :
    (∃ p, (filter.within scope).compile = .ok p) ↔ ∃ p, filter.compile = .ok p := by
  simp only [compiles_iff, fields_within, List.forall_mem_map, Field.isDotted_inside hscope]

theorem compiles_of_ofJson {strict : Bool} {j : Json} {filter : Filter}
    (h : ofJson strict j = .ok filter) : ∃ p, filter.compile = .ok p :=
  compiles_iff.mpr fun name hname =>
    Field.isPath_iff_isDotted.mp (isPath_of_ofJson j h name hname)

/-- A filter is refused if and only if one of its names is no field path, and the first of those is
reported. Inside of a member the same filters are refused, for the same names. What was parsed is
never refused. -/
theorem compile_refuses (filter : Filter) :
    ((∃ e, filter.compile = .error e) ↔ ∃ name ∈ filter.fields, ¬ Field.IsDotted name) ∧
    (∀ e, filter.compile = .error e ↔
      ∃ name, Field.IsFirstBad filter.fields name ∧ e = .invalidFieldName name) ∧
    (∀ scope, Field.IsDotted scope →
      (∀ name, Field.IsDotted (scope ++ "." ++ name) ↔ Field.IsDotted name) ∧
      ((∃ p, (filter.within scope).compile = .ok p) ↔ ∃ p, filter.compile = .ok p) ∧
      ∀ e, (filter.within scope).compile = .error e ↔
        ∃ name, Field.IsFirstBad filter.fields name ∧
          e = .invalidFieldName (scope ++ "." ++ name)) ∧
    ∀ strict j, ofJson strict j = .ok filter →
      (∃ p, filter.compile = .ok p) ∧
      ∀ scope, Field.IsDotted scope → ∃ p, (filter.within scope).compile = .ok p := by
  refine ⟨?_, fun e => compile_eq_error_iff, fun scope hscope => ⟨?_, ?_, fun e => ?_⟩,
    fun strict j hparsed => ⟨compiles_of_ofJson hparsed, fun scope hscope => ?_⟩⟩
  · have hcompiles : (∃ p, filter.compile = .ok p) ↔ ∀ name ∈ filter.fields, Field.IsDotted name :=
      compiles_iff
    cases hcompile : filter.compile with
    | ok p => simpa [hcompile] using hcompiles
    | error e => simpa [hcompile] using hcompiles
  · exact Field.isDotted_inside hscope
  · exact compiles_within_iff hscope
  · simp only [compile_eq_error_iff, fields_within, Field.isFirstBad_inside hscope]
    constructor
    · rintro ⟨bad, ⟨name, rfl, hname⟩, rfl⟩
      exact ⟨name, hname, rfl⟩
    · rintro ⟨name, hname, rfl⟩
      exact ⟨_, ⟨name, rfl, hname⟩, rfl⟩
  · exact (compiles_within_iff hscope).mpr (compiles_of_ofJson hparsed)

/-- Empty memberships and null literals are checked from left to right, at every depth. -/
theorem compile_refuses_nested :
    Field.IsDotted "data" ∧
    (Filter.and [.membership "tags" [] false,
      .or [.implicit "a..b" .null, .existence "" true]]).compile =
        .error (.invalidFieldName "a..b") ∧
    ((Filter.and [.membership "tags" [] false,
      .or [.implicit "a..b" .null, .existence "" true]]).within "data").compile =
        .error (.invalidFieldName "data.a..b") ∧
    ofJson true (.object [("tags", .object [("$in", .array [])])]) = .ok (.membership "tags" [] false) ∧
    ∃ p, ((Filter.membership "tags" [] false).within "data").compile = .ok p := by
  have hdata : Field.IsDotted "data" := Field.isPath_iff_isDotted.mp (by decide)
  have hfirst : Field.IsFirstBad ["tags", "a..b", ""] "a..b" :=
    Field.find?_eq_some_iff_isFirstBad.mp (by decide)
  obtain ⟨-, hrefused, hwithin, -⟩ := compile_refuses
    (Filter.and [.membership "tags" [] false, .or [.implicit "a..b" .null, .existence "" true]])
  obtain ⟨-, -, -, hparsed⟩ := compile_refuses (.membership "tags" [] false)
  have htags : ofJson true (.object [("tags", .object [("$in", .array [])])]) =
      .ok (.membership "tags" [] false) := rfl
  exact ⟨hdata, (hrefused _).mpr ⟨"a..b", hfirst, rfl⟩,
    ((hwithin "data" hdata).2.2 _).mpr ⟨"a..b", hfirst, rfl⟩, htags,
    (hparsed true _ htags).2 "data" hdata⟩

end Filter

end DocumentGraph
