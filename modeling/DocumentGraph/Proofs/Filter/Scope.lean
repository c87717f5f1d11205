import DocumentGraph.Proofs.Filter.Validation
set_option autoImplicit false

/-!
# Filters moved inside of a member

A filter whose fields are taken inside of a member asks of a document what the filter itself asks
of the value that lies there. Field paths are joined at a dot, so walking along a joined path walks
to the member first and on from there.
-/

namespace DocumentGraph

namespace Field

theorem isPath_inside (scope : Field) (name : String) :
    isPath (scope.name ++ "." ++ name) = isPath name := by
  have hchars : (scope.name ++ "." ++ name).toList = scope.name.toList ++ '.' :: name.toList := by
    simp
  have hscope : isPathChars scope.name.toList = true := scope.valid
  rw [isPath, hchars, isPathChars_append_dot, hscope, Bool.true_and, isPath]

/-- The field at the end of a path that goes on from another one. -/
def inside (scope f : Field) : Field :=
  ⟨scope.name ++ "." ++ f.name, (scope.isPath_inside f.name).trans f.valid⟩

theorem segments_inside (scope f : Field) :
    (scope.inside f).segments = scope.segments ++ f.segments := by
  have hchars : (scope.inside f).name.toList = scope.name.toList ++ '.' :: f.name.toList := by
    simp [inside]
  rw [segments, hchars, splitDots_append_dot, List.map_append, segments, segments]

theorem ofName?_inside (scope : Field) (name : String) :
    ofName? (scope.name ++ "." ++ name) = (ofName? name).map scope.inside := by
  cases h : ofName? name with
  | none =>
    rw [ofName?_eq_none_iff] at h
    rw [Option.map_none, ofName?_eq_none_iff, isPath_inside, h]
  | some f =>
    obtain rfl := ofName?_eq_some_iff.mp h
    rw [Option.map_some, ofName?_eq_some_iff]
    rfl

end Field

variable {scope : Field} {outer inner : Json}

namespace Json

theorem at?_inside (h : outer.at? scope = some inner) (f : Field) :
    outer.at? (scope.inside f) = inner.at? f := by
  rw [at?] at h
  rw [at?, scope.segments_inside, walk_append, h, Option.bind_some, at?]

theorem extract_inside (h : outer.at? scope = some inner) (f : Field) :
    outer.extract (scope.inside f) = inner.extract f := by
  rw [extract, at?_inside h, extract]

end Json

namespace Filter

theorem onField_inside (scope : Field) (name : String) (test : Field → Bool) :
    onField (scope.name ++ "." ++ name) test = onField name fun f => test (scope.inside f) := by
  rw [onField, scope.ofName?_inside, onField]
  cases Field.ofName? name <;> rfl

mutual

/-- No matter what its fields are named, the filter inside of the member holds of the document if and
only if the filter holds of the member. -/
theorem holds_within (h : outer.at? scope = some inner) (filter : Filter) :
    (filter.within scope.name).holds outer = filter.holds inner := by
  cases filter with
  | and children => rw [within, holds, holdsForAll_within h children, holds]
  | or children =>
    have hempty : (withinAll scope.name children).isEmpty = children.isEmpty := by
      rw [withinAll_eq_map, List.isEmpty_map]
    rw [within, holds, holdsForAny_within h children, hempty, holds]
  | _ => simp only [within, holds, onField_inside, Json.at?_inside h, Json.extract_inside h]

theorem holdsForAll_within (h : outer.at? scope = some inner) (filters : List Filter) :
    holdsForAll outer (withinAll scope.name filters) = holdsForAll inner filters := by
  cases filters with
  | nil => rfl
  | cons filter rest =>
    rw [withinAll, holdsForAll, holds_within h filter, holdsForAll_within h rest, holdsForAll]

theorem holdsForAny_within (h : outer.at? scope = some inner) (filters : List Filter) :
    holdsForAny outer (withinAll scope.name filters) = holdsForAny inner filters := by
  cases filters with
  | nil => rfl
  | cons filter rest =>
    rw [withinAll, holdsForAny, holds_within h filter, holdsForAny_within h rest, holdsForAny]

end

mutual

theorem fields_within (name : String) (filter : Filter) :
    (filter.within name).fields = filter.fields.map fun field => name ++ "." ++ field := by
  cases filter with
  | and children => rw [within, fields, fieldsAll_within name children, fields]
  | or children => rw [within, fields, fieldsAll_within name children, fields]
  | _ => rfl

theorem fieldsAll_within (name : String) (filters : List Filter) :
    fieldsAll (withinAll name filters) = (fieldsAll filters).map fun field => name ++ "." ++ field := by
  cases filters with
  | nil => rfl
  | cons filter rest =>
    rw [withinAll, fieldsAll, fields_within name filter, fieldsAll_within name rest, fieldsAll,
      List.map_append]

end

theorem isPath_within {filter : Filter} (scope : Field)
    (h : ∀ name ∈ filter.fields, Field.isPath name = true) :
    ∀ name ∈ (filter.within scope.name).fields, Field.isPath name = true := by
  rw [fields_within]
  refine List.forall_mem_map.mpr fun name hname => ?_
  rw [scope.isPath_inside, h name hname]

/-- What is compiled from the filter inside of the member selects the documents in which the member is
selected by what is compiled from the filter. -/
theorem selects_within (scope : Field) {filter : Filter}
    (h : ∀ name ∈ filter.fields, Field.isPath name = true) :
    ∃ p q, filter.compile = .ok p ∧ (filter.within scope.name).compile = .ok q ∧
      ∀ outer inner, outer.at? scope = some inner → q.selects outer = p.selects inner := by
  obtain ⟨p, hp, hselects⟩ := compile_of_valid (validated_of_isPath h)
  obtain ⟨q, hq, hwithin⟩ := compile_of_valid (validated_of_isPath (isPath_within scope h))
  refine ⟨p, q, hp, hq, fun outer inner hinner => ?_⟩
  rw [hwithin, hselects, holds_within hinner]

end Filter

end DocumentGraph
