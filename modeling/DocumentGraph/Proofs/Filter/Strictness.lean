import DocumentGraph.Filter.Parser
set_option autoImplicit false

namespace DocumentGraph

variable {α β : Type} {x y : Except StoreError α}

/-- The strict result is the lenient one or the error about an unknown operator, which the lenient one
never is. -/
structure Tightens (strict lenient : Except StoreError α) : Prop where
  known : ∀ name, lenient ≠ .error (.unknownOperator name)
  same : strict = lenient ∨ ∃ name, strict = .error (.unknownOperator name)

namespace Tightens

theorem ok (a : α) : Tightens (.ok a) (.ok a) := ⟨nofun, .inl rfl⟩

theorem error {e : StoreError} (h : ∀ name, e ≠ .unknownOperator name) :
    Tightens (.error e : Except _ α) (.error e) :=
  ⟨fun name he => h name (Except.error.inj he), .inl rfl⟩

theorem stops (name : String) (a : α) : Tightens (.error (.unknownOperator name)) (.ok a) :=
  ⟨nofun, .inr ⟨name, rfl⟩⟩

theorem bind {f g : α → Except StoreError β} (h : Tightens x y) (hf : ∀ a, Tightens (f a) (g a)) :
    Tightens (x >>= f) (y >>= g) := by
  refine ⟨fun name he => ?_, ?_⟩
  · cases y with
    | error e =>
      cases he
      exact h.known name rfl
    | ok a => exact (hf a).known name he
  · rcases h.same with rfl | ⟨name, rfl⟩
    · cases x with
      | error e => exact .inl rfl
      | ok a => exact (hf a).same
    · exact .inr ⟨name, rfl⟩

theorem map (h : Tightens x y) (f : α → β) : Tightens (x.map f) (y.map f) := by
  have hbind := h.bind fun a => ok (f a)
  rcases h.same with rfl | ⟨name, rfl⟩
  · cases x <;> exact hbind
  · cases y <;> exact hbind

theorem ok_of_strict {a : α} (h : Tightens x y) (hx : x = .ok a) : y = .ok a := by
  rcases h.same with rfl | ⟨name, rfl⟩
  · exact hx
  · cases hx

theorem error_of_strict {e : StoreError} (h : Tightens x y) (hx : x = .error e)
    (he : ∀ name, e ≠ .unknownOperator name) : y = .error e := by
  rcases h.same with rfl | ⟨name, rfl⟩
  · exact hx
  · cases hx
    exact absurd rfl (he name)

theorem error_of_lenient {e : StoreError} (h : Tightens x y) (hy : y = .error e) :
    x = .error e ∨ ∃ name, x = .error (.unknownOperator name) :=
  h.same.imp_left fun hxy => hxy.trans hy

end Tightens

namespace Filter

theorem tightens_fieldClause (field : String) (value : Json) :
    Tightens (fieldClause true field value) (fieldClause false field value) := by
  unfold fieldClause
  cases value with
  | object members =>
    dsimp only
    by_cases hoperators : (!members.isEmpty && members.all fun m => isOperator m.1) = true
    · rw [if_pos hoperators, if_pos hoperators]
      exact .ok _
    · rw [if_neg hoperators, if_neg hoperators, if_pos rfl, if_neg Bool.false_ne_true]
      cases members.find? fun m => isStrangeOperator m.1 with
      | some m => exact .stops m.1 _
      | none => exact .ok _
  | _ => exact .ok _

theorem tightens_validField (name : String) : Tightens (validField name) (validField name) := by
  unfold validField
  split
  · exact .ok _
  · exact .error nofun

theorem tightens_plainClause (key : String) (value : Json) :
    Tightens (plainClause true key value) (plainClause false key value) :=
  (tightens_validField key).bind fun _ => tightens_fieldClause key value

mutual

theorem tightens_ofJson : ∀ j, Tightens (ofJson true j) (ofJson false j)
  | .null => .ok _
  | .object members => by
    rw [ofJson, ofJson]
    exact (tightens_clauses members).map _
  | .bool _ | .number _ | .string _ | .array _ => .error nofun

theorem tightens_clauses : ∀ members, Tightens (clauses true members) (clauses false members)
  | [] => .ok _
  | (key, value) :: rest => by
    rw [clauses, clauses]
    exact (tightens_clause key value).bind fun _ => (tightens_clauses rest).bind fun _ => .ok _

theorem tightens_clause (key : String) : ∀ value, Tightens (clause true key value) (clause false key value)
  | .array items => by
    rw [clause, clause]
    split
    · exact (tightens_children items).map _
    · split
      · exact (tightens_children items).map _
      · exact tightens_plainClause key _
  | .null | .bool _ | .number _ | .string _ | .object _ => by
    unfold clause
    split
    · exact .error nofun
    · exact tightens_plainClause key _

theorem tightens_children : ∀ items, Tightens (children true items) (children false items)
  | [] => .ok _
  | j :: rest => by
    rw [children, children]
    exact (tightens_ofJson j).bind fun _ => (tightens_children rest).bind fun _ => .ok _

end

end Filter

end DocumentGraph
