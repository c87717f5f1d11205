import DocumentGraph.Filter.Parser
import DocumentGraph.Proofs.Filter.Meaning
import DocumentGraph.Proofs.Json.Members
set_option autoImplicit false

/-!
# Which JSON values are filters

The grammar says what a filter is, and the first fault says what is wrong with a value that is none:
members are looked at in the order of their keys, elements in the order of the array, and the inside
of a member before what follows it. The parser takes exactly the filters of the grammar and reports
exactly the first fault.
-/

namespace DocumentGraph

namespace Json

def keys : Json → List String
  | .object members => members.map (·.1)
  | _ => []

def isArray : Json → Bool
  | .array _ => true
  | _ => false

end Json

namespace Field

/-- The name is non-empty segments of letters, digits and underscores joined by single dots. -/
def IsDotted (name : String) : Prop :=
  ∃ segments : List (List Char), segments ≠ [] ∧
    (∀ s ∈ segments, s ≠ [] ∧ ∀ c ∈ s, isSegmentChar c = true) ∧
    name.toList = ['.'].intercalate segments

theorem splitDots_eq_splitOn (cs : List Char) : splitDots cs = cs.splitOn '.' := by
  induction cs with
  | nil => simp [splitDots]
  | cons c rest ih =>
    rw [splitDots, List.splitOn_cons_eq_if_modifyHead, ih]
    by_cases h : c = '.'
    · simp [h]
    · cases hsplit : rest.splitOn '.' with
      | nil => exact absurd (ih.trans hsplit) (splitDots_ne_nil rest)
      | cons s segments => simp [h]

theorem isPath_iff_isDotted {name : String} : isPath name = true ↔ IsDotted name := by
  have hall (segments : List (List Char)) :
      (segments.all fun s => !s.isEmpty && s.all isSegmentChar) = true ↔
        ∀ s ∈ segments, s ≠ [] ∧ ∀ c ∈ s, isSegmentChar c = true := by
    simp [List.all_eq_true]
  constructor
  · intro h
    rw [isPath, isPathChars, hall] at h
    refine ⟨splitDots name.toList, splitDots_ne_nil _, h, ?_⟩
    rw [splitDots_eq_splitOn, List.intercalate_splitOn]
  · rintro ⟨segments, hne, hsegments, hname⟩
    have hdots : ∀ s ∈ segments, '.' ∉ s := by
      intro s hs hdot
      exact absurd ((hsegments s hs).2 '.' hdot) (by decide)
    rw [isPath, isPathChars, hall, hname, splitDots_eq_splitOn,
      List.splitOn_intercalate '.' hdots hne]
    exact hsegments

end Field

namespace Filter

def IsCombinator (key : String) : Prop := key = "$and" ∨ key = "$or"

mutual

/-- The value is a filter. -/
inductive Acceptable (strict : Bool) : Json → Prop where
  | null : Acceptable strict .null
  | object {members : List (String × Json)}
      (each : ∀ m ∈ members, AcceptableMember strict m.1 m.2) : Acceptable strict (.object members)

/-- A member that may stand in a filter: filters under a combinator, or a field with what it is
tested for. -/
inductive AcceptableMember (strict : Bool) : String → Json → Prop where
  | combined {key : String} {items : List Json} (hkey : IsCombinator key)
      (each : ∀ j ∈ items, Acceptable strict j) : AcceptableMember strict key (.array items)
  | field {key : String} {value : Json} (hkey : Field.IsDotted key)
      (plain : strict = true → ∀ k ∈ value.keys, isStrangeOperator k = false) :
      AcceptableMember strict key value

end

mutual

/-- The first thing that is wrong with a value that is no filter. -/
inductive FirstFault (strict : Bool) : Json → StoreError → Prop where
  | notAFilter {j : Json} (hnull : j.isNull = false) (hobject : j.isObject = false) :
      FirstFault strict j (.invalidQuery (.notAFilter j.kindName))
  | member {members : List (String × Json)} {key : String} {value : Json} {e : StoreError}
      (hmem : (key, value) ∈ members)
      (smaller : ∀ m ∈ members, m.1 < key → AcceptableMember strict m.1 m.2)
      (fault : MemberFault strict key value e) : FirstFault strict (.object members) e

inductive MemberFault (strict : Bool) : String → Json → StoreError → Prop where
  | notAList {key : String} {value : Json} (hkey : IsCombinator key)
      (harray : value.isArray = false) :
      MemberFault strict key value (.invalidQuery (.notAList key))
  | item {key : String} {before after : List Json} {j : Json} {e : StoreError}
      (hkey : IsCombinator key) (earlier : ∀ i ∈ before, Acceptable strict i)
      (fault : FirstFault strict j e) : MemberFault strict key (.array (before ++ j :: after)) e
  | notAField {key : String} {value : Json} (hkey : ¬ IsCombinator key)
      (hpath : ¬ Field.IsDotted key) : MemberFault strict key value (.invalidFieldName key)
  | strange {key k : String} {value : Json} (hpath : Field.IsDotted key)
      (hstrict : strict = true) (hmem : k ∈ value.keys) (hk : isStrangeOperator k = true)
      (least : ∀ l ∈ value.keys, isStrangeOperator l = true → k ≤ l) :
      MemberFault strict key value (.unknownOperator k)

end

variable {strict : Bool} {key : String} {value : Json} {e : StoreError}

theorem not_isCombinator_of_isDotted (h : Field.IsDotted key) : ¬ IsCombinator key := by
  rw [← Field.isPath_iff_isDotted] at h
  rintro (rfl | rfl) <;> exact absurd h (by decide)

theorem clause_of_not_isCombinator (h : ¬ IsCombinator key) :
    clause strict key value = plainClause strict key value := by
  have hneither : ¬ (key = "$and" ∨ key = "$or") := h
  obtain ⟨hand, hor⟩ := not_or.mp hneither
  cases value with
  | array items => rw [clause, if_neg hand, if_neg hor]
  | _ => simp [clause, hneither]

theorem clause_of_isCombinator (h : IsCombinator key) (items : List Json) :
    clause strict key (.array items) =
      (children strict items).map (if key = "$and" then Filter.and else Filter.or) := by
  by_cases hand : key = "$and"
  · rw [clause, if_pos hand, if_pos hand]
  · rw [clause, if_neg hand, if_pos (h.resolve_left hand), if_neg hand]

theorem clause_of_not_isArray (h : IsCombinator key) (harray : value.isArray = false) :
    clause strict key value = .error (.invalidQuery (.notAList key)) := by
  have heither : key = "$and" ∨ key = "$or" := h
  cases value with
  | array items => cases harray
  | _ => simp [clause, heither]

theorem plainClause_of_isDotted (h : Field.IsDotted key) :
    plainClause strict key value = fieldClause strict key value := by
  rw [plainClause, validField_of_isPath (Field.isPath_iff_isDotted.mpr h)]
  rfl

theorem plainClause_of_not_isDotted (h : ¬ Field.IsDotted key) :
    plainClause strict key value = .error (.invalidFieldName key) := by
  rw [← Field.isPath_iff_isDotted, Bool.not_eq_true] at h
  have hinvalid : validField key = .error (.invalidFieldName key) := by
    rw [validField, Field.ofName?_eq_none_iff.mpr h]
  rw [plainClause, hinvalid]
  rfl

theorem isOperator_of_strange {k : String} (h : isStrangeOperator k = true) :
    isOperator k = false := by
  rw [isStrangeOperator, Bool.and_eq_true, Bool.not_eq_true'] at h
  exact h.2

theorem fieldClause_of_plain
    (h : strict = true → ∀ k ∈ value.keys, isStrangeOperator k = false) :
    ∃ f, fieldClause strict key value = .ok f := by
  cases value with
  | object members =>
    rw [fieldClause]
    split
    · exact ⟨_, rfl⟩
    · split
      · next hstrict =>
        have hnone : members.find? (fun m => isStrangeOperator m.1) = none := by
          rw [List.find?_eq_none]
          intro m hm
          rw [h hstrict m.1 (List.mem_map_of_mem hm)]
          exact Bool.false_ne_true
        rw [hnone]
        exact ⟨_, rfl⟩
      · exact ⟨_, rfl⟩
  | _ => exact ⟨_, rfl⟩

theorem find?_of_least {members : List (String × Json)} {k : String}
    (hascending : Json.Ascending members) (hmem : k ∈ members.map (·.1))
    (hk : isStrangeOperator k = true)
    (least : ∀ l ∈ members.map (·.1), isStrangeOperator l = true → k ≤ l) :
    ∃ m, members.find? (fun m => isStrangeOperator m.1) = some m ∧ m.1 = k := by
  induction members with
  | nil => cases hmem
  | cons m rest ih =>
    obtain ⟨key, value⟩ := m
    obtain ⟨hlt, hrest⟩ := Json.ascending_cons.mp hascending
    have hwithin : k ∈ rest.map (·.1) → key < k := by
      intro h
      obtain ⟨n, hn, rfl⟩ := List.mem_map.mp h
      exact hlt n hn
    by_cases hkey : isStrangeOperator key = true
    · refine ⟨(key, value), by simp [hkey], ?_⟩
      rcases List.mem_cons.mp hmem with rfl | h
      · rfl
      · have hle := least key List.mem_cons_self hkey
        exact absurd (hwithin h) (String.not_lt.mpr hle)
    · have hk' : k ∈ rest.map (·.1) := by
        rcases List.mem_cons.mp hmem with rfl | h
        · exact absurd hk hkey
        · exact h
      simpa [hkey] using ih hrest hk' fun l hl => least l (List.mem_cons_of_mem _ hl)

theorem fieldClause_of_strange {k : String} (hstrict : strict = true)
    (hvalue : value.WellFormed) (hmem : k ∈ value.keys) (hk : isStrangeOperator k = true)
    (least : ∀ l ∈ value.keys, isStrangeOperator l = true → k ≤ l) :
    fieldClause strict key value = .error (.unknownOperator k) := by
  cases value with
  | object members =>
    obtain ⟨m, hfind, hm⟩ := find?_of_least hvalue.1 hmem hk least
    -- A strange key keeps the object from being read as operators.
    have hliteral : (members.all fun m => isOperator m.1) = false := by
      rw [List.all_eq_false]
      refine ⟨m, List.mem_of_find?_eq_some hfind, ?_⟩
      rw [hm, isOperator_of_strange hk]
      exact Bool.false_ne_true
    rw [fieldClause, hliteral, Bool.and_false, if_neg Bool.false_ne_true, if_pos hstrict, hfind]
    simp only [hm]
  | _ => cases hmem

theorem clauses_of_forall {members : List (String × Json)}
    (h : ∀ m ∈ members, ∃ f, clause strict m.1 m.2 = .ok f) :
    ∃ fs, clauses strict members = .ok fs := by
  induction members with
  | nil => exact ⟨[], rfl⟩
  | cons m rest ih =>
    obtain ⟨f, hf⟩ := h m List.mem_cons_self
    obtain ⟨fs, hfs⟩ := ih fun n hn => h n (List.mem_cons_of_mem _ hn)
    exact ⟨f :: fs, by rw [clauses, hf, hfs]; rfl⟩

theorem clauses_of_first {before after : List (String × Json)}
    (h : ∀ m ∈ before, ∃ f, clause strict m.1 m.2 = .ok f)
    (hfirst : clause strict key value = .error e) :
    clauses strict (before ++ (key, value) :: after) = .error e := by
  induction before with
  | nil => rw [List.nil_append, clauses, hfirst]; rfl
  | cons m rest ih =>
    obtain ⟨f, hf⟩ := h m List.mem_cons_self
    rw [List.cons_append, clauses, hf, ih fun n hn => h n (List.mem_cons_of_mem _ hn)]
    rfl

theorem children_of_forall {items : List Json} (h : ∀ j ∈ items, ∃ f, ofJson strict j = .ok f) :
    ∃ fs, children strict items = .ok fs := by
  induction items with
  | nil => exact ⟨[], rfl⟩
  | cons j rest ih =>
    obtain ⟨f, hf⟩ := h j List.mem_cons_self
    obtain ⟨fs, hfs⟩ := ih fun i hi => h i (List.mem_cons_of_mem _ hi)
    exact ⟨f :: fs, by rw [children, hf, hfs]; rfl⟩

theorem children_of_first {before after : List Json} {j : Json}
    (h : ∀ i ∈ before, ∃ f, ofJson strict i = .ok f) (hfirst : ofJson strict j = .error e) :
    children strict (before ++ j :: after) = .error e := by
  induction before with
  | nil => rw [List.nil_append, children, hfirst]; rfl
  | cons i rest ih =>
    obtain ⟨f, hf⟩ := h i List.mem_cons_self
    rw [List.cons_append, children, hf, ih fun n hn => h n (List.mem_cons_of_mem _ hn)]
    rfl

mutual

theorem ofJson_of_acceptable : ∀ {j : Json}, Acceptable strict j → ∃ f, ofJson strict j = .ok f
  | _, .null => ⟨_, rfl⟩
  | _, .object each => by
    have hall := fun m hm => clause_of_acceptable (each m hm)
    obtain ⟨fs, hfs⟩ := clauses_of_forall hall
    exact ⟨conjunction fs, by rw [ofJson, hfs]; rfl⟩

theorem clause_of_acceptable : ∀ {key : String} {value : Json},
    AcceptableMember strict key value → ∃ f, clause strict key value = .ok f
  | _, _, .combined hkey each => by
    have hall := fun j hj => ofJson_of_acceptable (each j hj)
    obtain ⟨fs, hfs⟩ := children_of_forall hall
    exact ⟨_, by rw [clause_of_isCombinator hkey, hfs]; rfl⟩
  | _, _, .field hkey plain => by
    obtain ⟨f, hf⟩ := fieldClause_of_plain plain
    exact ⟨f, by rw [clause_of_not_isCombinator (not_isCombinator_of_isDotted hkey),
      plainClause_of_isDotted hkey, hf]⟩

end

theorem itemsWellFormed_iff {items : List Json} :
    Json.ItemsWellFormed items ↔ ∀ j ∈ items, j.WellFormed := by
  induction items with
  | nil => simp [Json.ItemsWellFormed]
  | cons j rest ih => simp [Json.ItemsWellFormed, ih]

theorem lt_of_mem_before {before after : List (String × Json)}
    (h : Json.Ascending (before ++ (key, value) :: after)) {m : String × Json} (hm : m ∈ before) :
    m.1 < key := by
  rw [Json.Ascending, List.map_append, List.pairwise_append] at h
  exact h.2.2 m.1 (List.mem_map_of_mem hm) key List.mem_cons_self

theorem lt_of_mem_after {before after : List (String × Json)}
    (h : Json.Ascending (before ++ (key, value) :: after)) {m : String × Json} (hm : m ∈ after) :
    key < m.1 := by
  rw [Json.Ascending, List.map_append, List.pairwise_append] at h
  exact (Json.ascending_cons.mp h.2.1).1 m hm

mutual

theorem ofJson_of_firstFault : ∀ {j : Json} {e : StoreError}, FirstFault strict j e →
    j.WellFormed → ofJson strict j = .error e
  | j, _, .notAFilter hnull hobject, _ => by
    cases j with
    | null => cases hnull
    | object members => cases hobject
    | _ => rfl
  | _, _, .member hmem smaller fault, hj => by
    have hclause := clause_of_memberFault fault (Json.membersWellFormed_iff.mp hj.2 _ hmem)
    obtain ⟨before, after, rfl⟩ := List.append_of_mem hmem
    have hbefore := fun m hm =>
      clause_of_acceptable (smaller m (List.mem_append_left _ hm) (lt_of_mem_before hj.1 hm))
    rw [ofJson, clauses_of_first hbefore hclause]
    rfl

theorem clause_of_memberFault : ∀ {key : String} {value : Json} {e : StoreError},
    MemberFault strict key value e → value.WellFormed → clause strict key value = .error e
  | _, _, _, .notAList hkey harray, _ => clause_of_not_isArray hkey harray
  | _, _, _, .item hkey earlier fault, hvalue => by
    have hitem := ofJson_of_firstFault fault
      (itemsWellFormed_iff.mp hvalue _ (List.mem_append_right _ List.mem_cons_self))
    have hbefore := fun i hi => ofJson_of_acceptable (earlier i hi)
    rw [clause_of_isCombinator hkey, children_of_first hbefore hitem]
    rfl
  | _, _, _, .notAField hkey hpath, _ => by
    rw [clause_of_not_isCombinator hkey, plainClause_of_not_isDotted hpath]
  | _, _, _, .strange hpath hstrict hmem hk least, hvalue => by
    rw [clause_of_not_isCombinator (not_isCombinator_of_isDotted hpath), plainClause_of_isDotted hpath,
      fieldClause_of_strange hstrict hvalue hmem hk least]

end

theorem exists_least {members : List (String × Json)} (h : Json.Ascending members)
    (hstrange : ∃ k ∈ members.map (·.1), isStrangeOperator k = true) :
    ∃ k ∈ members.map (·.1), isStrangeOperator k = true ∧
      ∀ l ∈ members.map (·.1), isStrangeOperator l = true → k ≤ l := by
  induction members with
  | nil =>
    obtain ⟨k, hk, -⟩ := hstrange
    cases hk
  | cons m rest ih =>
    obtain ⟨key, value⟩ := m
    obtain ⟨hlt, hrest⟩ := Json.ascending_cons.mp h
    by_cases hkey : isStrangeOperator key = true
    · refine ⟨key, List.mem_cons_self, hkey, fun l hl _ => ?_⟩
      rcases List.mem_cons.mp hl with rfl | hl
      · exact String.le_refl _
      · obtain ⟨n, hn, rfl⟩ := List.mem_map.mp hl
        exact Std.le_of_lt (hlt n hn)
    · have hothers {k : String} (hk : k ∈ ((key, value) :: rest).map (·.1))
          (hs : isStrangeOperator k = true) : k ∈ rest.map (·.1) := by
        rcases List.mem_cons.mp hk with rfl | hk
        · exact absurd hs hkey
        · exact hk
      obtain ⟨k, hk, hs⟩ := hstrange
      obtain ⟨k, hk, hs, least⟩ := ih hrest ⟨k, hothers hk hs, hs⟩
      exact ⟨k, List.mem_cons_of_mem _ hk, hs, fun l hl hls => least l (hothers hl hls) hls⟩

theorem field_or_fault (hkey : ¬ IsCombinator key) (hvalue : value.WellFormed) :
    AcceptableMember strict key value ∨ ∃ e, MemberFault strict key value e := by
  by_cases hpath : Field.IsDotted key
  · by_cases hplain : strict = true → ∀ k ∈ value.keys, isStrangeOperator k = false
    · exact .inl (.field hpath hplain)
    · obtain ⟨hstrict, hsome⟩ := Classical.not_imp.mp hplain
      obtain ⟨k, hk, hs⟩ : ∃ k ∈ value.keys, isStrangeOperator k = true := by
        simpa using hsome
      cases value with
      | object members =>
        obtain ⟨l, hl, hls, least⟩ := exists_least hvalue.1 ⟨k, hk, hs⟩
        exact .inr ⟨_, .strange hpath hstrict hl hls least⟩
      | _ => cases hk
  · exact .inr ⟨_, .notAField hkey hpath⟩

mutual

theorem acceptable_or_fault (j : Json) (hj : j.WellFormed) :
    Acceptable strict j ∨ ∃ e, FirstFault strict j e := by
  cases j with
  | null => exact .inl .null
  | object members =>
    rcases members_or_fault members hj.2 with hall | ⟨before, key, value, after, e, rfl, h, fault⟩
    · exact .inl (.object hall)
    · refine .inr ⟨e, .member (List.mem_append_right _ List.mem_cons_self) (fun m hm hlt => ?_) fault⟩
      rcases List.mem_append.mp hm with hm | hm
      · exact h m hm
      · rcases List.mem_cons.mp hm with rfl | hm
        · exact absurd hlt (String.lt_irrefl _)
        · exact absurd hlt (String.lt_asymm (lt_of_mem_after hj.1 hm))
  | bool b => exact .inr ⟨_, .notAFilter rfl rfl⟩
  | number n => exact .inr ⟨_, .notAFilter rfl rfl⟩
  | string s => exact .inr ⟨_, .notAFilter rfl rfl⟩
  | array items => exact .inr ⟨_, .notAFilter rfl rfl⟩

theorem members_or_fault (members : List (String × Json)) (h : Json.MembersWellFormed members) :
    (∀ m ∈ members, AcceptableMember strict m.1 m.2) ∨
      ∃ before key value after e, members = before ++ (key, value) :: after ∧
        (∀ m ∈ before, AcceptableMember strict m.1 m.2) ∧ MemberFault strict key value e := by
  cases members with
  | nil => exact .inl fun m hm => absurd hm List.not_mem_nil
  | cons m rest =>
    obtain ⟨key, value⟩ := m
    rcases member_or_fault key value h.1 with hfirst | ⟨e, fault⟩
    · rcases members_or_fault rest h.2 with hall | ⟨before, k, v, after, e, rfl, hb, fault⟩
      · exact .inl (List.forall_mem_cons.mpr ⟨hfirst, hall⟩)
      · exact .inr ⟨(key, value) :: before, k, v, after, e, rfl,
          List.forall_mem_cons.mpr ⟨hfirst, hb⟩, fault⟩
    · exact .inr ⟨[], key, value, rest, e, rfl, fun m hm => absurd hm List.not_mem_nil, fault⟩

theorem member_or_fault (key : String) (value : Json) (h : value.WellFormed) :
    AcceptableMember strict key value ∨ ∃ e, MemberFault strict key value e := by
  by_cases hkey : IsCombinator key
  · cases value with
    | array items =>
      rcases items_or_fault items h with hall | ⟨before, j, after, e, rfl, hb, fault⟩
      · exact .inl (.combined hkey hall)
      · exact .inr ⟨e, .item hkey hb fault⟩
    | null => exact .inr ⟨_, .notAList hkey rfl⟩
    | bool b => exact .inr ⟨_, .notAList hkey rfl⟩
    | number n => exact .inr ⟨_, .notAList hkey rfl⟩
    | string s => exact .inr ⟨_, .notAList hkey rfl⟩
    | object members => exact .inr ⟨_, .notAList hkey rfl⟩
  · exact field_or_fault hkey h

theorem items_or_fault (items : List Json) (h : Json.ItemsWellFormed items) :
    (∀ j ∈ items, Acceptable strict j) ∨
      ∃ before j after e, items = before ++ j :: after ∧
        (∀ i ∈ before, Acceptable strict i) ∧ FirstFault strict j e := by
  cases items with
  | nil => exact .inl fun j hj => absurd hj List.not_mem_nil
  | cons j rest =>
    rcases acceptable_or_fault j h.1 with hfirst | ⟨e, fault⟩
    · rcases items_or_fault rest h.2 with hall | ⟨before, i, after, e, rfl, hb, fault⟩
      · exact .inl (List.forall_mem_cons.mpr ⟨hfirst, hall⟩)
      · exact .inr ⟨j :: before, i, after, e, rfl, List.forall_mem_cons.mpr ⟨hfirst, hb⟩, fault⟩
    · exact .inr ⟨[], j, rest, e, rfl, fun i hi => absurd hi List.not_mem_nil, fault⟩

end

inductive ParseError (strict : Bool) : StoreError → Prop where
  | shape {fault : QueryFault} (h : fault ≠ .offsetWithoutLimit) :
      ParseError strict (.invalidQuery fault)
  | name (key : String) : ParseError strict (.invalidFieldName key)
  | operator (hstrict : strict = true) (key : String) : ParseError strict (.unknownOperator key)

mutual

theorem parseError_of_firstFault : ∀ {j : Json} {e : StoreError}, FirstFault strict j e →
    ParseError strict e
  | _, _, .notAFilter _ _ => .shape nofun
  | _, _, .member _ _ fault => parseError_of_memberFault fault

theorem parseError_of_memberFault : ∀ {key : String} {value : Json} {e : StoreError},
    MemberFault strict key value e → ParseError strict e
  | _, _, _, .notAList _ _ => .shape nofun
  | _, _, _, .item _ _ fault => parseError_of_firstFault fault
  | key, _, _, .notAField _ _ => .name key
  | _, _, _, .strange _ hstrict _ _ _ => .operator hstrict _

end

/-- A value is parsed exactly if it is a filter of the grammar, and otherwise the error is exactly
its first fault, which is one of three kinds. -/
theorem ofJson_decides (strict : Bool) (j : Json) (hj : j.WellFormed) :
    ((∃ f, ofJson strict j = .ok f) ↔ Acceptable strict j) ∧
      (∀ e, ofJson strict j = .error e ↔ FirstFault strict j e) ∧
      ∀ e, ofJson strict j = .error e → ParseError strict e := by
  have hfault (e : StoreError) : ofJson strict j = .error e ↔ FirstFault strict j e := by
    constructor
    · intro he
      rcases acceptable_or_fault j hj with hok | ⟨e', fault⟩
      · obtain ⟨f, hf⟩ := ofJson_of_acceptable hok
        rw [hf] at he
        cases he
      · rw [ofJson_of_firstFault fault hj] at he
        cases he
        exact fault
    · exact fun fault => ofJson_of_firstFault fault hj
  refine ⟨⟨?_, ofJson_of_acceptable⟩, hfault, fun e he => parseError_of_firstFault ((hfault e).mp he)⟩
  rintro ⟨f, hf⟩
  rcases acceptable_or_fault j hj with hok | ⟨e, fault⟩
  · exact hok
  · rw [ofJson_of_firstFault fault hj] at hf
    cases hf

/-- The fault inside the disjunction comes before the bad name behind it, and strictness decides
whether it is one. -/
theorem ofJson_decides_nested :
    let j : Json := .object
      [("$or", .array [.null, .object [("a", .object [("$gt", .null), ("$x", .null)])]]),
        ("b..c", .null)]
    j.WellFormed ∧ FirstFault true j (.unknownOperator "$x") ∧
      FirstFault false j (.invalidFieldName "b..c") := by
  intro j
  have hj : j.WellFormed := by
    have houter : Json.Ascending [("$or", .null), ("b..c", .null)] :=
      List.pairwise_pair.mpr (by decide)
    have hinner : Json.Ascending [("$gt", .null), ("$x", .null)] :=
      List.pairwise_pair.mpr (by decide)
    exact ⟨houter, ⟨trivial, ⟨List.pairwise_singleton _ _, ⟨hinner, trivial, trivial, trivial⟩,
      trivial⟩, trivial⟩, trivial, trivial⟩
  exact ⟨hj, ((ofJson_decides true j hj).2.1 _).mp rfl, ((ofJson_decides false j hj).2.1 _).mp rfl⟩

end Filter

end DocumentGraph
