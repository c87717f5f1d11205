import DocumentGraph.Proofs.CommandLine.Calls
import DocumentGraph.Proofs.Graph.Returned
import DocumentGraph.Proofs.Json.Indented
import DocumentGraph.Proofs.Json.Minified
set_option autoImplicit false

/-!
# What stands in a report

A report in JSON is read back as the value that was reported. A report in text has one line for each
item: a name as it is, a document in its compact text, which is read back as the document, a thing in
columns, an action in words; and behind documents a line that counts them.
-/

namespace DocumentGraph

namespace Json

variable {members : List (String × Json)} {limit : Nat}

theorem membersWellFormed_of_ofMembers (hkeys : (members.map (·.1)).Nodup)
    (h : (ofMembers members).WellFormed) : MembersWellFormed members := by
  refine membersWellFormed_iff.mpr fun m hm => ?_
  exact wellFormed_of_get? h ((lookup_ofMembers hkeys).trans (lookup_of_mem hkeys hm))

theorem ordered_object (hkeys : (members.map (·.1)).Nodup) (h : (ofMembers members).WellFormed) :
    (object members).ordered = ofMembers members := by
  rw [ordered, orderedMembers_of_wellFormed (membersWellFormed_of_ofMembers hkeys h)]

theorem depth_object_le (hkeys : (members.map (·.1)).Nodup) (h : (ofMembers members).depth ≤ limit) :
    (object members).depth ≤ limit := by
  cases limit with
  | zero => cases h
  | succ limit =>
    exact Nat.succ_le_succ (membersDepth_le_iff.mpr ((depth_ofMembers_le_iff hkeys).mp h))

end Json

namespace CommandLine

open Operation DocumentGraph.Graph

/-- A line that holds the compact text of a value, from which the value is read back. -/
structure JsonLine (j : Json) (line : String) : Prop where
  text : line = j.compact
  single : SingleLine line
  read : ∀ limit, j.depth ≤ limit → Json.read limit line = .ok j

/-- A text that is filled with blanks up to the width of its column. -/
structure Cell (width : Nat) (text cell : String) : Prop where
  filled : ∃ n, cell = text ++ String.ofList (List.replicate n ' ')
  length : cell.length = max width text.length

/-- The columns of a thing: its id, its type, its version and its data. -/
def ThingLine (t : Thing) (line : String) : Prop :=
  ∃ id type version data, Cell 32 t.id id ∧ Cell 16 t.type type ∧
    Cell 4 (toString t.version.toNat) version ∧ JsonLine (.object t.data) data ∧
    line = id ++ " " ++ type ++ " v" ++ version ++ " " ++ data

/-- The words of an action, with a blank between them: its time and its verb, the ids that are set with
what they are, and its data. -/
def ActionLine (a : Action) (line : String) : Prop :=
  ∃ time data, JsonLine (.number (.ofInt64 a.time)) time ∧ Option.Rel JsonLine a.data data ∧
    line = time ++ String.join (([a.verb] ++ (a.source.map ("from=" ++ ·)).toList ++
      (a.target.map ("to=" ++ ·)).toList ++ (a.actor.map ("by=" ++ ·)).toList ++
      data.toList).map (" " ++ ·))

theorem jsonLine_compact {j : Json} (h : j.WellFormed) : JsonLine j j.compact :=
  ⟨rfl, Json.singleLine_compact j, fun _ hd => Json.read_compact h hd⟩

theorem cell_padded (width : Nat) (text : String) : Cell width text (padded width text) := by
  refine ⟨⟨_, rfl⟩, ?_⟩
  rw [padded, String.length_append, String.length_ofList, List.length_replicate]
  omega

theorem thingLine_of_legible {t : Thing} (h : (Record.document t).Legible) :
    ThingLine t (thingLine t) := by
  have hdata : (Json.object t.data).WellFormed := by
    have hmembers := Json.membersWellFormed_of_ofMembers t.keys_nodup h.1
    exact Json.membersWellFormed_iff.mp hmembers ("data", .object t.data) (by simp [Record.members])
  exact ⟨_, _, _, _, cell_padded _ _, cell_padded _ _, cell_padded _ _, jsonLine_compact hdata, rfl⟩

theorem actionLine_of_legible {a : Action} (h : (Record.document a).Legible) :
    ActionLine a (actionLine a) := by
  have hmembers := Json.membersWellFormed_of_ofMembers a.keys_nodup h.1
  have hdata : Option.Rel JsonLine a.data (a.data.map Json.compact) := by
    cases hset : a.data with
    | none => exact .none
    | some j =>
      refine .some (jsonLine_compact (Json.membersWellFormed_iff.mp hmembers ("data", j) ?_))
      simp [Record.members, mem_memberIfSet, hset]
  refine ⟨_, _, jsonLine_compact (j := .number (.ofInt64 a.time)) trivial, hdata, ?_⟩
  have htime : SqlValue.intText a.time = (Json.number (.ofInt64 a.time)).compact := rfl
  have hpart (label : String) (o : Option String) :
      ((o.map fun t => " " ++ label ++ "=" ++ t).getD "") =
        String.join ((o.map (label ++ "=" ++ ·)).toList.map (" " ++ ·)) := by
    cases o <;> simp [String.append_assoc]
  have hpayload : ((a.data.map fun j => " " ++ j.compact).getD "") =
      String.join ((a.data.map Json.compact).toList.map (" " ++ ·)) := by
    cases a.data <;> simp
  simp only [actionLine, hpart, hpayload, List.map_append, String.join_append]
  rw [htime]
  simp [String.append_assoc]

def Answer.Legible : Answer → Prop
  | .document _ _ found => ∀ doc, found = some doc → doc.Legible
  | .documents list => ∀ doc ∈ list, doc.Legible
  | .things list => AllLegible list
  | .actions list => AllLegible list
  | _ => True

def Answer.json? : Answer → Option Json
  | .names list => some (.array (list.map .string))
  | .document _ _ found => found
  | .documents list => some (.array list)
  | .things list => some (.array (list.map Record.document))
  | .actions list => some (.array (list.map Record.document))
  | _ => none

def Answer.HasLines : Answer → List String → Prop
  | .names list, ls => ls = list
  | .document _ _ found, ls => List.Forall₂ JsonLine found.toList ls
  | .documents list, ls => ∃ docs, List.Forall₂ JsonLine list docs ∧
      ls = docs ++ ["(" ++ toString list.length ++ " documents)"]
  | .things list, ls => List.Forall₂ ThingLine list ls
  | .actions list, ls => List.Forall₂ ActionLine list ls
  | _, ls => ls = []

/-- What is printed of an answer: a text from which its value is read back, or its lines, each with a
line feed behind it. -/
def Answer.Printed (a : Answer) : Format → String → Prop
  | .json, text => a.json?.elim (text = "") fun j =>
      ∀ limit, j.depth ≤ limit → Json.read limit text = .ok j
  | .text, text => ∃ ls, a.HasLines ls ∧ text = String.join (ls.map (· ++ "\n"))

theorem read_indented_of_wellFormed {j : Json} (h : j.WellFormed) {limit : Nat}
    (hd : j.depth ≤ limit) : Json.read limit (j.indented ++ "\n") = .ok j := by
  rw [Json.read_indented hd, Json.ordered_of_wellFormed h]

/-- Records are printed with their members in the order of the record, and read with them in that of
their keys. -/
theorem read_indented_records {α : Type} [Record α] {rs : List α}
    (hkeys : ∀ r : α, ((Record.members r).map (·.1)).Nodup) (h : AllLegible rs) {limit : Nat}
    (hd : (Json.array (rs.map Record.document)).depth ≤ limit) :
    Json.read limit ((Json.array (rs.map recordJson)).indented ++ "\n") =
      .ok (.array (rs.map Record.document)) := by
  have hfits : (Json.array (rs.map Record.document)).Fits limit :=
    ⟨Filter.itemsWellFormed_iff.mpr (List.forall_mem_map.mpr fun r hr => (h r hr).1), hd⟩
  have hdepth : (Json.array (rs.map recordJson)).depth ≤ limit := by
    cases limit with
    | zero => cases hd
    | succ limit =>
      refine Nat.succ_le_succ (Json.itemsDepth_le (List.forall_mem_map.mpr fun r hr => ?_))
      exact Json.depth_object_le (hkeys r) (hfits.item _ (List.mem_map_of_mem hr)).2
  rw [Json.read_indented hdepth, Json.ordered, Json.orderedItems_eq_map, List.map_map]
  refine congrArg (fun items => Except.ok (Json.array items)) (List.map_congr_left fun r hr => ?_)
  exact Json.ordered_object (hkeys r) (h r hr).1

theorem printed_report {a : Answer} {format : Format} {text : String} (h : a.Legible)
    (hr : a.report format = .ok text) : a.Printed format text := by
  have hlines {α : Type} {R : α → String → Prop} {show' : α → String} {items : List α}
      (hitems : ∀ i ∈ items, R i (show' i)) : List.Forall₂ R items (items.map show') :=
    List.forall₂_map_right_iff.mpr (List.forall₂_same.mpr hitems)
  cases a with
  | nothing =>
    cases hr
    cases format with
    | json => rfl
    | text => exact ⟨[], rfl, rfl⟩
  | names list =>
    cases hr
    cases format with
    | json => exact fun limit hd => read_indented_of_wellFormed (Verb.wellFormed_texts list) hd
    | text => exact ⟨list, rfl, rfl⟩
  | document collection id found =>
    cases found with
    | none => cases hr
    | some doc =>
      cases hr
      have hdoc := (h doc rfl).1
      cases format with
      | json => exact fun limit hd => read_indented_of_wellFormed hdoc hd
      | text => exact ⟨[doc.compact], .cons (jsonLine_compact hdoc) .nil, rfl⟩
  | deleted collection id found =>
    cases found with
    | false => cases hr
    | true =>
      cases hr
      cases format with
      | json => rfl
      | text => exact ⟨[], rfl, rfl⟩
  | documents list =>
    cases hr
    cases format with
    | json =>
      have hlist : (Json.array list).WellFormed :=
        Filter.itemsWellFormed_iff.mpr fun doc hdoc => (h doc hdoc).1
      exact fun limit hd => read_indented_of_wellFormed hlist hd
    | text => exact ⟨_, ⟨_, hlines fun doc hdoc => jsonLine_compact (h doc hdoc).1, rfl⟩, rfl⟩
  | things list =>
    cases hr
    cases format with
    | json => exact fun limit hd => read_indented_records Thing.keys_nodup h hd
    | text => exact ⟨_, hlines fun t ht => thingLine_of_legible (h t ht), rfl⟩
  | actions list =>
    cases hr
    cases format with
    | json => exact fun limit hd => read_indented_records Action.keys_nodup h hd
    | text => exact ⟨_, hlines fun a ha => actionLine_of_legible (h a ha), rfl⟩

namespace Inspection

def counts (i : Inspection) : List (String × Nat) :=
  [("Nouns:", i.graph.nouns), ("Verbs:", i.graph.verbs), ("Things:", i.graph.things),
    ("Actions:", i.graph.actions), ("Relationships:", i.graph.relationships)]

def CountLine (c : String × Nat) (line : String) : Prop :=
  ∃ name, Cell 15 c.1 name ∧ line = "  " ++ name ++ toString c.2

def CollectionLine (c : String × Nat) (line : String) : Prop :=
  ∃ name, Cell 24 c.1 name ∧ line = "  " ++ name ++ " " ++ toString c.2 ++ " documents"

theorem read_report (i : Inspection) {limit : Nat} (h : 3 ≤ limit) :
    Json.read limit (i.report .json) = .ok (.ofMembers
      [("path", .string i.path), ("file_size", countJson i.size),
        ("graph", .ofMembers
          [("nouns", countJson i.graph.nouns), ("verbs", countJson i.graph.verbs),
            ("things", countJson i.graph.things), ("actions", countJson i.graph.actions),
            ("relationships", countJson i.graph.relationships)]),
        ("collections", .array (i.collections.map fun c =>
          .ofMembers [("name", .string c.1), ("documents", countJson c.2)]))]) := by
  have hcollections : Json.itemsDepth (i.collections.map fun c =>
      .object [("name", .string c.1), ("documents", countJson c.2)]) ≤ 1 :=
    Json.itemsDepth_le (List.forall_mem_map.mpr fun c _ => Nat.le_refl 1)
  have hdepth : i.json.depth ≤ 3 := by
    simp only [json, countJson, Json.depth, Json.membersDepth] at hcollections ⊢
    omega
  refine (Json.read_indented (hdepth.trans h)).trans ?_
  simp only [json, Json.ordered, Json.orderedMembers, Json.orderedItems_eq_map, List.map_map]
  rfl

theorem text_report (i : Inspection) : ∃ counts collections,
    List.Forall₂ CountLine i.counts counts ∧ List.Forall₂ CollectionLine i.collections collections ∧
    i.report .text = lines (["GraphDoc Store: " ++ i.path, "================", "",
      "File size: " ++ sizeText i.size, "", "Graph:"] ++ counts ++
      (if collections = [] then [] else ["", "Collections:"]) ++ collections) := by
  refine ⟨i.counts.map fun c => "  " ++ padded 15 c.1 ++ toString c.2,
    i.collections.map fun c => "  " ++ padded 24 c.1 ++ " " ++ toString c.2 ++ " documents", ?_, ?_, ?_⟩
  · exact List.forall₂_map_right_iff.mpr (List.forall₂_same.mpr fun c _ => ⟨_, cell_padded _ _, rfl⟩)
  · exact List.forall₂_map_right_iff.mpr (List.forall₂_same.mpr fun c _ => ⟨_, cell_padded _ _, rfl⟩)
  · have hlabels : ["Nouns:", "Verbs:", "Things:", "Actions:", "Relationships:"].map
        (fun name => "  " ++ padded 15 name) = ["  Nouns:         ", "  Verbs:         ",
          "  Things:        ", "  Actions:       ", "  Relationships: "] := by decide +kernel
    simp only [List.map_cons, List.map_nil, List.cons.injEq] at hlabels
    refine congrArg lines ?_
    cases hc : i.collections <;> simp [counts, collectionLines, hc, hlabels]

end Inspection

/-- Whatever a command answers has been read, or can be. -/
theorem Command.returns_call {command : Command} {x : GraphM Answer} (hcall : command.call = .ok x) :
    Returns Answer.Legible x := by
  cases command with
  | collections =>
    cases hcall
    exact (returns_any _).map fun _ _ => trivial
  | keys c =>
    cases hcall
    exact (returns_any _).map fun _ _ => trivial
  | get c id =>
    cases hcall
    exact (returns_onStore (Collection.returns_get ⟨c⟩ id)).map fun _ h => h
  | put c id json =>
    obtain ⟨doc, -, rfl⟩ := ok_of_call_put hcall
    exact (returns_any _).map fun _ _ => trivial
  | delete c id =>
    cases hcall
    exact (returns_any _).map fun _ _ => trivial
  | find c filter sort limit offset =>
    obtain ⟨j, -, rfl⟩ := ok_of_call_find hcall
    exact (returns_onStore (Collection.returns_find ⟨c⟩ j _)).map fun _ h => h
  | things type limit =>
    cases hcall
    exact (returns_findThings type .null _).map fun _ h => h
  | traverse id verb back =>
    cases hcall
    have hstep : Returns AllLegible
        (if back then Graph.traverseBack id verb else Graph.traverse id verb) := by
      split
      · exact returns_traverseBack id verb
      · exact returns_traverse id verb
    exact hstep.map fun _ h => h
  | history id =>
    cases hcall
    exact (returns_actionsOf id).map fun _ h => h
  | stats =>
    cases hcall
    exact returns_pure trivial
  | version =>
    cases hcall
    exact returns_pure trivial

end CommandLine

end DocumentGraph
