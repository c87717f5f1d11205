import DocumentGraph.Proofs.Record.Action
import DocumentGraph.Proofs.Record.Note
import DocumentGraph.Proofs.Record.Relationship
import DocumentGraph.Proofs.Record.Thing
set_option autoImplicit false

namespace DocumentGraph

class Described (α : Type) [Record α] where
  IsReadFrom : List (String × Json) → α → Prop
  build_eq_ok : ∀ {ms : List (String × Json)} {r : α}, Record.build ms = .ok r ↔ IsReadFrom ms r
  tested : ∀ {ms : List (String × Json)} {r : α}, IsReadFrom ms r →
    ∀ k ∈ Record.known (α := α), ∀ j, Json.lookup k.1 ms = some j → k.2 j = .ok ()

theorem Described.ofDocument_eq_ok {α : Type} [Record α] [Described α] {ms : List (String × Json)}
    (hms : Json.Ascending ms) {r : α} : Record.ofDocument (.object ms) = .ok r ↔ IsReadFrom ms r := by
  rw [Record.ofDocument_eq_ok hms fun h => tested (build_eq_ok.mp h), build_eq_ok]

structure Noun.IsReadFrom (ms : List (String × Json)) (n : Noun) : Prop where
  name : Json.lookup "name" ms = some (.string n.name)
  description : unlessNull (Json.lookup "description" ms) = n.description.map .string
  schema : unlessNull (Json.lookup "schema" ms) = n.schema
  createdAt : Json.lookup "createdAt" ms = some (.number (.ofInt64 n.createdAt))

structure Verb.IsReadFrom (ms : List (String × Json)) (v : Verb) : Prop where
  name : Json.lookup "name" ms = some (.string v.name)
  description : unlessNull (Json.lookup "description" ms) = v.description.map .string
  cascade : (Json.lookup "cascade" ms).elim (v.cascade = .direct) v.cascade.IsNamedBy
  fromTypes : unlessNull (Json.lookup "fromTypes" ms) = v.fromTypes.map textsJson
  toTypes : unlessNull (Json.lookup "toTypes" ms) = v.toTypes.map textsJson

structure Thing.IsReadFrom (ms : List (String × Json)) (t : Thing) : Prop where
  id : Json.lookup "id" ms = some (.string t.id)
  type : Json.lookup "type" ms = some (.string t.type)
  data : Json.lookup "data" ms = some (.object t.data)
  version : Json.lookup "version" ms = some (.number (.ofUInt64 t.version))
  createdAt : Json.lookup "createdAt" ms = some (.number (.ofInt64 t.createdAt))
  updatedAt : Json.lookup "updatedAt" ms = some (.number (.ofInt64 t.updatedAt))

structure Action.IsReadFrom (ms : List (String × Json)) (a : Action) : Prop where
  id : Json.lookup "id" ms = some (.string a.id)
  verb : Json.lookup "verb" ms = some (.string a.verb)
  source : unlessNull (Json.lookup "from" ms) = a.source.map .string
  target : unlessNull (Json.lookup "to" ms) = a.target.map .string
  data : unlessNull (Json.lookup "data" ms) = a.data
  actor : unlessNull (Json.lookup "by" ms) = a.actor.map .string
  time : Json.lookup "at" ms = some (.number (.ofInt64 a.time))

structure Relationship.IsReadFrom (ms : List (String × Json)) (r : Relationship) : Prop where
  id : Json.lookup "id" ms = some (.string r.id)
  source : Json.lookup "from" ms = some (.string r.source)
  verb : Json.lookup "verb" ms = some (.string r.verb)
  target : Json.lookup "to" ms = some (.string r.target)
  cascade : ∃ j, Json.lookup "cascade" ms = some j ∧ r.cascade.IsNamedBy j
  data : unlessNull (Json.lookup "data" ms) = r.data
  createdAt : Json.lookup "createdAt" ms = some (.number (.ofInt64 r.createdAt))

structure Note.IsReadFrom (ms : List (String × Json)) (n : Note) : Prop where
  id : Json.lookup "id" ms = some (.string n.id)
  body : Json.lookup "body" ms = some (.string n.body)
  stars : Json.lookup "stars" ms = some (.number (.ofUInt32 n.stars))
  tags : unlessNull (Json.lookup "tags" ms) = n.tags.map textsJson

section Tests

open Decoder

variable {ms : List (String × Json)} {key : String} {j : Json}

theorem probe_text {text : String} (h : Json.lookup key ms = some (.string text))
    (hj : Json.lookup key ms = some j) : probe string j = .ok () :=
  probe_of_required (string_reverses.required.mpr h) hj

theorem probe_time {time : Int64} (h : Json.lookup key ms = some (.number (.ofInt64 time)))
    (hj : Json.lookup key ms = some j) : probe int64 j = .ok () :=
  probe_of_required (int64_reverses.required.mpr h) hj

theorem probe_optionalText {text : Option String}
    (h : unlessNull (Json.lookup key ms) = text.map .string) (hj : Json.lookup key ms = some j) :
    probe (optional string) j = .ok () :=
  probe_of_optional (optionalText.mpr h) hj

theorem probe_optionalTexts {texts : Option (List String)}
    (h : unlessNull (Json.lookup key ms) = texts.map textsJson) (hj : Json.lookup key ms = some j) :
    probe (optional (list string)) j = .ok () :=
  probe_of_optional (optionalTexts.mpr h) hj

theorem probe_kind {k : Cascade} (h : k.IsNamedBy j) : probe Cascade.decoder j = .ok () :=
  probe_of_ok (Cascade.decoder_eq_ok.mpr h)

end Tests

theorem cascadeOrDirect_eq_ok {ms : List (String × Json)} {k : Cascade} : cascadeOrDirect ms = .ok k ↔
    (Json.lookup "cascade" ms).elim (k = .direct) k.IsNamedBy := by
  unfold cascadeOrDirect
  cases Json.lookup "cascade" ms with
  | none => simp [eq_comm]
  | some j => exact Cascade.decoder_eq_ok

open Decoder

instance : Described Noun where
  IsReadFrom := Noun.IsReadFrom
  build_eq_ok := by
    intro ms n
    simp only [Record.build, bind_eq_ok, string_reverses.required, optionalText, payload,
      int64_reverses.required]
    constructor
    · rintro ⟨_, hname, _, hdescription, _, hschema, _, hcreated, h⟩
      cases h
      exact ⟨hname, hdescription, hschema, hcreated⟩
    · rintro ⟨hname, hdescription, hschema, hcreated⟩
      exact ⟨_, hname, _, hdescription, _, hschema, _, hcreated, rfl⟩
  tested := by
    intro ms n h
    simp only [Record.known, List.forall_mem_cons]
    exact ⟨fun _ => probe_text h.name, fun _ => probe_optionalText h.description, fun _ _ => rfl,
      fun _ => probe_time h.createdAt, List.forall_mem_nil _⟩

instance : Described Verb where
  IsReadFrom := Verb.IsReadFrom
  build_eq_ok := by
    intro ms v
    simp only [Record.build, bind_eq_ok, string_reverses.required, optionalText, optionalTexts,
      cascadeOrDirect_eq_ok]
    constructor
    · rintro ⟨_, hname, _, hdescription, _, hcascade, _, hfrom, _, hto, h⟩
      cases h
      exact ⟨hname, hdescription, hcascade, hfrom, hto⟩
    · rintro ⟨hname, hdescription, hcascade, hfrom, hto⟩
      exact ⟨_, hname, _, hdescription, _, hcascade, _, hfrom, _, hto, rfl⟩
  tested := by
    intro ms v h
    have hcascade (j : Json) (hj : Json.lookup "cascade" ms = some j) :
        probe Cascade.decoder j = .ok () := by
      have hkind := h.cascade
      rw [hj] at hkind
      exact probe_kind hkind
    simp only [Record.known, List.forall_mem_cons]
    exact ⟨fun _ => probe_text h.name, fun _ => probe_optionalText h.description, hcascade,
      fun _ => probe_optionalTexts h.fromTypes, fun _ => probe_optionalTexts h.toTypes,
      List.forall_mem_nil _⟩

instance : Described Thing where
  IsReadFrom := Thing.IsReadFrom
  build_eq_ok := by
    intro ms t
    simp only [Record.build, bind_eq_ok, string_reverses.required, members_reverses.required,
      uint64_reverses.required, int64_reverses.required]
    constructor
    · rintro ⟨_, hid, _, htype, _, hdata, _, hversion, _, hcreated, _, hupdated, h⟩
      cases h
      exact ⟨hid, htype, hdata, hversion, hcreated, hupdated⟩
    · rintro ⟨hid, htype, hdata, hversion, hcreated, hupdated⟩
      exact ⟨_, hid, _, htype, _, hdata, _, hversion, _, hcreated, _, hupdated, rfl⟩
  tested := by
    intro ms t h
    simp only [Record.known, List.forall_mem_cons]
    exact ⟨fun _ => probe_text h.id, fun _ => probe_text h.type,
      fun _ => probe_of_required (members_reverses.required.mpr h.data),
      fun _ => probe_of_required (uint64_reverses.required.mpr h.version),
      fun _ => probe_time h.createdAt, fun _ => probe_time h.updatedAt, List.forall_mem_nil _⟩

instance : Described Action where
  IsReadFrom := Action.IsReadFrom
  build_eq_ok := by
    intro ms a
    simp only [Record.build, bind_eq_ok, string_reverses.required, optionalText, payload,
      int64_reverses.required]
    constructor
    · rintro ⟨_, hid, _, hverb, _, hsource, _, htarget, _, hdata, _, hactor, _, htime, h⟩
      cases h
      exact ⟨hid, hverb, hsource, htarget, hdata, hactor, htime⟩
    · rintro ⟨hid, hverb, hsource, htarget, hdata, hactor, htime⟩
      exact ⟨_, hid, _, hverb, _, hsource, _, htarget, _, hdata, _, hactor, _, htime, rfl⟩
  tested := by
    intro ms a h
    simp only [Record.known, List.forall_mem_cons]
    exact ⟨fun _ => probe_text h.id, fun _ => probe_text h.verb, fun _ => probe_optionalText h.source,
      fun _ => probe_optionalText h.target, fun _ _ => rfl, fun _ => probe_optionalText h.actor,
      fun _ => probe_time h.time, List.forall_mem_nil _⟩

instance : Described Relationship where
  IsReadFrom := Relationship.IsReadFrom
  build_eq_ok := by
    intro ms r
    simp only [Record.build, bind_eq_ok, string_reverses.required, Cascade.required_eq_ok, payload,
      int64_reverses.required]
    constructor
    · rintro ⟨_, hid, _, hsource, _, hverb, _, htarget, _, hcascade, _, hdata, _, hcreated, h⟩
      cases h
      exact ⟨hid, hsource, hverb, htarget, hcascade, hdata, hcreated⟩
    · rintro ⟨hid, hsource, hverb, htarget, hcascade, hdata, hcreated⟩
      exact ⟨_, hid, _, hsource, _, hverb, _, htarget, _, hcascade, _, hdata, _, hcreated, rfl⟩
  tested := by
    intro ms r h
    have hcascade (j : Json) (hj : Json.lookup "cascade" ms = some j) :
        probe Cascade.decoder j = .ok () := by
      obtain ⟨k, hk, hkind⟩ := h.cascade
      rw [hj] at hk
      cases hk
      exact probe_kind hkind
    simp only [Record.known, List.forall_mem_cons]
    exact ⟨fun _ => probe_text h.id, fun _ => probe_text h.source, fun _ => probe_text h.verb,
      fun _ => probe_text h.target, hcascade, fun _ _ => rfl, fun _ => probe_time h.createdAt,
      List.forall_mem_nil _⟩

instance : Described Note where
  IsReadFrom := Note.IsReadFrom
  build_eq_ok := by
    intro ms n
    simp only [Record.build, bind_eq_ok, string_reverses.required, uint32_reverses.required,
      optionalTexts]
    constructor
    · rintro ⟨_, hid, _, hbody, _, hstars, _, htags, h⟩
      cases h
      exact ⟨hid, hbody, hstars, htags⟩
    · rintro ⟨hid, hbody, hstars, htags⟩
      exact ⟨_, hid, _, hbody, _, hstars, _, htags, rfl⟩
  tested := by
    intro ms n h
    simp only [Record.known, List.forall_mem_cons]
    exact ⟨fun _ => probe_text h.id, fun _ => probe_text h.body,
      fun _ => probe_of_required (uint32_reverses.required.mpr h.stars),
      fun _ => probe_optionalTexts h.tags, List.forall_mem_nil _⟩

end DocumentGraph
