import DocumentGraph.Graph.Basic
import DocumentGraph.Proofs.Record.Filing
import DocumentGraph.Proofs.Record.Reread
set_option autoImplicit false

/-!
# The kinds of records

A graph stores five kinds of records, each in a collection of its own. A record of any kind reads back
as itself, except that an optional value of null reads as not set.
-/

namespace DocumentGraph

open DocumentGraph.Graph

/-- A record of any kind that a graph stores. -/
inductive GraphRecord where
  | noun (n : Noun)
  | verb (v : Verb)
  | thing (t : Thing)
  | action (a : Action)
  | relationship (r : Relationship)

namespace GraphRecord

def collection : GraphRecord → Collection
  | noun _ => nounCollection
  | verb _ => verbCollection
  | thing _ => thingCollection
  | action _ => actionCollection
  | relationship _ => relationshipCollection

def filed : GraphRecord → String × Json
  | noun n => Record.filed n
  | verb v => Record.filed v
  | thing t => Record.filed t
  | action a => Record.filed a
  | relationship r => Record.filed r

def key (x : GraphRecord) : String := x.filed.1

def document (x : GraphRecord) : Json := x.filed.2

def readBack : GraphRecord → GraphRecord
  | noun n => noun n.readBack
  | verb v => verb v
  | thing t => thing t
  | action a => action a.readBack
  | relationship r => relationship r.readBack

def payload : GraphRecord → Option Json
  | noun n => n.schema
  | verb _ => none
  | thing _ => none
  | action a => a.data
  | relationship r => r.data

theorem collection_name_mem (x : GraphRecord) : x.collection.name ∈ collectionNames := by
  cases x <;> simp [collection, collectionNames]

theorem exists_of_name (x : GraphRecord) :
    (x.collection.name = nounCollection.name → ∃ n, noun n = x) ∧
      (x.collection.name = verbCollection.name → ∃ v, verb v = x) ∧
      (x.collection.name = thingCollection.name → ∃ t, thing t = x) ∧
      (x.collection.name = actionCollection.name → ∃ a, action a = x) ∧
      (x.collection.name = relationshipCollection.name → ∃ r, relationship r = x) := by
  cases x <;>
    simp [collection, nounCollection, verbCollection, thingCollection, actionCollection,
      relationshipCollection]

@[simp] theorem collection_readBack (x : GraphRecord) : x.readBack.collection = x.collection := by
  cases x <;> rfl

@[simp] theorem key_readBack (x : GraphRecord) : x.readBack.key = x.key := by
  cases x <;> rfl

theorem readBack_eq_self {x : GraphRecord} (h : x.payload ≠ some .null) : x.readBack = x := by
  have hkept {data : Option Json} (hdata : data ≠ some .null) : unlessNull data = data := by
    cases data with
    | none => rfl
    | some j => cases j with
      | null => exact absurd rfl hdata
      | _ => rfl
  cases x with
  | noun n => exact congrArg (fun schema => noun { n with schema := schema }) (hkept h)
  | verb v => rfl
  | thing t => rfl
  | action a =>
    exact congrArg (fun data => action { a with data := data }) (hkept h)
  | relationship r => exact congrArg (fun data => relationship { r with data := data }) (hkept h)

end GraphRecord

/-- Records of one kind: those of their collection, and how they read back. -/
class Kept (α : Type) [Record α] extends Codec α where
  wrap : α → GraphRecord
  collection : Collection
  collection_wrap : ∀ r, (wrap r).collection = collection
  filed_wrap : ∀ r, (wrap r).filed = Record.filed r
  readBack_wrap : ∀ r, (wrap r).readBack = wrap (readBack r)
  exists_wrap : ∀ x : GraphRecord, x.collection.name = collection.name → ∃ r, wrap r = x
  key_readBack : ∀ r : α, Record.key (readBack r) = Record.key r
  readBack_readBack : ∀ r : α, readBack (readBack r) = readBack r
  document_injective : Function.Injective (Record.document (α := α))

instance : Kept Noun where
  wrap := .noun
  collection := nounCollection
  collection_wrap _ := rfl
  filed_wrap _ := rfl
  readBack_wrap _ := rfl
  exists_wrap x h := x.exists_of_name.1 h
  key_readBack _ := rfl
  readBack_readBack n := congrArg (fun schema => { n with schema := schema }) (unlessNull_unlessNull _)
  document_injective := Noun.document_injective

instance : Kept Verb where
  wrap := .verb
  collection := verbCollection
  collection_wrap _ := rfl
  filed_wrap _ := rfl
  readBack_wrap _ := rfl
  exists_wrap x h := x.exists_of_name.2.1 h
  key_readBack _ := rfl
  readBack_readBack _ := rfl
  document_injective _ _ h := Record.eq_of_document Verb.ofDocument_document h

instance : Kept Thing where
  wrap := .thing
  collection := thingCollection
  collection_wrap _ := rfl
  filed_wrap _ := rfl
  readBack_wrap _ := rfl
  exists_wrap x h := x.exists_of_name.2.2.1 h
  key_readBack _ := rfl
  readBack_readBack _ := rfl
  document_injective _ _ h := Record.eq_of_document Thing.ofDocument_document h

instance : Kept Action where
  wrap := .action
  collection := actionCollection
  collection_wrap _ := rfl
  filed_wrap _ := rfl
  readBack_wrap _ := rfl
  exists_wrap x h := x.exists_of_name.2.2.2.1 h
  key_readBack _ := rfl
  readBack_readBack a := congrArg (fun data => { a with data := data }) (unlessNull_unlessNull _)
  document_injective := Action.document_injective

instance : Kept Relationship where
  wrap := .relationship
  collection := relationshipCollection
  collection_wrap _ := rfl
  filed_wrap _ := rfl
  readBack_wrap _ := rfl
  exists_wrap x h := x.exists_of_name.2.2.2.2 h
  key_readBack _ := rfl
  readBack_readBack r := congrArg (fun data => { r with data := data }) (unlessNull_unlessNull _)
  document_injective := Relationship.document_injective

theorem Kept.filed_injective {α : Type} [Record α] [Kept α] :
    Function.Injective (Record.filed (α := α)) :=
  fun _ _ h => document_injective (congrArg Prod.snd h)

theorem GraphRecord.eq_of_document {x y : GraphRecord} (hname : x.collection.name = y.collection.name)
    (h : x.document = y.document) : x = y := by
  cases x with
  | noun n =>
    obtain ⟨m, rfl⟩ := Kept.exists_wrap (α := Noun) y hname.symm
    exact congrArg noun (Kept.document_injective h)
  | verb v =>
    obtain ⟨w, rfl⟩ := Kept.exists_wrap (α := Verb) y hname.symm
    exact congrArg verb (Kept.document_injective h)
  | thing t =>
    obtain ⟨u, rfl⟩ := Kept.exists_wrap (α := Thing) y hname.symm
    exact congrArg thing (Kept.document_injective h)
  | action a =>
    obtain ⟨b, rfl⟩ := Kept.exists_wrap (α := Action) y hname.symm
    exact congrArg action (Kept.document_injective h)
  | relationship r =>
    obtain ⟨q, rfl⟩ := Kept.exists_wrap (α := Relationship) y hname.symm
    exact congrArg relationship (Kept.document_injective h)

end DocumentGraph
