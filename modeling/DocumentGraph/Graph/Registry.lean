import DocumentGraph.Graph.Basic
set_option autoImplicit false

/-!
# Registries of nouns and verbs

Defining a noun or verb stores it and remembers it; a noun that was defined before keeps the time of
its first definition. Looking one up asks the memory first and remembers what it finds in the store
under the name that the record itself has.
-/

namespace DocumentGraph.Graph

def rememberNoun (n : Noun) : GraphM Unit :=
  modify fun g => { g with nounCache := g.nounCache.insert n.name n }

def rememberVerb (v : Verb) : GraphM Unit :=
  modify fun g => { g with verbCache := g.verbCache.insert v.name v }

def recalledNoun (name : String) : GraphM (Option Noun) := fun g =>
  (.ok (g.nounCache.find? name), g)

def recalledVerb (name : String) : GraphM (Option Verb) := fun g =>
  (.ok (g.verbCache.find? name), g)

def noun (name : String) : GraphM (Option Noun) := do
  match ← recalledNoun name with
  | some n => return some n
  | none =>
    let found : Option Noun ← onStore (nounCollection.getRecord name)
    match found with
    | some n =>
      rememberNoun n
      return some n
    | none => return none

def verb (name : String) : GraphM (Option Verb) := do
  match ← recalledVerb name with
  | some v => return some v
  | none =>
    let found : Option Verb ← onStore (verbCollection.getRecord name)
    match found with
    | some v =>
      rememberVerb v
      return some v
    | none => return none

def hasNoun (name : String) : GraphM Bool := do return (← noun name).isSome

def hasVerb (name : String) : GraphM Bool := do return (← verb name).isSome

def defineNoun (name : String) (d : NounDefinition) : GraphM Noun := do
  check (validId name)
  let createdAt ← match ← noun name with
    | some old => pure old.createdAt
    | none => now
  let n : Noun := ⟨name, d.description, d.schema, createdAt⟩
  onStore (nounCollection.putRecord n)
  rememberNoun n
  return n

def defineVerb (name : String) (d : VerbDefinition) : GraphM Verb := do
  check (validId name)
  let v : Verb := ⟨name, d.description, d.cascade, d.fromTypes, d.toTypes⟩
  onStore (verbCollection.putRecord v)
  rememberVerb v
  return v

def nouns : GraphM (List Noun) := onStore (nounCollection.findRecords .all .unrestricted)

def verbs : GraphM (List Verb) := onStore (verbCollection.findRecords .all .unrestricted)

end DocumentGraph.Graph
