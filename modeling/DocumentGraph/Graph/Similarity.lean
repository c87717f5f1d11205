import DocumentGraph.Graph.Traversal
set_option autoImplicit false

/-!
# Relating by similarity

Instead of an id a text is given, and the matcher proposes things that may be meant. The most
similar one that reaches the threshold is taken, the earliest of several equally similar ones; if
there is none a new thing is created.
-/

namespace DocumentGraph

namespace Matcher

/-- A matcher that knows answers by type and text, or fails every time. -/
def scripted (answers : List ((String × String) × List Candidate)) (failure : Option String) :
    Matcher := fun q =>
  match failure with
  | some message => .error message
  | none => .ok ((answers.lookup (q.type, q.text)).getD [])

end Matcher

namespace Candidate

/-- The better of two candidates, the first one unless the second is more similar. -/
def better (a b : Candidate) : Candidate := if a.similarity.less b.similarity then b else a

/-- The earliest of the most similar candidates that reach the threshold. -/
def best (threshold : Binary64) (cs : List Candidate) : Option Candidate :=
  match cs.filter fun c => threshold.atMost c.similarity with
  | [] => none
  | c :: rest => some (rest.foldl better c)

end Candidate

namespace Graph

structure FuzzyRelation where
  created : Bool
  thing : Thing
  relationship : Relationship

/-- Asks the matcher, which remembers the question even when it fails. -/
def ask (type text : String) (threshold : Option Binary64) :
    GraphM (Binary64 × List Candidate) := fun g =>
  match g.matcher with
  | none => (.error (.configuration .noMatcher), g)
  | some m =>
    let t := threshold.getD g.store.config.effectiveThreshold
    let q : Question := ⟨type, text, t⟩
    let g := { g with asked := g.asked ++ [q] }
    match m q with
    | .ok candidates => (.ok (t, candidates), g)
    | .error message => (.error (.matcher message), g)

def fuzzyRelate (source verb type text : String) (data : Option Json)
    (threshold : Option Binary64) : GraphM FuzzyRelation := do
  let (t, candidates) ← ask type text threshold
  let (created, target) ← match Candidate.best t candidates with
    | some c => pure (false, c.thing)
    | none => do
      let thing ← createThing type (data.getD (.object [("text", .string text)])) none
      pure (true, thing)
  let relationship ← relate source verb target.id .fuzzy none
  return ⟨created, target, relationship⟩

end Graph

end DocumentGraph
