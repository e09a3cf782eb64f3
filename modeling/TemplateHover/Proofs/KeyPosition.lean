import TemplateHover.Yaml.KeySearch

namespace TemplateHover.Yaml

/-- A node of a document. Keys of mappings may be collections themselves. -/
inductive Node where
  | scalar (leaf : Scalar)
  | alias
  | sequence (items : List Node)
  | mapping (pairs : List (Node × Node))

/-- What a node is to the collection right around it, or the root of its document. -/
inductive Role where
  | root
  | item
  | key
  | value
deriving DecidableEq, Repr

namespace Node

mutual

/-- The events of a node. A collection stands between its start and its end. -/
def events : Node → List Event
  | .scalar leaf => [.scalar leaf]
  | .alias => [.alias]
  | .sequence items => .sequenceStart :: (itemEvents items ++ [.sequenceEnd])
  | .mapping pairs => .mappingStart :: (pairEvents pairs ++ [.mappingEnd])

def itemEvents : List Node → List Event
  | [] => []
  | item :: items => item.events ++ itemEvents items

def pairEvents : List (Node × Node) → List Event
  | [] => []
  | (key, value) :: pairs => key.events ++ value.events ++ pairEvents pairs

end

mutual

/-- The scalars of a node in the order of the document, each with its role. -/
def scalars (role : Role) : Node → List (Scalar × Role)
  | .scalar leaf => [(leaf, role)]
  | .alias => []
  | .sequence items => itemScalars items
  | .mapping pairs => pairScalars pairs

def itemScalars : List Node → List (Scalar × Role)
  | [] => []
  | item :: items => item.scalars .item ++ itemScalars items

def pairScalars : List (Node × Node) → List (Scalar × Role)
  | [] => []
  | (key, value) :: pairs => key.scalars .key ++ value.scalars .value ++ pairScalars pairs

end

/-- The events of a document with the given root. -/
def documentEvents (root : Node) : List Event :=
  .documentStart :: (root.events ++ [.documentEnd])

/-- The events of a stream of documents. -/
def streamEvents (documents : List Node) : List Event :=
  .streamStart :: (documents.flatMap documentEvents ++ [.streamEnd])

end Node

/-- Whether the first scalar that covers the position is a key, if any scalar covers it. -/
def firstCovering (covers : Scalar → Bool) (scalars : List (Scalar × Role)) : Option Bool :=
  (scalars.find? fun entry => covers entry.1).map fun entry => entry.2 = .key

theorem firstCovering_nil (covers : Scalar → Bool) : firstCovering covers [] = none :=
  rfl

theorem firstCovering_append (covers : Scalar → Bool) (before after : List (Scalar × Role)) :
    firstCovering covers (before ++ after) =
      (firstCovering covers before).or (firstCovering covers after) := by
  unfold firstCovering
  rw [List.find?_append, Option.map_or]

namespace KeySearch

theorem step_scalar (covers : Scalar → Bool) (frames : List Frame) (found : Option Bool)
    (leaf : Scalar) {role : Role} (inRole : inKey ⟨frames, found⟩ = decide (role = .key)) :
    step covers ⟨frames, found⟩ (.scalar leaf) =
      nodeDone ⟨frames, found.or (firstCovering covers [(leaf, role)])⟩ := by
  unfold step firstCovering
  rw [inRole]
  cases found with
  | some isKey => rfl
  | none => cases covered : covers leaf <;> simp [covered]

mutual

/-- The events of a node leave the collections around it as they were, but for the mapping right
around it, which turns from key to value or back. The first scalar that covers the position is
found on the way, unless one was found before. -/
theorem foldl_events (covers : Scalar → Bool) (frames : List Frame) (found : Option Bool)
    (role : Role) (inRole : inKey ⟨frames, found⟩ = decide (role = .key)) : (node : Node) →
    node.events.foldl (step covers) ⟨frames, found⟩ =
      nodeDone ⟨frames, found.or (firstCovering covers (node.scalars role))⟩
  | .scalar leaf => by
    rw [Node.events, Node.scalars, ← step_scalar covers frames found leaf inRole]
    rfl
  | .alias => by
    rw [Node.events, Node.scalars, firstCovering_nil, Option.or_none]
    rfl
  | .sequence items => by
    rw [Node.events, Node.scalars, List.foldl_cons, List.foldl_append]
    simp only [step, foldl_itemEvents covers frames found items]
    rfl
  | .mapping pairs => by
    rw [Node.events, Node.scalars, List.foldl_cons, List.foldl_append]
    simp only [step, foldl_pairEvents covers frames found pairs]
    rfl

theorem foldl_itemEvents (covers : Scalar → Bool) (frames : List Frame) (found : Option Bool) :
    (items : List Node) →
    (Node.itemEvents items).foldl (step covers) ⟨.sequence :: frames, found⟩ =
      ⟨.sequence :: frames, found.or (firstCovering covers (Node.itemScalars items))⟩
  | [] => by
    rw [Node.itemEvents, Node.itemScalars, firstCovering_nil, Option.or_none]
    rfl
  | item :: items => by
    rw [Node.itemEvents, Node.itemScalars, firstCovering_append, ← Option.or_assoc,
      List.foldl_append, foldl_events covers _ found .item rfl item]
    exact foldl_itemEvents covers frames _ items

theorem foldl_pairEvents (covers : Scalar → Bool) (frames : List Frame) (found : Option Bool) :
    (pairs : List (Node × Node)) →
    (Node.pairEvents pairs).foldl (step covers) ⟨.mapping true :: frames, found⟩ =
      ⟨.mapping true :: frames, found.or (firstCovering covers (Node.pairScalars pairs))⟩
  | [] => by
    rw [Node.pairEvents, Node.pairScalars, firstCovering_nil, Option.or_none]
    rfl
  | (key, value) :: pairs => by
    rw [Node.pairEvents, Node.pairScalars, firstCovering_append, firstCovering_append,
      ← Option.or_assoc, ← Option.or_assoc, List.foldl_append, List.foldl_append,
      foldl_events covers _ found .key rfl key]
    -- the key has turned the mapping to its value, and the value turns it back
    simp only [nodeDone, Bool.not_true]
    rw [foldl_events covers _ _ .value rfl value]
    exact foldl_pairEvents covers frames _ pairs

end

theorem foldl_documents (covers : Scalar → Bool) (documents : List Node) (found : Option Bool) :
    (documents.flatMap Node.documentEvents).foldl (step covers) ⟨[], found⟩ =
      ⟨[], found.or (firstCovering covers (documents.flatMap (Node.scalars .root)))⟩ := by
  induction documents generalizing found with
  | nil => simp [firstCovering_nil]
  | cons root rest ih =>
    rw [List.flatMap_cons, List.flatMap_cons, firstCovering_append, ← Option.or_assoc,
      List.foldl_append, ← ih]
    unfold Node.documentEvents
    simp only [List.foldl_cons, List.foldl_append, step, foldl_events covers [] found .root rfl]
    rfl

/-- The search over the events of a stream of documents ends with the role of the first scalar, in
the order of the documents, that covers the position, and outside of all collections. Every
document starts outside of all collections, whatever was in the documents before it. Each node, be
it an alias, turns the mapping around it and changes no other collection. -/
theorem run_streamEvents (documents : List Node) (text : String) (position : Position) :
    let covers (scalar : Scalar) : Bool := scalar.covers (lines text.toList) position
    run covers (Node.streamEvents documents) =
        ⟨[], ((documents.flatMap (Node.scalars .root)).find? fun entry => covers entry.1).map
          fun entry => entry.2 = .key⟩ ∧
      (∀ earlier : List Node,
        ((.streamStart :: earlier.flatMap Node.documentEvents).foldl (step covers) start).frames =
          []) ∧
      ∀ (node : Node) (search : KeySearch),
        (node.events.foldl (step covers) search).frames =
          match search.frames with
          | .mapping expectsKey :: frames => .mapping (!expectsKey) :: frames
          | frames => frames := by
  intro covers
  refine ⟨?_, ?_, ?_⟩
  · unfold run Node.streamEvents start
    simp only [List.foldl_cons, List.foldl_append, step, foldl_documents, Option.none_or]
    rfl
  · intro earlier
    simp only [start, List.foldl_cons, step, foldl_documents]
  · intro node search
    obtain ⟨frames, found⟩ := search
    obtain ⟨role, inRole⟩ : ∃ role : Role, inKey ⟨frames, found⟩ = decide (role = .key) := by
      cases inKey ⟨frames, found⟩
      · exact ⟨.root, rfl⟩
      · exact ⟨.key, rfl⟩
    rw [foldl_events covers frames found role inRole node]
    cases frames with
    | nil => rfl
    | cons frame outer => cases frame <;> rfl

end KeySearch

end TemplateHover.Yaml
