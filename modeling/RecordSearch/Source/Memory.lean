import RecordSearch.Search

/-!
Records in memory. `Memory` is lazy: it keeps all records and remembers the predicates, which are
tested when its hits are asked for. A list is eager: narrowing drops the records that fail.
-/
namespace RecordSearch

/-- Records with the predicates that have narrowed them. -/
structure Memory (α : Type) where
  items : List α
  predicates : List Predicate

namespace Memory

variable {α : Type}

/-- All records, not narrowed yet. -/
def ofList (items : List α) : Memory α := ⟨items, []⟩

def isIdentity (memory : Memory α) : Bool := memory.predicates.isEmpty

def accepts [Searchable α] (memory : Memory α) (item : α) : Bool :=
  memory.predicates.all fun p => p.accepts item

/-- The records that pass, in their order. -/
def hits [Searchable α] (memory : Memory α) : List α := memory.items.filter memory.accepts

def count [Searchable α] (memory : Memory α) : Nat := memory.hits.length

/-- The hits of the given chunks, gathered in order. Each chunk is filtered alone, so they may be
worked on at once. -/
def hitsOf [Searchable α] (memory : Memory α) (chunks : List (List α)) : List α :=
  (chunks.map fun chunk => chunk.filter memory.accepts).flatten

def halves (items : List α) : List (List α) :=
  [items.take (items.length / 2), items.drop (items.length / 2)]

/-- The hits, gathered from the two halves of the records. -/
def parallelHits [Searchable α] (memory : Memory α) : List α := memory.hitsOf (halves memory.items)

@[simp]
theorem flatten_halves (items : List α) : (halves items).flatten = items := by simp [halves]

/-- How the records are cut into chunks does not matter. -/
theorem hitsOf_eq_hits [Searchable α] (memory : Memory α) {chunks : List (List α)}
    (h : chunks.flatten = memory.items) : memory.hitsOf chunks = memory.hits := by
  simp [hitsOf, hits, ← h, List.filter_flatten]

def narrow (memory : Memory α) (p : Predicate) : Memory α :=
  { memory with predicates := memory.predicates ++ [p] }

/-- Narrowing filters the hits. -/
theorem hits_narrow [Searchable α] (memory : Memory α) (p : Predicate) :
    (memory.narrow p).hits = memory.hits.filter p.accepts := by
  simp only [hits, narrow, List.filter_filter]
  congr 1
  funext item
  simp [accepts, Bool.and_comm]

end Memory

instance {α : Type} [Searchable α] : Source (Memory α) SearchError where
  schema := Searchable.schema α
  ofSearchError := id
  narrow memory p := pure (memory.narrow p)

instance {α : Type} [Searchable α] : Source (List α) SearchError where
  schema := Searchable.schema α
  ofSearchError := id
  narrow items p := pure (items.filter p.accepts)

end RecordSearch
