import RecordSearch.Proofs.Source.Narrowing
import RecordSearch.Request

/-!
# Lazy and eager sources agree

The same requests, put to records held lazily and to the same records held eagerly, come to the same
errors and to the same hits, whatever is asked and however often it fails.

## Main result

`runAll_agreement`: after any run the two sources agree.

## Proof strategy

A simulation. Both sources are described by the predicates that have narrowed them so far: the lazy
one holds them, the eager one holds the records that pass them. A request adds its predicates to
both, or none if it fails.
-/
namespace RecordSearch

namespace Request

def predicates (schema : Schema) : Request → Except SearchError (List Predicate)
  | search query options fields => Predicate.ofQuery schema query options fields
  | narrow p => .ok [p]

/-- The predicates that a request narrows a source in memory by, none if it fails. -/
def narrowed (schema : Schema) (request : Request) : List Predicate :=
  match request.predicates schema with
  | .ok predicates => predicates
  | .error _ => []

end Request

variable {α : Type} [Searchable α]

def Predicate.allAccept (predicates : List Predicate) (item : α) : Bool :=
  predicates.all fun p => p.accepts item

theorem Predicate.allAccept_append (first second : List Predicate) (item : α) :
    allAccept (first ++ second) item = (allAccept first item && allAccept second item) :=
  List.all_append

/-! ### One request -/

theorem Memory.result_run (request : Request) (memory : Memory α) :
    (request.run memory).result =
      (request.predicates (Searchable.schema α)).map fun predicates =>
        ⟨memory.items, memory.predicates ++ predicates⟩ := by
  cases request with
  | search query options fields => exact Memory.result_compile memory query options fields
  | narrow p => rfl

theorem Eager.result_run (request : Request) (items : List α) :
    (request.run items).result =
      (request.predicates (Searchable.schema α)).map fun predicates =>
        items.filter (Predicate.allAccept predicates) := by
  cases request with
  | search query options fields => exact Eager.result_compile items query options fields
  | narrow p =>
    have single : (fun item : α => p.accepts item) = Predicate.allAccept [p] := by
      funext item
      simp [Predicate.allAccept]
    change Except.ok (items.filter fun item => p.accepts item) = .ok (items.filter _)
    rw [single]

/-- Whether a request fails is decided by the record type alone, and so is how. -/
theorem Request.error_iff (memory : Memory α) (list : List α) (request : Request)
    (e : SearchError) :
    (request.run memory).result = .error e ↔ (request.run list).result = .error e := by
  rw [Memory.result_run, Eager.result_run]
  cases request.predicates (Searchable.schema α) <;> simp [Except.map]

/-- Both sources hold the records as far as the same predicates have narrowed them. -/
structure Simulates (items : List α) (predicates : List Predicate) (memory : Memory α)
    (list : List α) : Prop where
  memory_eq : memory = ⟨items, predicates⟩
  list_eq : list = items.filter (Predicate.allAccept predicates)

theorem simulates_initial (items : List α) : Simulates items [] (Memory.ofList items) items where
  memory_eq := rfl
  list_eq := (List.filter_eq_self.mpr fun _ _ => rfl).symm

namespace Simulates

variable {items list : List α} {predicates : List Predicate} {memory : Memory α}

theorem step (related : Simulates items predicates memory list) (request : Request) :
    Simulates items (predicates ++ request.narrowed (Searchable.schema α))
      ((request.run memory).keep memory) ((request.run list).keep list) := by
  obtain ⟨rfl, rfl⟩ := related
  rw [Traced.keep, Traced.keep, Memory.result_run, Eager.result_run, Request.narrowed]
  cases request.predicates (Searchable.schema α) with
  | error e =>
    -- Both sources stay as they are.
    exact ⟨by simp [Except.map], by simp [Except.map]⟩
  | ok added =>
    refine ⟨rfl, ?_⟩
    simp only [Except.map, List.filter_filter]
    congr 1
    funext item
    rw [Predicate.allAccept_append, Bool.and_comm]

theorem run (related : Simulates items predicates memory list) (requests : List Request) :
    Simulates items (predicates ++ requests.flatMap (Request.narrowed (Searchable.schema α)))
      (Request.runAll requests memory) (Request.runAll requests list) := by
  -- The invariant is the relation itself; only the predicates grow from step to step.
  induction requests generalizing predicates memory list with
  | nil => simpa [Request.runAll] using related
  | cons request rest ih => simpa [Request.runAll] using ih (related.step request)

theorem hits_eq (related : Simulates items predicates memory list) : memory.hits = list := by
  obtain ⟨rfl, rfl⟩ := related
  rfl

end Simulates

/-! ### Runs -/

/-- The records that pass every predicate that the requests have narrowed by, in their order. -/
def keptBy (requests : List Request) (items : List α) : List α :=
  items.filter (Predicate.allAccept (requests.flatMap (Request.narrowed (Searchable.schema α))))

/-- How a lazy and an eager source agree that hold what requests have left of the same records. -/
structure Agreement (requests : List Request) (items : List α) (memory : Memory α)
    (list : List α) : Prop where
  /-- The next request fails on one source exactly if it fails on the other, for the same cause. -/
  errors : ∀ (next : Request) (e : SearchError),
    (next.run memory).result = .error e ↔ (next.run list).result = .error e
  contents : list = keptBy requests items
  hits : memory.hits = keptBy requests items
  accepted : items.filter memory.accepts = keptBy requests items
  count : memory.count = (keptBy requests items).length
  chunks : ∀ chunks : List (List α), chunks.flatten = items →
    memory.hitsOf chunks = keptBy requests items
  parallelHits : memory.parallelHits = keptBy requests items
  /-- The next request drops hits and neither adds nor moves any. -/
  shrinks : ∀ next : Request, ((next.run memory).keep memory).hits.Sublist memory.hits

theorem runAll_agreement (requests : List Request) (items : List α) :
    Agreement requests items (Request.runAll requests (Memory.ofList items))
      (Request.runAll requests items) := by
  have related := (simulates_initial items).run requests
  rw [List.nil_append] at related
  have hits : (Request.runAll requests (Memory.ofList items)).hits = keptBy requests items :=
    related.hits_eq.trans related.list_eq
  have same : (Request.runAll requests (Memory.ofList items)).items = items := by
    rw [related.memory_eq]
  constructor
  case errors => exact fun next e => Request.error_iff _ _ next e
  case contents => exact related.list_eq
  case hits => exact hits
  case accepted =>
    -- The memory still holds all records, so asking it of each is asking for its hits.
    rw [Memory.hits, same] at hits
    exact hits
  case count => rw [Memory.count, hits]
  case chunks =>
    intro chunks whole
    rw [Memory.hitsOf_eq_hits _ (whole.trans same.symm), hits]
  case parallelHits =>
    rw [Memory.parallelHits, Memory.hitsOf_eq_hits _ (Memory.flatten_halves _), hits]
  case shrinks =>
    intro next
    -- The step adds predicates, so what it leaves is a filter of what there was.
    rw [(related.step next).hits_eq, (related.step next).list_eq, hits, keptBy]
    apply List.monotone_filter_right
    intro item passes
    rw [Predicate.allAccept_append, Bool.and_eq_true] at passes
    exact passes.1

end RecordSearch
