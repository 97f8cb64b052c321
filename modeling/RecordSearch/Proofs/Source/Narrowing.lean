import RecordSearch.Proofs.Search.Compile
import RecordSearch.Source.Memory

/-!
Narrowing in memory by several predicates at once. Both sources take every predicate, so a search of
either fails only where a predicate cannot be built.
-/
namespace RecordSearch

variable {α : Type}

namespace Memory

theorem foldl_narrow (predicates : List Predicate) (memory : Memory α) :
    predicates.foldl narrow memory = ⟨memory.items, memory.predicates ++ predicates⟩ := by
  induction predicates generalizing memory with
  | nil => simp
  | cons p rest ih => simp [ih, narrow]

variable [Searchable α]

theorem result_compile (memory : Memory α) (query : Option String) (options : Options)
    (fields : Option (List Field)) :
    (compile memory query options fields).result =
      (Predicate.ofQuery (Searchable.schema α) query options fields).map fun predicates =>
        ⟨memory.items, memory.predicates ++ predicates⟩ := by
  have total : ∀ (source : Memory α) p, (Source.narrow source p).result = .ok (source.narrow p) :=
    fun _ _ => rfl
  rw [RecordSearch.result_compile total]
  change ((Predicate.ofQuery (Searchable.schema α) query options fields).mapError id).map _ = _
  simp only [mapError_id, foldl_narrow]

theorem accepts_of_admits {items : List α} {before predicates others : List Predicate}
    (admits : Predicate.Admits predicates others) {item : α}
    (accepted : (⟨items, before ++ predicates⟩ : Memory α).accepts item = true) :
    (⟨items, before ++ others⟩ : Memory α).accepts item = true := by
  rw [accepts, List.all_append, Bool.and_eq_true] at accepted ⊢
  exact ⟨accepted.1, admits (Searchable.record item) accepted.2⟩

/-- Predicates that pass no fewer records leave no fewer hits. -/
theorem hits_sublist_of_admits {items : List α} {before predicates others : List Predicate}
    (admits : Predicate.Admits predicates others) :
    (⟨items, before ++ predicates⟩ : Memory α).hits.Sublist
      (⟨items, before ++ others⟩ : Memory α).hits :=
  List.monotone_filter_right _ fun _ => accepts_of_admits admits

end Memory

namespace Eager

variable [Searchable α]

theorem foldl_filter (predicates : List Predicate) (items : List α) :
    predicates.foldl (fun kept p => kept.filter p.accepts) items =
      items.filter fun item => predicates.all fun p => p.accepts item := by
  induction predicates generalizing items with
  | nil => simp
  | cons p rest ih =>
    rw [List.foldl_cons, ih, List.filter_filter]
    congr 1
    funext item
    rw [List.all_cons, Bool.and_comm]

theorem result_compile (items : List α) (query : Option String) (options : Options)
    (fields : Option (List Field)) :
    (compile items query options fields).result =
      (Predicate.ofQuery (Searchable.schema α) query options fields).map fun predicates =>
        items.filter fun item => predicates.all fun p => p.accepts item := by
  have total : ∀ (source : List α) p,
      (Source.narrow source p).result = .ok (source.filter p.accepts) := fun _ _ => rfl
  rw [RecordSearch.result_compile total]
  change ((Predicate.ofQuery (Searchable.schema α) query options fields).mapError id).map _ = _
  simp only [mapError_id, foldl_filter]

theorem filter_sublist_of_admits {predicates others : List Predicate}
    (admits : Predicate.Admits predicates others) (items : List α) :
    (items.filter fun item => predicates.all fun p => p.accepts item).Sublist
      (items.filter fun item => others.all fun p => p.accepts item) :=
  List.monotone_filter_right _ fun item => admits (Searchable.record item)

end Eager

end RecordSearch
