import Mathlib.Data.List.AList
import Mathlib.Data.List.Induction

/-! Merging the elements of a list into a map by their keys. What the map holds for a key is
what the elements of that key come to, one after another. -/
namespace BatCave.Lib.Merge
variable {ε α ν : Type*} [DecidableEq α]

/-- `entry(key).or_insert…` and an update, for one element after another. -/
def mergeAll (key : ε → α) (absorb : Option ν → ε → ν) (es : List ε) : AList (fun _ : α => ν) :=
  es.foldl (fun t e => t.insert (key e) (absorb (t.lookup (key e)) e)) ∅

/-- What a run of elements of one key comes to. -/
def absorbAll (absorb : Option ν → ε → ν) (es : List ε) : Option ν :=
  es.foldl (fun v e => some (absorb v e)) none

def ofKey (key : ε → α) (k : α) (es : List ε) : List ε := es.filter (fun e => key e=k)

variable {key : ε → α} {absorb : Option ν → ε → ν} {es : List ε} {k : α}

theorem absorbAll_snoc (e : ε) :
    absorbAll absorb (es++[e])=some (absorb (absorbAll absorb es) e) := by
  rw [absorbAll,List.foldl_append]
  rfl

theorem mergeAll_snoc (e : ε) : mergeAll key absorb (es++[e])=
    (mergeAll key absorb es).insert (key e)
      (absorb ((mergeAll key absorb es).lookup (key e)) e) := by
  rw [mergeAll,List.foldl_append]
  rfl

theorem lookup_mergeAll (k : α) :
    (mergeAll key absorb es).lookup k=absorbAll absorb (ofKey key k es) := by
  induction es using List.reverseRecOn with
  | nil => rfl
  | append_singleton es e ih =>
    rw [mergeAll_snoc,ofKey,List.filter_append]
    by_cases hk : key e=k
    · subst hk
      rw [AList.lookup_insert,ih,List.filter_singleton,decide_eq_true rfl]
      exact (absorbAll_snoc e).symm
    · rw [AList.lookup_insert_ne (Ne.symm hk),List.filter_singleton,decide_eq_false hk]
      simpa [ofKey] using ih

theorem mem_entries_mergeAll {v : ν} :
    (⟨k,v⟩ : Sigma fun _ : α => ν)∈(mergeAll key absorb es).entries ↔
      absorbAll absorb (ofKey key k es)=some v := by
  rw [← lookup_mergeAll,← AList.mem_lookup_iff,Option.mem_def]

end BatCave.Lib.Merge
