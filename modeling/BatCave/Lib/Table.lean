import Mathlib.Algebra.Ring.Nat
import Mathlib.Data.List.AList
import Mathlib.Data.List.Induction
import Mathlib.Algebra.BigOperators.Group.List.Basic

/-! Hash maps as association lists without duplicate keys. What a loop over a map
does to one key is stated without the order of the loop, which a hash map does
not fix. -/
namespace BatCave.Lib.Table
variable {α : Type*} {β : α → Type*} {σ γ : Type*}

theorem foldl_skip {obs : σ → γ} {step : σ → Sigma β → σ} {k : α} (l : List (Sigma β))
    (hother : ∀ s, ∀ e∈l, e.1≠k → obs (step s e)=obs s)
    (hl : k∉l.keys) (s : σ) : obs (l.foldl step s)=obs s := by
  induction l generalizing s with
  | nil => rfl
  | cons e l ih =>
    rw [List.keys_cons,List.mem_cons,not_or] at hl
    have htail := ih (fun s e he => hother s e (List.mem_cons_of_mem _ he)) hl.2
    rw [List.foldl_cons,htail,hother s e (by simp) (Ne.symm hl.1)]

/-- The sum of a weight over the pairs of a map. -/
def total (f : ∀ k, β k → Nat) (t : AList β) : Nat := (t.entries.map (fun e => f e.1 e.2)).sum

@[simp] theorem total_empty (f : ∀ k, β k → Nat) : total f ∅=0 := rfl

variable [DecidableEq α]

/-- A loop over the entries that touches what is kept for `k` only at `k`'s own
entry. -/
theorem foldl_entries (t : AList β) (k : α) (obs : σ → γ) (step : σ → Sigma β → σ)
    (upd : γ → β k → γ) (hother : ∀ s, ∀ e∈t.entries, e.1≠k → obs (step s e)=obs s)
    (hat : ∀ s v, t.lookup k=some v → obs (step s ⟨k,v⟩)=upd (obs s) v) (s : σ) :
    obs (t.entries.foldl step s)=(t.lookup k).elim (obs s) (upd (obs s)) := by
  by_cases hk : k∈t
  · obtain ⟨v,hv⟩ := Option.isSome_iff_exists.mp (AList.lookup_isSome.mpr hk)
    have hm : (⟨k,v⟩ : Sigma β)∈t.entries := AList.mem_lookup_iff.mp hv
    obtain ⟨l₁,l₂,hl⟩ := List.append_of_mem hm
    have hn := t.nodupKeys
    rw [hl] at hother
    rw [hl,List.NodupKeys,List.keys_append,List.keys_cons,List.nodup_append] at hn
    have h₁ : k∉l₁.keys := fun h => hn.2.2 k h k (by simp) rfl
    have h₂ : k∉l₂.keys := (List.nodup_cons.mp hn.2.1).1
    have s₁ := foldl_skip l₁ (fun s e he => hother s e (by simp [he])) h₁
    have s₂ := foldl_skip l₂ (fun s e he => hother s e (by simp [he])) h₂
    rw [hl,List.foldl_append,List.foldl_cons,s₂,hat _ v hv,s₁,hv]
    rfl
  · have hv : t.lookup k=none := AList.lookup_eq_none.mpr hk
    rw [hv,foldl_skip t.entries hother hk]
    rfl

/-- `collect` of a list of pairs: the last value of a key wins. -/
def ofList (l : List (Sigma β)) : AList β := l.foldl (fun t e => t.insert e.1 e.2) ∅

@[simp] theorem ofList_nil : ofList ([] : List (Sigma β))=∅ := rfl

theorem ofList_snoc (l : List (Sigma β)) (e : Sigma β) :
    ofList (l++[e])=(ofList l).insert e.1 e.2 := by
  simp [ofList]

theorem mem_of_lookup_ofList {l : List (Sigma β)} {k : α} {v : β k}
    (h : (ofList l).lookup k=some v) : (⟨k,v⟩ : Sigma β)∈l := by
  induction l using List.reverseRecOn with
  | nil => simp [ofList] at h
  | append_singleton l e ih =>
    rw [ofList_snoc] at h
    obtain ⟨k',v'⟩ := e
    by_cases hk : k=k'
    · subst hk
      rw [AList.lookup_insert,Option.some.injEq] at h
      have hv : v'=v := h
      simp [hv]
    · rw [AList.lookup_insert_ne hk] at h
      exact List.mem_append_left _ (ih h)

theorem mem_ofList (l : List (Sigma β)) (k : α) : k∈ofList l ↔ k∈l.keys := by
  induction l using List.reverseRecOn with
  | nil => simp [ofList]
  | append_singleton l e ih =>
    rw [ofList_snoc,AList.mem_insert,ih]
    simp [List.keys,or_comm]

/-- Without repeated keys the map holds exactly the pairs. -/
theorem lookup_ofList {l : List (Sigma β)} (h : l.NodupKeys) (k : α) (v : β k) :
    (ofList l).lookup k=some v ↔ (⟨k,v⟩ : Sigma β)∈l := by
  refine ⟨mem_of_lookup_ofList,fun hm => ?_⟩
  have hk : k∈ofList l := (mem_ofList l k).mpr (List.mem_keys_of_mem hm)
  obtain ⟨v',hv⟩ := Option.isSome_iff_exists.mp (AList.lookup_isSome.mpr hk)
  rw [hv,h.eq_of_mk_mem (mem_of_lookup_ofList hv) hm]

theorem sum_kerase (f : ∀ k, β k → Nat) {k : α} {v : β k} :
    ∀ l : List (Sigma β), l.dlookup k=some v →
      (l.map (fun e => f e.1 e.2)).sum=f k v+((l.kerase k).map (fun e => f e.1 e.2)).sum
  | [],hk => by simp at hk
  | ⟨k',v'⟩::l,hk => by
    by_cases h : k=k'
    · subst h
      rw [List.dlookup_cons_eq,Option.some.injEq] at hk
      rw [List.kerase_cons_eq (s := ⟨k,v'⟩) rfl,List.map_cons,List.sum_cons,hk]
    · rw [List.dlookup_cons_ne l ⟨k',v'⟩ h] at hk
      rw [List.kerase_cons_ne h,List.map_cons,List.sum_cons,sum_kerase f l hk,List.map_cons,
        List.sum_cons,Nat.add_left_comm]

theorem total_erase (f : ∀ k, β k → Nat) {t : AList β} {k : α} {v : β k}
    (h : t.lookup k=some v) : total f t=f k v+total f (t.erase k) :=
  sum_kerase f t.entries h

theorem total_insert (f : ∀ k, β k → Nat) (t : AList β) (k : α) (v : β k) :
    total f (t.insert k v)=f k v+total f (t.erase k) := by
  rw [total,AList.entries_insert,List.map_cons,List.sum_cons]
  rfl

theorem erase_of_lookup_none {t : AList β} {k : α} (h : t.lookup k=none) : t.erase k=t := by
  apply AList.ext
  exact List.kerase_of_notMem_keys (AList.lookup_eq_none.mp h)

theorem lookup_of_erase {t : AList β} {k j : α} {v : β j} (h : (t.erase k).lookup j=some v) :
    t.lookup j=some v := by
  by_cases hj : j=k
  · subst hj
    simp at h
  · rwa [AList.lookup_erase_ne hj] at h

theorem le_total (f : ∀ k, β k → Nat) {t : AList β} {k : α} {v : β k} (h : t.lookup k=some v) :
    f k v ≤ total f t := by
  rw [total_erase f h]
  exact Nat.le_add_right _ _

theorem total_eq_zero (f : ∀ k, β k → Nat) {t : AList β}
    (h : ∀ k v, t.lookup k=some v → f k v=0) : total f t=0 := by
  refine List.sum_eq_zero ?_
  intro n hn
  obtain ⟨e,he,rfl⟩ := List.mem_map.mp hn
  exact h e.1 e.2 (AList.mem_lookup_iff.mpr he)

/-- Where every pair has a listed bound of its own, the total is within their sum. -/
theorem total_le (f : ∀ k, β k → Nat) (bounds : List (α × Nat)) {t : AList β}
    (h : ∀ k v, t.lookup k=some v → ∃ n, (k,n)∈bounds ∧ f k v ≤ n) :
    total f t ≤ (bounds.map Prod.snd).sum := by
  have hlist (l : List (Sigma β)) (bounds : List (α × Nat)) (hkeys : l.NodupKeys)
      (hl : ∀ e∈l, ∃ n, (e.1,n)∈bounds ∧ f e.1 e.2 ≤ n) :
      (l.map (fun e => f e.1 e.2)).sum ≤ (bounds.map Prod.snd).sum := by
    induction l generalizing bounds with
    | nil => exact Nat.zero_le _
    | cons e l ih =>
      obtain ⟨hfresh,hkeys⟩ := List.nodupKeys_cons.mp hkeys
      obtain ⟨n,hn,hle⟩ := hl e List.mem_cons_self
      obtain ⟨before,after,rfl⟩ := List.append_of_mem hn
      have hrest : ∀ e'∈l, ∃ n', (e'.1,n')∈before++after ∧ f e'.1 e'.2 ≤ n' := by
        intro e' he'
        obtain ⟨n',hn',hle'⟩ := hl e' (List.mem_cons_of_mem _ he')
        have hne : e'.1≠e.1 := fun heq => hfresh (heq ▸ List.mem_keys_of_mem he')
        simp only [List.mem_append,List.mem_cons,Prod.mk.injEq,hne,false_and,false_or] at hn'
        exact ⟨n',List.mem_append.mpr hn',hle'⟩
      have hle' := ih (before++after) hkeys hrest
      simp only [List.map_append,List.map_cons,List.sum_append,List.sum_cons] at hle' ⊢
      omega
  exact hlist t.entries bounds t.nodupKeys
    (fun e he => h e.1 e.2 (AList.mem_lookup_iff.mpr he))

omit [DecidableEq α] in
theorem keys_length_le {t : AList β} {l : List α} (h : ∀ k∈t, k∈l) : t.keys.length ≤ l.length :=
  (List.subperm_of_subset t.keys_nodup (fun k hk => h k (AList.mem_keys.mpr hk))).length_le

section Push
variable {ν : Type*}

/-- `entry(key).or_default().push(value)` for one pair after another. -/
def pushAll (l : List (α × ν)) : AList (fun _ : α => List ν) :=
  l.foldl (fun t e => t.insert e.1 ((t.lookup e.1).getD []++[e.2])) ∅

/-- The values pushed under a key, in order. -/
def pushed (l : List (α × ν)) (k : α) : List ν := (l.filter (fun e => e.1=k)).map Prod.snd

theorem pushAll_snoc (l : List (α × ν)) (e : α × ν) :
    pushAll (l++[e])=(pushAll l).insert e.1 (((pushAll l).lookup e.1).getD []++[e.2]) := by
  simp [pushAll]

theorem lookup_pushAll (l : List (α × ν)) (k : α) :
    (pushAll l).lookup k=if pushed l k=[] then none else some (pushed l k) := by
  induction l using List.reverseRecOn with
  | nil => simp [pushAll,pushed]
  | append_singleton l e ih =>
    have happ : pushed (l++[e]) k=pushed l k++(if e.1=k then [e.2] else []) := by
      by_cases he : e.1=k <;> simp [pushed,he]
    rw [pushAll_snoc,happ]
    by_cases he : e.1=k
    · subst he
      rw [AList.lookup_insert,ih]
      split
      · next hn => simp [hn]
      · simp
    · rw [AList.lookup_insert_ne (Ne.symm he),ih]
      simp [he]

theorem lookup_pushAll_eq_some {l : List (α × ν)} {k : α} {vs : List ν} :
    (pushAll l).lookup k=some vs ↔ vs≠[] ∧ pushed l k=vs := by
  rw [lookup_pushAll]
  split
  · next h =>
    rw [h]
    constructor
    · intro hn
      cases hn
    · intro ⟨hne,he⟩
      exact absurd he.symm hne
  · next h =>
    rw [Option.some.injEq]
    constructor
    · intro he
      rw [← he]
      exact ⟨h,rfl⟩
    · exact And.right

theorem pushed_filterMap {ι : Type*} (l : List ι) (f : ι → Option α) (k : α) :
    pushed (l.filterMap (fun i => (f i).map (fun a => (a,i)))) k=
      l.filter (fun i => f i=some k) := by
  induction l with
  | nil => rfl
  | cons i l ih =>
    rw [List.filterMap_cons]
    cases hf : f i with
    | none => simpa [hf] using ih
    | some a =>
      by_cases ha : a=k
      · simpa [pushed,hf,ha] using ih
      · simpa [pushed,hf,ha] using ih

theorem pushed_map {ι : Type*} (l : List ι) (f : ι → α) (k : α) :
    pushed (l.map (fun i => (f i,i))) k=l.filter (fun i => f i=k) := by
  simpa using pushed_filterMap l (fun i => some (f i)) k

end Push

/-- A map whose every key was erased is empty. -/
theorem eq_empty_of_keys {t : AList β} (h : ∀ k, t.lookup k=none) : t=∅ := by
  refine AList.ext (List.eq_nil_iff_forall_not_mem.mpr ?_)
  intro e he
  have hm : e.1∈t := List.mem_keys_of_mem he
  exact absurd hm (AList.lookup_eq_none.mp (h e.1))

/-- What is kept by its key is found as before. -/
theorem dlookup_filter_keys (l : List (Sigma β)) (p : α → Bool) (k : α) :
    (l.filter (fun e => p e.1)).dlookup k=if p k then l.dlookup k else none := by
  induction l with
  | nil => simp
  | cons e l ih =>
    obtain ⟨k',v⟩ := e
    by_cases hk : k=k'
    · subst hk
      cases hp : p k with
      | true => simp [hp]
      | false => simpa [hp] using ih
    · have hskip (l' : List (Sigma β)) : (⟨k',v⟩::l').dlookup k=l'.dlookup k :=
        List.dlookup_cons_ne l' ⟨k',v⟩ hk
      cases hp : p k' with
      | true => simpa [hp,hskip] using ih
      | false => simpa [hp,hskip] using ih

end BatCave.Lib.Table
