import Mathlib.Data.Finset.Card
import Mathlib.Data.Finset.Dedup

/-! A catalog that gives every key one index: an entry is found again by its key, a new one
is appended while there is room. Entries never move, so an index stays good in every later
catalog, and the room that is needed is the number of different keys. -/
namespace BatCave.Lib.Interner
variable {α κ : Type*} [DecidableEq κ]

/-- The index of the entry with the key, appended if there was none. -/
def intern (cap : Nat) (key : α → κ) (k : κ) (fresh : Nat → α) (xs : List α) :
    Option (Nat × List α) :=
  match xs.findIdx? (fun x => key x==k) with
  | some i => if i < cap then some (i,xs) else none
  | none => if xs.length < cap then some (xs.length,xs++[fresh xs.length]) else none

structure Interned (cap : Nat) (key : α → κ) (xs : List α) : Prop where
  nodup : (xs.map key).Nodup
  room : xs.length ≤ cap

def keys (key : α → κ) (xs : List α) : Finset κ := (xs.map key).toFinset

/-- A place that is taken stays taken in every list that continues this one. -/
theorem kept_place {xs ys : List α} (h : xs <+: ys) {i : Nat} {x : α} (hx : xs[i]?=some x) :
    ys[i]?=some x := by
  obtain ⟨t,rfl⟩ := h
  rw [List.getElem?_append_left (List.getElem?_eq_some_iff.mp hx).1,hx]

section Intern
variable {cap i : Nat} {key : α → κ} {k : κ} {fresh : Nat → α} {xs ys : List α}

theorem Interned.card (h : Interned cap key xs) : (keys key xs).card=xs.length := by
  rw [keys,List.toFinset_card_of_nodup h.nodup,List.length_map]

omit [DecidableEq κ] in
theorem interned_nil : Interned cap key [] := ⟨List.nodup_nil,Nat.zero_le _⟩

/-- Either the key was there, or its entry is the last one now. -/
theorem intern_cases (h : intern cap key k fresh xs=some (i,ys)) :
    (xs.findIdx? (fun x => key x==k)=some i ∧ i < cap ∧ ys=xs) ∨
      (k∉xs.map key ∧ i=xs.length ∧ xs.length < cap ∧ ys=xs++[fresh xs.length]) := by
  simp only [intern] at h
  cases hf : xs.findIdx? (fun x => key x==k) with
  | some j =>
    rw [hf] at h
    simp only [Option.ite_none_right_eq_some,Option.some.injEq,Prod.mk.injEq] at h
    obtain ⟨hj,rfl,rfl⟩ := h
    exact .inl ⟨rfl,hj,rfl⟩
  | none =>
    rw [hf] at h
    simp only [Option.ite_none_right_eq_some,Option.some.injEq,Prod.mk.injEq] at h
    obtain ⟨hlt,rfl,rfl⟩ := h
    rw [List.findIdx?_eq_none_iff] at hf
    refine .inr ⟨?_,rfl,hlt,rfl⟩
    intro hm
    obtain ⟨x,hx,hxk⟩ := List.mem_map.mp hm
    have hne := hf x hx
    rw [hxk,beq_self_eq_true] at hne
    cases hne

theorem prefix_intern (h : intern cap key k fresh xs=some (i,ys)) : xs <+: ys := by
  cases intern_cases h with
  | inl hold => rw [hold.2.2]
  | inr hnew =>
    rw [hnew.2.2.2]
    exact List.prefix_append _ _

theorem intern_found (hfresh : ∀ n, key (fresh n)=k)
    (h : intern cap key k fresh xs=some (i,ys)) : ∃ x, ys[i]?=some x ∧ key x=k := by
  cases intern_cases h with
  | inl hold =>
    obtain ⟨hf,_,rfl⟩ := hold
    rw [List.findIdx?_eq_some_iff_getElem] at hf
    obtain ⟨hi,hk,_⟩ := hf
    exact ⟨ys[i],List.getElem?_eq_getElem hi,by simpa using hk⟩
  | inr hnew =>
    obtain ⟨_,rfl,_,rfl⟩ := hnew
    exact ⟨fresh xs.length,by simp,hfresh _⟩

theorem intern_keys (hfresh : ∀ n, key (fresh n)=k)
    (h : intern cap key k fresh xs=some (i,ys)) : keys key ys=insert k (keys key xs) := by
  cases intern_cases h with
  | inl hold =>
    obtain ⟨x,hx,hk⟩ := intern_found hfresh h
    rw [hold.2.2] at hx ⊢
    refine (Finset.insert_eq_of_mem ?_).symm
    rw [keys,List.mem_toFinset,← hk]
    exact List.mem_map_of_mem (List.mem_of_getElem? hx)
  | inr hnew =>
    rw [hnew.2.2.2]
    ext a
    simp [keys,hfresh]

theorem Interned.intern (hxs : Interned cap key xs) (hfresh : ∀ n, key (fresh n)=k)
    (h : intern cap key k fresh xs=some (i,ys)) : Interned cap key ys := by
  cases intern_cases h with
  | inl hold => rwa [hold.2.2]
  | inr hnew =>
    obtain ⟨hk,_,hlt,rfl⟩ := hnew
    refine ⟨?_,by simpa using Nat.succ_le_of_lt hlt⟩
    simpa [hfresh,List.nodup_append] using ⟨hxs.nodup,
      fun x hx he => hk (List.mem_map.mpr ⟨x,hx,he⟩)⟩

/-- What every entry has at its place, new entries have too. -/
theorem intern_forall {P : Nat → α → Prop} (hfresh : ∀ n, P n (fresh n))
    (hxs : ∀ j x, xs[j]?=some x → P j x) (h : intern cap key k fresh xs=some (i,ys)) :
    ∀ j x, ys[j]?=some x → P j x := by
  cases intern_cases h with
  | inl hold => rwa [hold.2.2]
  | inr hnew =>
    rw [hnew.2.2.2]
    intro j x hj
    cases Nat.lt_trichotomy j xs.length with
    | inl hlt =>
      rw [List.getElem?_append_left hlt] at hj
      exact hxs j x hj
    | inr hge =>
      cases hge with
      | inl heq =>
        subst heq
        simp only [List.getElem?_concat_length,Option.some.injEq] at hj
        rw [← hj]
        exact hfresh _
      | inr hgt =>
        rw [List.getElem?_eq_none (by simpa using Nat.succ_le_of_lt hgt)] at hj
        cases hj

/-- There is room exactly for as many different keys as there are indices. -/
theorem intern_isSome (hxs : Interned cap key xs) :
    (intern cap key k fresh xs).isSome ↔ (insert k (keys key xs)).card ≤ cap := by
  simp only [BatCave.Lib.Interner.intern]
  cases hf : xs.findIdx? (fun x => key x==k) with
  | some j =>
    rw [List.findIdx?_eq_some_iff_getElem] at hf
    obtain ⟨hj,hk,_⟩ := hf
    have hmem : k∈keys key xs := by
      rw [keys,List.mem_toFinset,← (by simpa using hk : key xs[j]=k)]
      exact List.mem_map_of_mem (List.getElem_mem hj)
    have hroom := hxs.room
    have hlt : j < cap := by omega
    rw [Finset.insert_eq_of_mem hmem,hxs.card]
    simp [hlt,hroom]
  | none =>
    have hnot : k∉keys key xs := by
      rw [keys,List.mem_toFinset]
      intro hm
      obtain ⟨x,hx,hxk⟩ := List.mem_map.mp hm
      have hne := List.findIdx?_eq_none_iff.mp hf x hx
      rw [hxk,beq_self_eq_true] at hne
      cases hne
    rw [Finset.card_insert_of_notMem hnot,hxs.card]
    by_cases hlt : xs.length < cap
    · simp only [hlt,if_true,Option.isSome_some,true_iff]
      omega
    · simp only [hlt,if_false,Option.isSome_none,Bool.false_eq_true,false_iff]
      omega

end Intern
end BatCave.Lib.Interner
