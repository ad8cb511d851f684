import BatCave.WorkloadHistory.Budget

/-! The credits of the replies in flight over whole runs: who was given one, and what takes
it back. -/
namespace BatCave.WorkloadHistory
open BatCave.Lib.Table BatCave.Lib.Text BatCave.Lib.Word

section Tokens

theorem responseToken_toList (id : Nat) :
    (responseToken id).toList="inspection:".toList++(Nat.repr id).toList := by
  rw [responseToken]
  simp [toString]

theorem responseToken_injective : Function.Injective responseToken := by
  intro a b h
  have hlist := congrArg String.toList h
  rw [responseToken_toList,responseToken_toList,List.append_cancel_left_eq] at hlist
  have ha := @parseUnsigned_repr (max a b+1) a (by omega)
  have hb := @parseUnsigned_repr (max a b+1) b (by omega)
  rw [String.toList_injective hlist,hb] at ha
  exact (Option.some.inj ha).symm

/-- The tokens that are taken are those of the ids, as they are printed. -/
theorem parseToken_eq_some {token : String} {id : Nat} :
    parseToken token=some id ↔ id < 2^64 ∧ token=responseToken id := by
  rw [parseToken,Option.filter_eq_some_iff,Option.bind_eq_some_iff,decide_eq_true_eq]
  constructor
  · intro h
    obtain ⟨⟨digits,_,hparsed⟩,hcanonical⟩ := h
    exact ⟨parseUnsigned_lt hparsed,hcanonical.symm⟩
  · intro h
    obtain ⟨hlt,htoken⟩ := h
    refine ⟨⟨(Nat.repr id).toList,?_,?_⟩,htoken.symm⟩
    · rw [htoken,responseToken_toList,List.isPrefixOf?_eq_some_iff_append_eq]
    · rw [String.ofList_toList]
      exact parseU64_repr hlt

end Tokens

namespace WorkloadArchive
variable {ν κ ρ : Type}

/-- The token and the credit that an operation is given. -/
def granted (a : WorkloadArchive ν κ) : Operation ρ → Option (String × Nat)
  | .inspect id pointLimit =>
    match (a.inspect id pointLimit).1 with
    | .ok reply => some (reply.responseToken,a.replyBytes id pointLimit)
    | .error _ => none
  | _ => none

theorem reserve_cases {pool pool' : ResponseCredits} {bytes budget : Nat} {token : String}
    (h : pool.reserve bytes budget=.ok (token,pool')) :
    token=responseToken (pool.nextId+1) ∧ pool.nextId+1 < 2^64 ∧
      pool'=⟨pool.used+bytes,pool.nextId+1,pool.pending.insert (pool.nextId+1) bytes⟩ := by
  unfold ResponseCredits.reserve at h
  split at h
  · cases h
  · split at h
    · cases h
    · next id hid =>
      unfold checkedAdd at hid
      split at hid
      · next hle =>
        cases hid
        cases h
        refine ⟨rfl,?_,rfl⟩
        simp only [u64Max] at hle
        omega
      · cases hid

/-- An inspection is refused and changes nothing, or it is given the next credit. -/
theorem inspect_cases (id : String) (pointLimit : Nat) (a : WorkloadArchive ν κ) :
    (∃ e, a.inspect id pointLimit=(.error e,a)) ∨
    ∃ reply, (a.inspect id pointLimit).1=.ok reply ∧
      reply.responseToken=responseToken (a.replies.nextId+1) ∧ a.replies.nextId+1 < 2^64 ∧
      (a.inspect id pointLimit).2={a with
        replies := ⟨a.replies.used+a.replyBytes id pointLimit,a.replies.nextId+1,
          a.replies.pending.insert (a.replies.nextId+1) (a.replyBytes id pointLimit)⟩} := by
  unfold inspect
  split
  · exact .inl ⟨_,rfl⟩
  · split
    · exact .inl ⟨_,rfl⟩
    · split
      · exact .inl ⟨_,rfl⟩
      · next token replies hreserve =>
        obtain ⟨htoken,hlt,hreplies⟩ := reserve_cases hreserve
        refine .inr ⟨_,rfl,htoken,hlt,?_⟩
        rw [hreplies]

/-- An acknowledgement takes back the credit of its own token, or changes nothing. -/
theorem acknowledge_cases (token : String) (a : WorkloadArchive ν κ) :
    ((∀ id, token=responseToken id → a.replies.pending.lookup id=none ∨ 2^64 ≤ id) ∧
      (a.acknowledge token).2=a) ∨
    ∃ id bytes, token=responseToken id ∧ a.replies.pending.lookup id=some bytes ∧
      (a.acknowledge token).2.replies=
        ⟨a.replies.used-bytes,a.replies.nextId,a.replies.pending.erase id⟩ := by
  unfold acknowledge
  split
  · next hnone =>
    refine .inl ⟨?_,rfl⟩
    intro id htoken
    right
    by_contra hlt
    rw [parseToken_eq_some.2 ⟨Nat.lt_of_not_le hlt,htoken⟩] at hnone
    cases hnone
  · next id hid =>
    obtain ⟨hlt,htoken⟩ := parseToken_eq_some.1 hid
    split
    · next hnone =>
      refine .inl ⟨?_,rfl⟩
      intro id' htoken'
      rw [htoken] at htoken'
      rw [← responseToken_injective htoken']
      exact .inl hnone
    · next bytes hpending => exact .inr ⟨id,bytes,htoken,hpending,rfl⟩

section Runs
variable [Zero ν] [Add ν] (L : Layout) (enc : Encoder ν κ ρ)

/-- What a step of a run can do to the credits. -/
theorem apply_credits (step : Heap ν κ × Operation ρ) (a : WorkloadArchive ν κ) :
    (∃ bytes, granted a step.2=some (responseToken (a.replies.nextId+1),bytes) ∧
      a.replies.nextId+1 < 2^64 ∧ (∀ token, step.2≠.acknowledge token) ∧
      (a.apply L enc step).replies=⟨a.replies.used+bytes,a.replies.nextId+1,
        a.replies.pending.insert (a.replies.nextId+1) bytes⟩) ∨
    (granted a step.2=none ∧ ∃ id bytes, step.2=.acknowledge (responseToken id) ∧
      a.replies.pending.lookup id=some bytes ∧ (a.apply L enc step).replies=
        ⟨a.replies.used-bytes,a.replies.nextId,a.replies.pending.erase id⟩) ∨
    (granted a step.2=none ∧ (a.apply L enc step).replies=a.replies ∧
      ∀ id, step.2=.acknowledge (responseToken id) →
        a.replies.pending.lookup id=none ∨ 2^64 ≤ id) := by
  obtain ⟨h,op⟩ := step
  cases op with
  | beginIngress processes =>
    refine .inr (.inr ⟨rfl,?_,fun _ h => by cases h⟩)
    simp only [apply,beginIngress]
    split
    · rfl
    · rw [(SameFrame.enforceBudget _).replies_eq]
  | endIngress => exact .inr (.inr ⟨rfl,rfl,fun _ h => by cases h⟩)
  | observe snapshot rows live =>
    exact .inr (.inr ⟨rfl,(observe_reserves live a).replies_eq,fun _ h => by cases h⟩)
  | inspect id pointLimit =>
    cases inspect_cases id pointLimit a with
    | inl hrefused =>
      obtain ⟨e,hrefused⟩ := hrefused
      refine .inr (.inr ⟨?_,?_,fun _ h => by cases h⟩)
      · simp only [granted,hrefused]
      · simp only [apply,hrefused]
    | inr hgiven =>
      obtain ⟨reply,hreply,htoken,hlt,hafter⟩ := hgiven
      refine .inl ⟨a.replyBytes id pointLimit,?_,hlt,(fun _ h => by cases h),?_⟩
      · simp only [granted,hreply,htoken]
      · simp only [apply,hafter]
  | acknowledge token =>
    cases acknowledge_cases token a with
    | inl hkept =>
      obtain ⟨hother,hafter⟩ := hkept
      refine .inr (.inr ⟨rfl,?_,?_⟩)
      · simp only [apply,hafter]
      · intro id hid
        exact hother id (Operation.acknowledge.inj hid)
    | inr htaken =>
      obtain ⟨id,bytes,htoken,hpending,hafter⟩ := htaken
      exact .inr (.inl ⟨rfl,id,bytes,by rw [htoken],hpending,hafter⟩)

theorem run_snoc (steps : List (Heap ν κ × Operation ρ)) (step : Heap ν κ × Operation ρ)
    (a : WorkloadArchive ν κ) :
    run L enc (steps++[step]) a=(run L enc steps a).apply L enc step := by
  simp [run]

/-- The tokens that a run hands out, oldest first. -/
def handedOut : List (Heap ν κ × Operation ρ) → WorkloadArchive ν κ → List String
  | [],_ => []
  | step::steps,a => (granted a step.2).toList.map Prod.fst++handedOut steps (a.apply L enc step)

theorem handedOut_snoc (steps : List (Heap ν κ × Operation ρ)) (step : Heap ν κ × Operation ρ)
    (a : WorkloadArchive ν κ) : handedOut L enc (steps++[step]) a=
      handedOut L enc steps a++(granted (run L enc steps a) step.2).toList.map Prod.fst := by
  induction steps generalizing a with
  | nil => simp [handedOut,run]
  | cons first steps ih =>
    rw [List.cons_append,handedOut,handedOut,ih,List.append_assoc]
    rfl

/-- The credit was given at some step, and no later one acknowledges its token. -/
def Outstanding (steps : List (Heap ν κ × Operation ρ)) (a : WorkloadArchive ν κ)
    (id bytes : Nat) : Prop :=
  ∃ before step after, steps=before++step::after ∧
    granted (run L enc before a) step.2=some (responseToken id,bytes) ∧
    ∀ later∈after, later.2≠.acknowledge (responseToken id)

theorem outstanding_snoc {steps : List (Heap ν κ × Operation ρ)} {step : Heap ν κ × Operation ρ}
    {a : WorkloadArchive ν κ} {id bytes : Nat} :
    Outstanding L enc (steps++[step]) a id bytes ↔
      granted (run L enc steps a) step.2=some (responseToken id,bytes) ∨
      (Outstanding L enc steps a id bytes ∧ step.2≠.acknowledge (responseToken id)) := by
  constructor
  · intro h
    obtain ⟨before,given,after,hsplit,hgranted,hlater⟩ := h
    cases after using List.reverseRecOn with
    | nil =>
      obtain ⟨rfl,hlast⟩ := List.append_inj' hsplit rfl
      cases hlast
      exact .inl hgranted
    | append_singleton after last =>
      rw [← List.cons_append,← List.append_assoc] at hsplit
      obtain ⟨hinit,hlast⟩ := List.append_inj' hsplit rfl
      cases hlast
      refine .inr ⟨⟨before,given,after,hinit,hgranted,?_⟩,hlater step (by simp)⟩
      intro later hmem
      exact hlater later (by simp [hmem])
  · intro h
    cases h with
    | inl hgranted => exact ⟨steps,step,[],rfl,hgranted,nofun⟩
    | inr hkept =>
      obtain ⟨⟨before,given,after,rfl,hgranted,hlater⟩,hother⟩ := hkept
      refine ⟨before,given,after++[step],by simp,hgranted,?_⟩
      intro later hmem
      cases List.mem_append.1 hmem with
      | inl hmem => exact hlater later hmem
      | inr hmem =>
        rw [List.mem_singleton.1 hmem]
        exact hother

/-- What a run has made of the pool: a token for every number up to the last, and a credit
for every grant that was not acknowledged since. -/
structure Pool (steps : List (Heap ν κ × Operation ρ)) (start a : WorkloadArchive ν κ) : Prop where
  last : a.replies.nextId < 2^64
  tokens : handedOut L enc steps start=
    (List.range a.replies.nextId).map (fun k => responseToken (k+1))
  pending : ∀ id bytes, a.replies.pending.lookup id=some bytes ↔
    Outstanding L enc steps start id bytes

theorem Pool.step {steps : List (Heap ν κ × Operation ρ)} {start : WorkloadArchive ν κ}
    (hpool : Pool L enc steps start (run L enc steps start))
    (hcredits : Credits (run L enc steps start).replies) (step : Heap ν κ × Operation ρ) :
    Pool L enc (steps++[step]) start (run L enc (steps++[step]) start) := by
  have hlt {id bytes : Nat} (h : (run L enc steps start).replies.pending.lookup id=some bytes) :
      id < 2^64 ∧ id ≤ (run L enc steps start).replies.nextId := by
    have hmem := hcredits.pending_le id (AList.lookup_isSome.1 (by rw [h]; rfl))
    exact ⟨Nat.lt_of_le_of_lt hmem hpool.last,hmem⟩
  have hcases := apply_credits L enc step (run L enc steps start)
  rw [← run_snoc] at hcases
  obtain ⟨bytes,hgranted,hnext,hop,hafter⟩ | ⟨hgranted,id,bytes,hop,hfound,hafter⟩ |
    ⟨hgranted,hafter,hop⟩ := hcases
  · -- a new credit, under a number above all that are pending
    refine ⟨by rw [hafter]; exact hnext,?_,?_⟩
    · rw [handedOut_snoc,hgranted,hpool.tokens,hafter,List.range_succ,List.map_append]
      rfl
    · intro id' bytes'
      rw [hafter,outstanding_snoc,hgranted,Option.some.injEq,Prod.mk.injEq,
        responseToken_injective.eq_iff,← hpool.pending id' bytes',and_iff_left (hop _)]
      by_cases hid : id'=(run L enc steps start).replies.nextId+1
      · rw [hid,AList.lookup_insert,Option.some.injEq]
        constructor
        · intro h
          exact .inl ⟨rfl,h⟩
        · intro h
          cases h with
          | inl h => exact h.2
          | inr h => exact absurd (hlt h).2 (by omega)
      · rw [AList.lookup_insert_ne hid]
        constructor
        · exact .inr
        · intro h
          cases h with
          | inl h => exact absurd h.1.symm hid
          | inr h => exact h
  · refine ⟨by rw [hafter]; exact hpool.last,?_,?_⟩
    · rw [handedOut_snoc,hgranted,hpool.tokens,hafter]
      simp
    · intro id' bytes'
      rw [hafter,outstanding_snoc,hgranted,← hpool.pending id' bytes',hop]
      by_cases hid : id'=id
      · rw [hid,AList.lookup_erase]
        simp
      · have hother : Operation.acknowledge (responseToken id)≠
            (.acknowledge (responseToken id') : Operation ρ) := fun h =>
          hid (responseToken_injective (Operation.acknowledge.inj h)).symm
        rw [AList.lookup_erase_ne hid,and_iff_left hother]
        simp
  · refine ⟨by rw [hafter]; exact hpool.last,?_,?_⟩
    · rw [handedOut_snoc,hgranted,hpool.tokens,hafter]
      simp
    · intro id' bytes'
      rw [hafter,outstanding_snoc,hgranted,← hpool.pending id' bytes']
      constructor
      · intro h
        refine .inr ⟨h,fun hack => ?_⟩
        cases hop id' hack with
        | inl hnone =>
          rw [hnone] at h
          cases h
        | inr hbig => exact absurd (hlt h).1 (Nat.not_lt.2 hbig)
      · intro h
        cases h with
        | inl h => cases h
        | inr h => exact h.1

theorem Pool.run (budget : Nat) (steps : List (Heap ν κ × Operation ρ)) :
    Pool L enc steps (withBudget budget) (run L enc steps (withBudget budget)) := by
  induction steps using List.reverseRecOn with
  | nil =>
    refine ⟨Nat.two_pow_pos 64,rfl,?_⟩
    intro id bytes
    constructor
    · intro h
      cases h
    · intro h
      obtain ⟨before,step,after,hsplit,_⟩ := h
      exact absurd hsplit (by simp)
  | append_singleton steps step ih =>
    have hbooks : Books L (WorkloadArchive.run L enc steps (withBudget budget)) :=
      Books.run budget steps
    exact ih.step L enc hbooks.credits step

/-- Credits over every run: what is used is what is pending, within the reserve of the replies;
no token comes twice; a credit is out exactly from its grant to the first acknowledgement of its
token; and every other acknowledgement and every refused inspection leaves the credits alone. -/
theorem reply_credits_conserved (budget : Nat) (steps : List (Heap ν κ × Operation ρ)) :
    let a := run L enc steps (withBudget budget)
    a.replies.used=total (fun _ bytes => bytes) a.replies.pending ∧
    a.replies.used ≤ min replyBudgetBytes (budget/8) ∧
    (handedOut L enc steps (withBudget budget)).Nodup ∧
    (∀ id bytes, a.replies.pending.lookup id=some bytes ↔
      Outstanding L enc steps (withBudget budget) id bytes) ∧
    (∀ token, (∀ id∈a.replies.pending, token≠responseToken id) →
      (a.acknowledge token).2.replies=a.replies) ∧
    (∀ token, (a.acknowledge token).1=.ok () ↔ ∃ id < 2^64, token=responseToken id) ∧
    ∀ id pointLimit e, (a.inspect id pointLimit).1=.error e →
      (a.inspect id pointLimit).2.replies=a.replies := by
  intro a
  have hpool : Pool L enc steps (withBudget budget) a := Pool.run L enc budget steps
  have hbooks : Books L a := Books.run budget steps
  refine ⟨hbooks.credits.used_eq,(memory_bound L enc budget steps).2.1,?_,hpool.pending,?_,?_,?_⟩
  · rw [hpool.tokens]
    refine List.nodup_range.map ?_
    intro k k' h
    have hsame := responseToken_injective h
    omega
  · intro token hother
    cases acknowledge_cases token a with
    | inl hkept => rw [hkept.2]
    | inr htaken =>
      obtain ⟨id,bytes,htoken,hpending,_⟩ := htaken
      exact absurd htoken (hother id (AList.lookup_isSome.1 (by rw [hpending]; rfl)))
  · intro token
    unfold acknowledge
    cases hparsed : parseToken token with
    | none =>
      refine ⟨nofun,?_⟩
      intro h
      obtain ⟨id,hid⟩ := h
      rw [parseToken_eq_some.2 hid] at hparsed
      cases hparsed
    | some id =>
      have hid := parseToken_eq_some.1 hparsed
      refine ⟨fun _ => ⟨id,hid⟩,fun _ => ?_⟩
      simp only
      split
      · rfl
      · rfl
  · intro id pointLimit e h
    cases inspect_cases id pointLimit a with
    | inl hrefused =>
      obtain ⟨e',hrefused⟩ := hrefused
      rw [hrefused]
    | inr hgiven =>
      obtain ⟨reply,hreply,_⟩ := hgiven
      rw [hreply] at h
      cases h

end Runs
end WorkloadArchive
end BatCave.WorkloadHistory
