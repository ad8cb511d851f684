import BatCave.ProcessView.Overview

/-! Where the rows of a view come from: every group is made of processes of the sample, and
every row of a view stands for a group or for one of its members. -/
namespace BatCave.ProcessView
open BatCave.Contracts BatCave.Lib BatCave.Lib.Text
open BatCave.WorkloadIdentity (BatCaveWorkloadContext WorkloadMembership)

section Groups
variable {lower : Lowercase} {sha256 : List UInt8 → List UInt8} {history : RankingHistory}
  {processes : List ProcessSample}

theorem processes_absorb (group : ProcessAppGroup) (process : ProcessSample) :
    (group.absorb history process).processes=group.processes++[process] := rfl

/-- One turn of the loop adds the process to one group and no other. -/
theorem mem_addToGroups {groups : List ProcessAppGroup}
    {member : ProcessSample × WorkloadMembership} {group : ProcessAppGroup}
    (h : group∈addToGroups lower history processes groups member) :
    group∈groups ∨ (∃ before∈groups, group=before.absorb history member.1) ∨
      ∃ representative, (representative∈processes ∨ representative=member.1) ∧
        group=(newGroup lower member.2 representative).absorb history member.1 := by
  simp only [addToGroups] at h
  split at h
  · next index _ =>
    obtain ⟨i,hi⟩ := List.mem_iff_getElem?.mp h
    rw [List.getElem?_modify] at hi
    split at hi
    · obtain ⟨before,hbefore,rfl⟩ := Option.map_eq_some_iff.mp hi
      exact .inr (.inl ⟨before,List.mem_of_getElem? hbefore,rfl⟩)
    · simp only [Option.map_eq_map,Option.map_id_fun',id_eq] at hi
      exact .inl (List.mem_of_getElem? hi)
  · cases List.mem_append.mp h with
    | inl hold => exact .inl hold
    | inr hnew =>
      refine .inr (.inr ⟨_,?_,List.mem_singleton.mp hnew⟩)
      cases hrow : processes[member.2.representativeIndex]? with
      | none => exact .inr rfl
      | some representative => exact .inl (List.mem_of_getElem? hrow)

/-- The members of the groups are processes that the loop went over. -/
theorem members_of_loop (members : List (ProcessSample × WorkloadMembership)) :
    ∀ group∈members.foldl (addToGroups lower history processes) [],
      ∀ process∈group.processes, process∈members.map Prod.fst := by
  induction members using List.reverseRecOn with
  | nil => simp
  | append_singleton members member ih =>
    intro group hgroup process hprocess
    rw [List.foldl_append,List.foldl_cons,List.foldl_nil] at hgroup
    rw [List.map_append,List.mem_append]
    have habsorbed : ∀ before : ProcessAppGroup,
        (∀ p∈before.processes, p∈members.map Prod.fst) → group=before.absorb history member.1 →
        process∈members.map Prod.fst ∨ process∈[member].map Prod.fst := by
      intro before hbefore heq
      rw [heq,processes_absorb,List.mem_append] at hprocess
      cases hprocess with
      | inl hold => exact .inl (hbefore process hold)
      | inr hnew => exact .inr (by simpa using hnew)
    obtain hold | ⟨before,hbefore,heq⟩ | ⟨representative,_,heq⟩ := mem_addToGroups hgroup
    · exact .inl (ih group hold process hprocess)
    · exact habsorbed before (ih before hbefore) heq
    · exact habsorbed _ (by simp [newGroup]) heq

theorem mem_of_mem_group {context : Option BatCaveWorkloadContext} {group : ProcessAppGroup}
    (h : group∈buildProcessGroupsWithContext lower sha256 processes history context)
    {process : ProcessSample} (hp : process∈group.processes) : process∈processes := by
  obtain ⟨member,hmember,rfl⟩ := List.mem_map.mp (members_of_loop _ group h process hp)
  exact (List.of_mem_zip hmember).1

end Groups

section Rows
variable {lower : Lowercase} {groups : List ProcessAppGroup} {query : RuntimeQuery}
  {attention : Finset Generation}

theorem mem_sortBy {α : Type} {cmp : α → α → Ordering} {xs : List α} {x : α} :
    x∈sortBy cmp xs ↔ x∈xs := List.mem_mergeSort

/-- A row stands for a group of several members, or for a member of a group. -/
def StandsFor (lower : Lowercase) (group : ProcessAppGroup) (row : ProcessViewRow) : Prop :=
  row=groupRow group ∨ ∃ process∈group.processes, row=processRow lower group process

theorem standsFor_of_mem_groupRows {group : ProcessAppGroup} {row : ProcessViewRow}
    (h : row∈groupRows lower query group) : StandsFor lower group row := by
  cases List.mem_append.mp h with
  | inl hgroup =>
    split at hgroup
    · exact .inl (List.mem_singleton.mp hgroup)
    · cases hgroup
  | inr hrow =>
    obtain ⟨member,hmember,rfl⟩ := List.mem_map.mp hrow
    exact .inr ⟨member.1,(List.of_mem_zip (mem_sortBy.mp hmember)).1,rfl⟩

theorem mem_emitProcessView {row : ProcessViewRow}
    (h : row∈emitProcessView lower groups query attention) :
    ∃ group∈groups, StandsFor lower group row := by
  obtain ⟨group,hgroup,hrow⟩ := List.mem_flatMap.mp h
  exact ⟨group,(List.mem_filter.mp (mem_sortBy.mp (List.mem_of_mem_take hgroup))).1,
    standsFor_of_mem_groupRows hrow⟩

theorem mem_of_mem_shapeRows {processes : List ProcessSample} {history : RankingHistory}
    {process : ProcessSample}
    (h : process∈shapeRowsWithHistory lower processes history attention query) :
    process∈processes :=
  (List.mem_filter.mp (mem_sortBy.mp (List.mem_of_mem_take h))).1

theorem mem_of_mem_overview {rows : List ProcessViewRow} {ranking : ValuesByWorkload}
    {row : ProcessViewRow} (h : row∈shapeOverviewRows rows ranking) : row∈rows :=
  (List.mem_filter.mp h).1

/-- A query for everything selects every group that has a member. -/
theorem groupMatches_all (htext : trim query.filterText="") (hfocus : query.focusMode=.all)
    (attention : Finset Generation) (group : ProcessAppGroup) :
    groupMatches lower query attention group=!group.processes.isEmpty := by
  simp only [groupMatches,htext,hfocus,lower.apply_empty,matchesFocusMode,beq_self_eq_true,
    Bool.true_or,Bool.and_true]
  cases group.processes with
  | nil => rfl
  | cons process processes => simp

theorem length_sortBy {α : Type} (cmp : α → α → Ordering) (xs : List α) :
    (sortBy cmp xs).length=xs.length := List.length_mergeSort xs

theorem trim_empty : trim ""="" := by decide

theorem groupMatches_full (attention : Finset Generation) (group : ProcessAppGroup) :
    groupMatches lower fullViewQuery attention group=!group.processes.isEmpty := by
  have htext : trim fullViewQuery.filterText="" := trim_empty
  exact groupMatches_all htext rfl attention group

end Rows

section Maximum
variable {α : Type} {cmp : α → α → Ordering}

theorem mem_of_maxBy {xs : List α} {x : α} (h : maxBy cmp xs=some x) : x∈xs := by
  cases xs with
  | nil => cases h
  | cons y ys =>
    simp only [maxBy,Option.some.injEq] at h
    subst h
    induction ys generalizing y with
    | nil => simp
    | cons z zs ih =>
      rw [List.foldl_cons]
      split
      · cases List.mem_cons.mp (ih y) with
        | inl heq => simp [heq]
        | inr hmem => simp [hmem]
      · exact List.mem_cons_of_mem _ (ih z)

end Maximum
end BatCave.ProcessView
