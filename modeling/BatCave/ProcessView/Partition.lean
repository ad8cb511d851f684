import BatCave.ProcessView.Members

/-! The grouped view as a partition of the sample: which processes the groups are made of, what
the groups add up to, and which rows a query emits for them. -/
namespace BatCave.ProcessView
open BatCave.Contracts BatCave.Lib BatCave.Lib.Word BatCave.Lib.Text
open BatCave.WorkloadIdentity (BatCaveWorkloadContext WorkloadMembership workloadMemberships
  workloadMembershipsWithContext)

section Sums

/-- The saturating sum over the members of which a metric was observed. -/
def observedSum (metric : GroupMetric) (value : ProcessSample → Nat)
    (processes : List ProcessSample) : Nat :=
  min (((processes.filter (fun process => groupMetricHasObservedValue process metric)).map
    value).sum) u64Max

theorem observedSum_snoc (metric : GroupMetric) (value : ProcessSample → Nat)
    (processes : List ProcessSample) (process : ProcessSample) :
    observedSum metric value (processes++[process])=
      if groupMetricHasObservedValue process metric then
        satAdd (observedSum metric value processes) (value process)
      else observedSum metric value processes := by
  unfold observedSum
  rw [List.filter_append,List.map_append,List.sum_append]
  cases hobserved : groupMetricHasObservedValue process metric with
  | true =>
    rw [if_pos rfl,satAdd_min]
    simp [hobserved]
  | false => simp [hobserved]

end Sums

section Groups
variable {lower : Lowercase} {sha256 : List UInt8 → List UInt8} {history : RankingHistory}
  {processes : List ProcessSample}

/-- A group that is the sum of its members. -/
structure Adds (group : ProcessAppGroup) : Prop where
  nonempty : group.processes≠[]
  ranked : group.memberRanking.length=group.processes.length
  memory : group.memoryBytes=observedSum .memory ProcessSample.memoryBytes group.processes
  io : group.ioBps=observedSum .io processIoRate group.processes
  network : group.networkBps=observedSum .network processNetworkRate group.processes
  threads : group.threads=observedSum .threads ProcessSample.threads group.processes

/-- One more member keeps the sums. -/
theorem Adds.absorb {group : ProcessAppGroup}
    (ranked : group.memberRanking.length=group.processes.length)
    (memory : group.memoryBytes=observedSum .memory ProcessSample.memoryBytes group.processes)
    (io : group.ioBps=observedSum .io processIoRate group.processes)
    (network : group.networkBps=observedSum .network processNetworkRate group.processes)
    (threads : group.threads=observedSum .threads ProcessSample.threads group.processes)
    (process : ProcessSample) : Adds (group.absorb history process) := by
  refine ⟨?_,?_,?_,?_,?_,?_⟩
  · simp [processes_absorb]
  · simp [ProcessAppGroup.absorb,ranked]
  · rw [processes_absorb,observedSum_snoc,← memory]
    rfl
  · rw [processes_absorb,observedSum_snoc,← io]
    rfl
  · rw [processes_absorb,observedSum_snoc,← network]
    rfl
  · rw [processes_absorb,observedSum_snoc,← threads]
    rfl

variable (lower history processes) in
/-- One turn of the loop: the group of the key takes the process, or a new one does. -/
theorem addToGroups_cases (groups : List ProcessAppGroup)
    (member : ProcessSample × WorkloadMembership) :
    (∃ before group after, groups=before++group::after ∧ group.key=member.2.key ∧
      addToGroups lower history processes groups member=
        before++group.absorb history member.1::after) ∨
    ((∀ group∈groups, group.key≠member.2.key) ∧ ∃ representative,
      addToGroups lower history processes groups member=
        groups++[(newGroup lower member.2 representative).absorb history member.1]) := by
  unfold addToGroups
  cases hfind : groups.findIdx? (fun group => group.key==member.2.key) with
  | none =>
    refine .inr ⟨?_,_,rfl⟩
    intro group hgroup heq
    have hnone := List.findIdx?_eq_none_iff.1 hfind group hgroup
    rw [heq,beq_self_eq_true] at hnone
    cases hnone
  | some index =>
    obtain ⟨hindex,hkey,_⟩ := List.findIdx?_eq_some_iff_getElem.1 hfind
    have hsplit : groups=groups.take index++groups[index]::groups.drop (index+1) := by
      rw [List.getElem_cons_drop,List.take_append_drop]
    refine .inl ⟨groups.take index,groups[index],groups.drop (index+1),hsplit,
      beq_iff_eq.1 hkey,?_⟩
    simp only
    rw [List.modify_eq_take_cons_drop hindex]

/-- The groups of the processes so far. -/
structure Grouped (members : List (ProcessSample × WorkloadMembership))
    (groups : List ProcessAppGroup) : Prop where
  split : (groups.flatMap (·.processes)).Perm (members.map Prod.fst)
  keys : (groups.map (·.key)).Nodup
  adds : ∀ group∈groups, Adds group

theorem Grouped.add {members : List (ProcessSample × WorkloadMembership)}
    {groups : List ProcessAppGroup} (h : Grouped members groups)
    (member : ProcessSample × WorkloadMembership) :
    Grouped (members++[member]) (addToGroups lower history processes groups member) := by
  have hlast : (members++[member]).map Prod.fst=members.map Prod.fst++[member.1] := by simp
  cases addToGroups_cases lower history processes groups member with
  | inl hold =>
    obtain ⟨before,group,after,rfl,_,heq⟩ := hold
    rw [heq]
    refine ⟨?_,?_,?_⟩
    · have hsplit := h.split
      rw [List.flatMap_append,List.flatMap_cons] at hsplit ⊢
      rw [hlast,processes_absorb]
      refine List.Perm.trans ?_ (hsplit.append_right [member.1])
      simp only [List.append_assoc]
      refine List.Perm.append_left _ (List.Perm.append_left _ ?_)
      exact List.perm_append_comm
    · have hkeys := h.keys
      rw [List.map_append,List.map_cons] at hkeys ⊢
      exact hkeys
    · intro group' hgroup'
      rw [List.mem_append,List.mem_cons] at hgroup'
      cases hgroup' with
      | inl hbefore => exact h.adds group' (List.mem_append_left _ hbefore)
      | inr hrest =>
        cases hrest with
        | inl hthis =>
          have hadds := h.adds group (List.mem_append_right _ List.mem_cons_self)
          rw [hthis]
          exact Adds.absorb hadds.ranked hadds.memory hadds.io hadds.network hadds.threads member.1
        | inr hafter =>
          exact h.adds group' (List.mem_append_right _ (List.mem_cons_of_mem _ hafter))
  | inr hnew =>
    obtain ⟨hfresh,representative,heq⟩ := hnew
    rw [heq]
    refine ⟨?_,?_,?_⟩
    · rw [List.flatMap_append,List.flatMap_singleton,hlast,processes_absorb]
      exact h.split.append_right _
    · rw [List.map_append,List.nodup_append]
      refine ⟨h.keys,by simp,?_⟩
      intro key hkey key' hkey' hsame
      obtain ⟨group,hgroup,rfl⟩ := List.mem_map.1 hkey
      rw [List.map_singleton,List.mem_singleton] at hkey'
      exact hfresh group hgroup (hsame.trans hkey')
    · intro group hgroup
      rw [List.mem_append,List.mem_singleton] at hgroup
      cases hgroup with
      | inl hold => exact h.adds group hold
      | inr hthis =>
        rw [hthis]
        exact Adds.absorb rfl rfl rfl rfl rfl member.1

theorem grouped_loop (members : List (ProcessSample × WorkloadMembership)) :
    Grouped members (members.foldl (addToGroups lower history processes) []) := by
  induction members using List.reverseRecOn with
  | nil => exact ⟨.refl _,by simp,by simp⟩
  | append_singleton members member ih =>
    rw [List.foldl_append]
    exact ih.add member

theorem length_memberships (context : Option BatCaveWorkloadContext) :
    (workloadMembershipsWithContext processes context sha256).length=processes.length := by
  rw [workloadMembershipsWithContext,List.length_map,List.length_finRange]

variable (lower sha256 history processes) in
/-- The groups of a sample split its processes. -/
theorem grouped_build (context : Option BatCaveWorkloadContext) :
    ∃ members : List (ProcessSample × WorkloadMembership), members.map Prod.fst=processes ∧
      Grouped members (buildProcessGroupsWithContext lower sha256 processes history context) := by
  have hfirst (memberships : List WorkloadMembership)
      (hlength : memberships.length=processes.length) :
      (processes.zip memberships).map Prod.fst=processes := by
    rw [List.map_fst_zip]
    omega
  cases context with
  | none => exact ⟨_,hfirst _ (length_memberships none),grouped_loop _⟩
  | some context => exact ⟨_,hfirst _ (length_memberships (some context)),grouped_loop _⟩

end Groups

section Rows
variable (lower : Lowercase)

/-- What a row says of its process: the process, the key and size of its group, and whether it
stands under the group's row. -/
def rowMember : ProcessViewRow → Option (ProcessSample × String × Nat × Bool)
  | .process detail groupKey _ _ groupCount _ _ isGrouped _ =>
    some (detail.process,groupKey,groupCount,isGrouped)
  | .group .. => none

def rowGroup : ProcessViewRow → Option GroupDetail
  | .process .. => none
  | .group detail _ _ _ _ => some detail

/-- The rows of a group: that of its only member, or its own and then those of its members. -/
def Block (group : ProcessAppGroup) (rows : List ProcessViewRow) : Prop :=
  (∃ process, group.processes=[process] ∧
    rows.map rowMember=[some (process,group.key,1,false)]) ∨
  (1 < group.processes.length ∧ ∃ row members, rows=row::members ∧
    rowGroup row=some (groupDetail group) ∧
    (members.map rowMember).Perm (group.processes.map (fun process =>
      some (process,group.key,group.processes.length,true))))

theorem groupRows_block (query : RuntimeQuery) {group : ProcessAppGroup} (hadds : Adds group) :
    Block group (groupRows lower query group) := by
  have hmembers : ((sortBy (compareProcess lower query.sortColumn query.sortDirection)
      (group.processes.zip group.memberRanking)).map
        (fun member => processRow lower group member.1)).map rowMember |>.Perm
      (group.processes.map (fun process => some (process,group.key,group.processes.length,
        decide (1 < group.processes.length)))) := by
    have hperm := (List.mergeSort_perm (group.processes.zip group.memberRanking)
      (fun a b => compareProcess lower query.sortColumn query.sortDirection a b != .gt)).map
        (fun member => rowMember (processRow lower group member.1))
    rw [List.map_map]
    refine hperm.trans (.of_eq ?_)
    have hfirst : (group.processes.zip group.memberRanking).map Prod.fst=group.processes := by
      rw [List.map_fst_zip]
      rw [hadds.ranked]
    conv => rhs; rw [← hfirst,List.map_map]
    refine List.map_congr_left ?_
    intro member _
    simp only [processRow,rowMember,Function.comp_apply,hfirst]
  cases hprocesses : group.processes with
  | nil => exact absurd hprocesses hadds.nonempty
  | cons process rest =>
    cases rest with
    | nil =>
      refine .inl ⟨process,hprocesses,?_⟩
      rw [hprocesses] at hmembers
      have hsingle := List.perm_singleton.1 hmembers
      rw [groupRows,hprocesses]
      exact hsingle
    | cons process' rest =>
      have hmany : 1 < group.processes.length := by
        rw [hprocesses]
        simp
      have hrows : groupRows lower query group=groupRow group::
          (sortBy (compareProcess lower query.sortColumn query.sortDirection)
            (group.processes.zip group.memberRanking)).map
              (fun member => processRow lower group member.1) := by
        rw [groupRows,if_pos hmany]
        rfl
      rw [decide_eq_true hmany] at hmembers
      exact .inr ⟨hmany,groupRow group,_,hrows,rfl,hmembers⟩

/-- The groups that a query shows: of those that match, in their order, as many as it asks
for. -/
def shownGroups (query : RuntimeQuery) (attention : Finset Generation)
    (groups : List ProcessAppGroup) : List ProcessAppGroup :=
  (sortBy (compareProcessGroup lower query.sortColumn query.sortDirection)
    (groups.filter (groupMatches lower query attention))).take (max query.limit.toNat 1)

/-- A member matches the filter of a query, by its own texts or by the label of its group. -/
def MatchesFilter (query : RuntimeQuery) (group : ProcessAppGroup) (process : ProcessSample) :
    Prop :=
  let needle := lower.apply (trim query.filterText)
  needle="" ∨ contains (lower.apply group.label) needle=true ∨
    contains (lower.apply process.name) needle=true ∨ contains process.pid needle=true ∨
    contains (lower.apply process.exe) needle=true

theorem groupMatches_iff (query : RuntimeQuery) (attention : Finset Generation)
    (group : ProcessAppGroup) : groupMatches lower query attention group=true ↔
      ∃ process∈group.processes, MatchesFilter lower query group process ∧
        matchesFocusMode process query.focusMode attention=true := by
  simp only [groupMatches,List.any_eq_true,Bool.and_eq_true,Bool.or_eq_true,beq_iff_eq,
    MatchesFilter,or_assoc]

theorem shownGroups_perm (query : RuntimeQuery) (attention : Finset Generation)
    (groups : List ProcessAppGroup) :
    ∃ rest, (shownGroups lower query attention groups++rest).Perm
        (groups.filter (groupMatches lower query attention)) ∧
      (shownGroups lower query attention groups).length=min (max query.limit.toNat 1)
        (groups.filter (groupMatches lower query attention)).length := by
  refine ⟨(sortBy (compareProcessGroup lower query.sortColumn query.sortDirection)
    (groups.filter (groupMatches lower query attention))).drop (max query.limit.toNat 1),?_,?_⟩
  · rw [shownGroups,List.take_append_drop]
    exact List.mergeSort_perm _ _
  · rw [shownGroups,List.length_take,length_sortBy]

/-- All processes of a block are in its rows, each once. -/
theorem Block.processes {group : ProcessAppGroup} {rows : List ProcessViewRow}
    (hblock : Block group rows) :
    ((rows.filterMap rowMember).map (·.1)).Perm group.processes := by
  have hrows (rows : List ProcessViewRow) (members : List ProcessSample) (count : Nat)
      (grouped : Bool) (hperm : (rows.map rowMember).Perm
        (members.map (fun process => some (process,group.key,count,grouped)))) :
      ((rows.filterMap rowMember).map (·.1)).Perm members := by
    have hfilter := (hperm.filterMap id).map (fun member => member.1)
    rw [List.filterMap_map,List.filterMap_map] at hfilter
    refine hfilter.trans (.of_eq ?_)
    simp only [Function.id_comp]
    clear hfilter hperm
    induction members with
    | nil => rfl
    | cons process members ih => simpa using ih
  cases hblock with
  | inl hone =>
    obtain ⟨process,hprocesses,heq⟩ := hone
    rw [hprocesses]
    exact hrows rows [process] 1 false (.of_eq heq)
  | inr hmany =>
    obtain ⟨_,row,members,rfl,hrow,hperm⟩ := hmany
    have hnone : rowMember row=none := by
      cases row with
      | process => cases hrow
      | group => rfl
    rw [List.filterMap_cons_none hnone]
    exact hrows members group.processes _ true hperm

theorem blocks_processes {groups : List ProcessAppGroup} {blocks : List (List ProcessViewRow)}
    (hblocks : List.Forall₂ Block groups blocks) :
    ((blocks.flatten.filterMap rowMember).map (·.1)).Perm (groups.flatMap (·.processes)) := by
  induction hblocks with
  | nil => exact .refl _
  | cons hblock _ ih =>
    rw [List.flatten_cons,List.filterMap_append,List.map_append,List.flatMap_cons]
    exact hblock.processes.append ih

theorem length_le_flatMap {groups : List ProcessAppGroup}
    (hnonempty : ∀ group∈groups, group.processes≠[]) :
    groups.length ≤ (groups.flatMap (·.processes)).length := by
  induction groups with
  | nil => exact Nat.le_refl _
  | cons group groups ih =>
    have hthis := List.length_pos_iff.2 (hnonempty group List.mem_cons_self)
    have hrest := ih (fun g hg => hnonempty g (List.mem_cons_of_mem _ hg))
    rw [List.flatMap_cons,List.length_append,List.length_cons]
    omega

/-- The full view shows every group. -/
theorem shownGroups_full (attention : Finset Generation) {groups : List ProcessAppGroup}
    (hnonempty : ∀ group∈groups, group.processes≠[]) (hlength : groups.length < 2^64) :
    (shownGroups lower fullViewQuery attention groups).Perm groups := by
  have hall : groups.filter (groupMatches lower fullViewQuery attention)=groups := by
    rw [List.filter_eq_self]
    intro group hgroup
    rw [groupMatches_full,List.isEmpty_eq_false_iff.2 (hnonempty group hgroup)]
    rfl
  have hlimit : max fullViewQuery.limit.toNat 1=2^64-1 := rfl
  rw [shownGroups,hall,List.take_of_length_le]
  · exact List.mergeSort_perm _ _
  · rw [length_sortBy,hlimit]
    omega

end Rows

section View
variable (lower : Lowercase) (sha256 : List UInt8 → List UInt8)

/-- The grouped view: the groups split the sample and add up their members; a query shows the
first of the groups that match, each with all of its members and once; the full view shows
every process. -/
theorem grouped_view_partition (processes : List ProcessSample) (history : RankingHistory)
    (context : Option BatCaveWorkloadContext) (query : RuntimeQuery)
    (attention : Finset Generation) :
    let groups := buildProcessGroupsWithContext lower sha256 processes history context
    let shown := shownGroups lower query attention groups
    ((groups.flatMap (·.processes)).Perm processes ∧ (groups.map (·.key)).Nodup ∧
      ∀ group∈groups, group.processes≠[]) ∧
    (∀ group∈groups,
      (groupDetail group).processCount=group.processes.length ∧
      (groupDetail group).memoryBytes=
        observedSum .memory ProcessSample.memoryBytes group.processes ∧
      (groupDetail group).ioBps=observedSum .io processIoRate group.processes ∧
      (groupDetail group).networkBps=observedSum .network processNetworkRate group.processes ∧
      (groupDetail group).threads=observedSum .threads ProcessSample.threads group.processes) ∧
    (∃ blocks, emitProcessView lower groups query attention=blocks.flatten ∧
      List.Forall₂ Block shown blocks) ∧
    (∃ rest, (shown++rest).Perm (groups.filter (groupMatches lower query attention)) ∧
      shown.length=min (max query.limit.toNat 1)
        (groups.filter (groupMatches lower query attention)).length) ∧
    (∀ group, groupMatches lower query attention group=true ↔ ∃ process∈group.processes,
      MatchesFilter lower query group process ∧
        matchesFocusMode process query.focusMode attention=true) ∧
    (processes.length < 2^64 → (((emitProcessView lower groups fullViewQuery attention).filterMap
      rowMember).map (·.1)).Perm processes) := by
  intro groups shown
  obtain ⟨members,hmembers,hgrouped⟩ := grouped_build lower sha256 history processes context
  have hsplit : (groups.flatMap (·.processes)).Perm processes := by
    rw [← hmembers]
    exact hgrouped.split
  have hblocks : ∀ (query : RuntimeQuery) (some : List ProcessAppGroup), (∀ g∈some, g∈groups) →
      List.Forall₂ Block some (some.map (groupRows lower query)) := by
    intro query some hsub
    induction some with
    | nil => exact .nil
    | cons group some ih =>
      refine .cons (groupRows_block lower query ?_)
        (ih (fun g hg => hsub g (List.mem_cons_of_mem _ hg)))
      exact hgrouped.adds group (hsub group List.mem_cons_self)
  have hshown :
      ∀ (query : RuntimeQuery), ∀ g∈shownGroups lower query attention groups, g∈groups := by
    intro query g hg
    exact (List.mem_filter.1 (mem_sortBy.1 (List.mem_of_mem_take hg))).1
  refine ⟨⟨hsplit,hgrouped.keys,fun group hgroup => (hgrouped.adds group hgroup).nonempty⟩,?_,?_,
    shownGroups_perm lower query attention groups,groupMatches_iff lower query attention,?_⟩
  · intro group hgroup
    have hadds := hgrouped.adds group hgroup
    exact ⟨rfl,hadds.memory,hadds.io,hadds.network,hadds.threads⟩
  · exact ⟨shown.map (groupRows lower query),List.flatMap_def,hblocks query shown (hshown query)⟩
  · intro hlength
    have hnonempty := fun group hgroup => (hgrouped.adds group hgroup).nonempty
    have hcount := length_le_flatMap hnonempty
    rw [hsplit.length_eq] at hcount
    have hfull := shownGroups_full lower attention hnonempty (Nat.lt_of_le_of_lt hcount hlength)
    have hrows := blocks_processes (hblocks fullViewQuery _ (hshown fullViewQuery))
    rw [← List.flatMap_def] at hrows
    exact (hrows.trans (hfull.flatMap_right _)).trans hsplit

end View

namespace Limited

/-- A process of its own. -/
def process (pid exe : String) : ProcessSample where
  pid := pid
  parentPid := none
  startTimeMs := 1000
  name := exe
  exe := "/usr/bin/"++exe
  status := "Running"
  cpuPercent := 0.0
  memoryBytes := 4096
  privateBytes := 4096
  ioReadTotalBytes := 0
  ioWriteTotalBytes := 0
  ioReadBps := 0
  ioWriteBps := 0
  threads := 1
  handles := 1
  accessState := .full

abbrev groups : List ProcessAppGroup :=
  buildProcessGroupsWithContext .ascii id [process "1" "alpha",process "2" "beta"] ∅ none

end Limited

open Limited in
/-- Two groups match a query without a filter; a query for one shows one process. -/
theorem limited_view_omits :
    groups.map (fun group => group.processes.map (·.pid))=[["1"],["2"]] ∧
    (∀ group∈groups, groupMatches .ascii { limit := 1 } ∅ group=true) ∧
    (emitProcessView .ascii groups { limit := 1 } ∅).length=1 := by
  have hpids : groups.map (fun group => group.processes.map (·.pid))=[["1"],["2"]] := by
    decide
  have hone : ∀ group∈groups, group.processes.length=1 := by
    intro group hgroup
    have hmem := List.mem_map_of_mem (f := fun group => group.processes.map (·.pid)) hgroup
    rw [hpids,List.mem_cons,List.mem_singleton] at hmem
    have hlength : (group.processes.map (·.pid)).length=group.processes.length := List.length_map _
    cases hmem with
    | inl hfirst =>
      rw [hfirst] at hlength
      exact hlength.symm
    | inr hsecond =>
      rw [hsecond] at hlength
      exact hlength.symm
  have hall : ∀ group∈groups, groupMatches .ascii { limit := 1 } ∅ group=true := by
    intro group hgroup
    have htext : trim ({ limit := 1 } : RuntimeQuery).filterText="" := trim_empty
    rw [groupMatches_all htext rfl]
    have hlength := hone group hgroup
    cases hprocesses : group.processes with
    | nil =>
      rw [hprocesses] at hlength
      cases hlength
    | cons process rest => rfl
  refine ⟨hpids,hall,?_⟩
  obtain ⟨rest,hperm,hlength⟩ := shownGroups_perm .ascii { limit := 1 } ∅ groups
  have hcount : groups.length=2 := by
    have h := congrArg List.length hpids
    rwa [List.length_map] at h
  rw [List.filter_eq_self.2 hall] at hperm hlength
  rw [hcount] at hlength
  change (shownGroups .ascii { limit := 1 } ∅ groups).length=1 at hlength
  obtain ⟨group,hshown⟩ := List.length_eq_one_iff.1 hlength
  have hgroup : group∈groups := by
    refine hperm.mem_iff.1 (List.mem_append_left _ ?_)
    rw [hshown]
    exact List.mem_singleton_self _
  obtain ⟨_,_,hgrouped⟩ := grouped_build .ascii id ∅ [process "1" "alpha",process "2" "beta"] none
  have hrows : emitProcessView .ascii groups { limit := 1 } ∅=
      (shownGroups .ascii { limit := 1 } ∅ groups).flatMap (groupRows .ascii { limit := 1 }) := rfl
  rw [hrows,hshown,List.flatMap_singleton]
  cases groupRows_block .ascii { limit := 1 } (hgrouped.adds group hgroup) with
  | inl hsingle =>
    obtain ⟨_,_,heq⟩ := hsingle
    have h := congrArg List.length heq
    rwa [List.length_map] at h
  | inr hmany =>
    have hlength := hone group hgroup
    omega

end BatCave.ProcessView
