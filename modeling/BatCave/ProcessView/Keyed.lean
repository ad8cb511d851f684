import BatCave.ProcessView.Partition
import BatCave.WorkloadIdentity.Membership

/-! The groups of a sample by the keys of its rows: a group takes the rows of its key, and where
digests do not collide the rows of one key are told apart by their PIDs. -/
namespace BatCave.WorkloadIdentity
open BatCave.Contracts (ProcessSample)

section Shared
variable {processes : List ProcessSample} {context : Option BatCaveWorkloadContext}

/-- A row that shares its root with another has a PID of its own. -/
theorem uniquePid_of_shared_root {i j : Row processes} (hne : i≠j)
    (hroot : root processes context i=root processes context j) :
    ∃ pid, UniquePid processes pid i := by
  have hi := @root_spec _ context i
  have hj := @root_spec _ context j
  by_cases happroved : Approved processes context i
  · obtain ⟨_,_,_,_,generation,_,hmatches⟩ := happroved
    exact ⟨generation.pid,hmatches.1⟩
  · obtain ⟨hfollows,hplain⟩ := hi.2 happroved
    cases hfollows.1.cases_head with
    | inr hstep =>
      obtain ⟨_,hjoins,_⟩ := hstep
      obtain ⟨pid,_,hunique,_,_⟩ := hjoins.1.1
      exact ⟨pid,hunique⟩
    | inl hself =>
      -- The row is a root: the other one follows its parents to it.
      have hjroot : root processes context j=i := hroot.symm.trans hself.symm
      have hjplain : ¬Approved processes context j := by
        intro hj'
        have hdesktop := hj.1 hj'
        rw [hjroot] at hdesktop
        exact happroved hdesktop.approved
      have hpath := (hj.2 hjplain).1.1
      rw [hjroot] at hpath
      cases hpath.cases_tail with
      | inl hsame => exact absurd hsame hne
      | inr hlast =>
        obtain ⟨_,_,hjoins⟩ := hlast
        obtain ⟨_,parentPid,_,_,hunique⟩ := hjoins.1.1
        exact ⟨parentPid,hunique⟩

/-- No two of the texts that are hashed for a sample have one digest. -/
def DigestsDiffer (processes : List ProcessSample) (context : Option BatCaveWorkloadContext)
    (sha256 : List UInt8 → List UInt8) : Prop :=
  Set.InjOn sha256
    (Set.range (fun r : Row processes => scopePreimage processes r (scope processes context r)))

theorem root_of_key {sha256 : List UInt8 → List UInt8} (hfit : Addressable processes)
    (hdigests : DigestsDiffer processes context sha256) {i j : Row processes}
    (h : (membership processes context sha256 i).key=(membership processes context sha256 j).key) :
    root processes context i=root processes context j := by
  rw [membership_key,membership_key] at h
  have hl := congrArg String.toList h
  simp only [scopeKey,String.toList_append,List.append_cancel_left_eq] at hl
  have hdigest := Lib.Text.hex_injective (String.toList_inj.mp hl)
  exact scopePreimage_inj hfit (root_root i) (hdigests ⟨_,rfl⟩ ⟨_,rfl⟩ hdigest)

end Shared
end BatCave.WorkloadIdentity

namespace BatCave.ProcessView
open BatCave.Contracts BatCave.Lib BatCave.Lib.Text
open BatCave.WorkloadIdentity (BatCaveWorkloadContext WorkloadMembership Row membership
  workloadMemberships workloadMembershipsWithContext UniquePid Addressable DigestsDiffer
  processPid root_of_key uniquePid_of_shared_root)

section Loop
variable {lower : Lowercase} {sha256 : List UInt8 → List UInt8} {history : RankingHistory}
  {processes : List ProcessSample}

/-- Every group has the members of its key, and every member's key has its group. -/
structure Keyed (members : List (ProcessSample × WorkloadMembership))
    (groups : List ProcessAppGroup) : Prop where
  own : ∀ group∈groups,
    group.processes=(members.filter (fun member => member.2.key==group.key)).map Prod.fst
  covered : ∀ member∈members, member.2.key∈groups.map (·.key)

theorem Keyed.add {members : List (ProcessSample × WorkloadMembership)}
    {groups : List ProcessAppGroup} (h : Keyed members groups)
    (hkeys : (groups.map (·.key)).Nodup) (member : ProcessSample × WorkloadMembership) :
    Keyed (members++[member]) (addToGroups lower history processes groups member) := by
  have hother : ∀ group∈groups, group.key≠member.2.key → group.processes=
      ((members++[member]).filter (fun m => m.2.key==group.key)).map Prod.fst := by
    intro group hgroup hne
    rw [List.filter_append,List.filter_cons_of_neg (by simpa using Ne.symm hne),
      List.filter_nil,List.append_nil]
    exact h.own group hgroup
  have hgrown : ∀ processes : List ProcessSample, processes=
      (members.filter (fun m => m.2.key==member.2.key)).map Prod.fst → processes++[member.1]=
        ((members++[member]).filter (fun m => m.2.key==member.2.key)).map Prod.fst := by
    intro processes heq
    rw [heq,List.filter_append,List.filter_cons_of_pos (by simp),List.filter_nil,List.map_append]
    rfl
  cases addToGroups_cases lower history processes groups member with
  | inl hold =>
    obtain ⟨before,group,after,rfl,hkey,heq⟩ := hold
    have hsplit := hkeys
    rw [List.map_append,List.map_cons,List.nodup_append,List.nodup_cons] at hsplit
    rw [heq]
    refine ⟨?_,?_⟩
    · intro group' hgroup'
      rw [List.mem_append,List.mem_cons] at hgroup'
      cases hgroup' with
      | inl hbefore =>
        refine hother group' (List.mem_append_left _ hbefore) ?_
        rw [← hkey]
        exact hsplit.2.2 group'.key (List.mem_map_of_mem hbefore) group.key List.mem_cons_self
      | inr hrest =>
        cases hrest with
        | inl hthis =>
          rw [hthis,processes_absorb]
          have hown := h.own group (List.mem_append_right _ List.mem_cons_self)
          rw [hkey] at hown
          have hsame : (group.absorb history member.1).key=member.2.key := hkey
          rw [hsame]
          exact hgrown group.processes hown
        | inr hafter =>
          refine hother group' (List.mem_append_right _ (List.mem_cons_of_mem _ hafter)) ?_
          intro hsame
          refine hsplit.2.1.1 ?_
          rw [hkey,← hsame]
          exact List.mem_map_of_mem hafter
    · intro member' hmember'
      have hkeep : (before++group.absorb history member.1::after).map (·.key)=
          (before++group::after).map (·.key) := by
        rw [List.map_append,List.map_append,List.map_cons,List.map_cons]
        rfl
      rw [hkeep]
      cases List.mem_append.mp hmember' with
      | inl hin => exact h.covered member' hin
      | inr hlast =>
        rw [List.mem_singleton.mp hlast,← hkey]
        exact List.mem_map_of_mem (List.mem_append_right _ List.mem_cons_self)
  | inr hnew =>
    obtain ⟨hfresh,representative,heq⟩ := hnew
    rw [heq]
    refine ⟨?_,?_⟩
    · intro group' hgroup'
      cases List.mem_append.mp hgroup' with
      | inl hin => exact hother group' hin (hfresh group' hin)
      | inr hlast =>
        rw [List.mem_singleton.mp hlast,processes_absorb]
        refine hgrown [] ?_
        rw [List.filter_eq_nil_iff.mpr,List.map_nil]
        intro m hm hsame
        obtain ⟨group,hgroup,hkey⟩ := List.mem_map.mp (h.covered m hm)
        exact hfresh group hgroup (hkey.trans (beq_iff_eq.mp hsame))
    · intro member' hmember'
      rw [List.map_append,List.mem_append]
      cases List.mem_append.mp hmember' with
      | inl hin => exact .inl (h.covered member' hin)
      | inr hlast =>
        rw [List.mem_singleton.mp hlast]
        exact .inr (List.mem_singleton_self _)

theorem keyed_loop (members : List (ProcessSample × WorkloadMembership)) :
    Keyed members (members.foldl (addToGroups lower history processes) []) := by
  induction members using List.reverseRecOn with
  | nil => exact ⟨by simp,by simp⟩
  | append_singleton members member ih =>
    rw [List.foldl_append]
    exact ih.add (grouped_loop members).keys member

variable (lower history)

/-- A group of a sample has the processes at the rows of its key. -/
theorem group_rows (context : Option BatCaveWorkloadContext) {group : ProcessAppGroup}
    (h : group∈buildProcessGroupsWithContext lower sha256 processes history context) :
    group.processes=((List.finRange processes.length).filter (fun i =>
      (membership processes context sha256 i).key==group.key)).map processes.get := by
  have hzip : ∀ memberships : List WorkloadMembership,
      memberships=(List.finRange processes.length).map (membership processes context sha256) →
      processes.zip memberships=(List.finRange processes.length).map
        (fun i => (processes[i],membership processes context sha256 i)) := by
    intro memberships heq
    have hself : processes=(List.finRange processes.length).map (fun i => processes[i]) :=
      (List.map_getElem_finRange processes).symm
    conv => lhs; rw [hself,heq]
    rw [List.zip_map']
  have hrows : ∀ members : List (ProcessSample × WorkloadMembership),
      members=(List.finRange processes.length).map
        (fun i => (processes[i],membership processes context sha256 i)) →
      group∈members.foldl (addToGroups lower history processes) [] →
      group.processes=((List.finRange processes.length).filter (fun i =>
        (membership processes context sha256 i).key==group.key)).map processes.get := by
    intro members heq hgroup
    have hown := (keyed_loop members).own group hgroup
    rw [heq,List.filter_map,List.map_map] at hown
    exact hown
  cases context with
  | none => exact hrows _ (hzip _ rfl) h
  | some context => exact hrows _ (hzip _ rfl) h

/-- A process of a group with others is the only one of its PID and start. -/
theorem group_unshared {context : Option BatCaveWorkloadContext} (hfit : Addressable processes)
    (hdigests : DigestsDiffer processes context sha256) {group : ProcessAppGroup}
    (h : group∈buildProcessGroupsWithContext lower sha256 processes history context)
    (hmany : 1 < group.processes.length) {process : ProcessSample}
    (hprocess : process∈group.processes) :
    ∀ other∈processes, generation other=generation process → other=process := by
  have hrows := group_rows lower history context h
  rw [hrows,List.length_map] at hmany
  rw [hrows] at hprocess
  obtain ⟨i,hi,rfl⟩ := List.mem_map.mp hprocess
  have hnodup := (List.nodup_finRange processes.length).filter
    (fun i => (membership processes context sha256 i).key==group.key)
  have hrest : ((List.finRange processes.length).filter (fun i =>
      (membership processes context sha256 i).key==group.key)).erase i≠[] := by
    intro hnil
    have hlength := List.length_erase_of_mem hi
    rw [hnil,List.length_nil] at hlength
    omega
  obtain ⟨j,hj⟩ := List.exists_mem_of_ne_nil _ hrest
  obtain ⟨hne,hjmem⟩ := hnodup.mem_erase_iff.mp hj
  have hikey := beq_iff_eq.mp (List.mem_filter.mp hi).2
  have hjkey := beq_iff_eq.mp (List.mem_filter.mp hjmem).2
  obtain ⟨pid,hunique⟩ := uniquePid_of_shared_root (Ne.symm hne)
    (root_of_key hfit hdigests (hikey.trans hjkey.symm))
  intro other hother hsame
  obtain ⟨k,hk,rfl⟩ := List.mem_iff_getElem.mp hother
  have hpid : processPid processes[k]=some pid := by
    have hown := hunique.pid
    have htext : processes[k].pid=processes[i].pid := congrArg Prod.fst hsame
    rwa [processPid,← htext] at hown
  have hrow := (hunique ⟨k,hk⟩).mp hpid
  rw [← hrow]
  rfl

end Loop
end BatCave.ProcessView
