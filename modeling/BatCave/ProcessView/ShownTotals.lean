import BatCave.ProcessView.Averages
import BatCave.ProcessView.Displays
import BatCave.ProcessView.Keyed

/-! The totals that the emitted rows show against those they are ranked by: one process row,
the rows of one group, and the order of the rows at the top level. -/
namespace BatCave.ProcessView
open BatCave.Contracts BatCave.Lib BatCave.Lib.Word BatCave.Lib.Text
open BatCave.WorkloadIdentity (BatCaveWorkloadContext Addressable DigestsDiffer)

section Rows
variable (lower : Lowercase) (display : ValuesByWorkload)

/-- Rows of groups and of processes that stand alone. -/
def isTopLevel : ProcessViewRow → Bool
  | .process _ _ _ _ _ _ _ isGrouped _ => !isGrouped
  | .group .. => true

/-- Rows of the members that stand under the row of the group. -/
def isMemberOf (key : String) : ProcessViewRow → Bool
  | .process _ groupKey _ _ _ _ _ isGrouped _ => isGrouped && groupKey==key
  | .group .. => false

/-- The row that stands for a group at the top level. -/
def topRow (group : ProcessAppGroup) : ProcessViewRow :=
  match group.processes with
  | [process] => processRow lower group process
  | _ => groupRow group

@[simp] theorem isTopLevel_displayRow (row : ProcessViewRow) :
    isTopLevel (displayRow display row)=isTopLevel row := by
  cases row <;> rfl

@[simp] theorem isMemberOf_displayRow (key : String) (row : ProcessViewRow) :
    isMemberOf key (displayRow display row)=isMemberOf key row := by
  cases row <;> rfl

/-- The rows of a group: that of its only member, or its own and those of its members. -/
theorem groupRows_cases (query : RuntimeQuery) {group : ProcessAppGroup} (hadds : Adds group) :
    (∃ process, group.processes=[process] ∧
      groupRows lower query group=[processRow lower group process]) ∨
    (1 < group.processes.length ∧ topRow lower group=groupRow group ∧
      ∃ members : List ProcessSample, members.Perm group.processes ∧ groupRows lower query group=
        groupRow group::members.map (processRow lower group)) := by
  have hfirst : (group.processes.zip group.memberRanking).map Prod.fst=group.processes := by
    rw [List.map_fst_zip]
    rw [hadds.ranked]
  have hperm := (List.mergeSort_perm (group.processes.zip group.memberRanking)
    (fun a b => compareProcess lower query.sortColumn query.sortDirection a b != .gt)).map Prod.fst
  rw [hfirst] at hperm
  have hrows : groupRows lower query group=
      (if 1 < group.processes.length then [groupRow group] else [])++
        ((sortBy (compareProcess lower query.sortColumn query.sortDirection)
          (group.processes.zip group.memberRanking)).map Prod.fst).map
            (processRow lower group) := by
    rw [groupRows,List.map_map]
    rfl
  cases hprocesses : group.processes with
  | nil => exact absurd hprocesses hadds.nonempty
  | cons process rest =>
    cases rest with
    | nil =>
      refine .inl ⟨process,rfl,?_⟩
      have hone := hperm
      rw [hprocesses,List.perm_singleton] at hone
      rw [hrows,if_neg (by simp [hprocesses]),sortBy,hprocesses,hone]
      rfl
    | cons other rest =>
      have hmany : 1 < group.processes.length := by simp [hprocesses]
      rw [← hprocesses]
      exact .inr ⟨hmany,by simp [topRow,hprocesses],_,hperm,by rw [hrows,if_pos hmany]; rfl⟩

/-- One row of each group stands at the top level. -/
theorem groupRows_topLevel (query : RuntimeQuery) {group : ProcessAppGroup} (hadds : Adds group) :
    (groupRows lower query group).filter isTopLevel=[topRow lower group] := by
  cases groupRows_cases lower query hadds with
  | inl hone =>
    obtain ⟨process,hprocesses,hrows⟩ := hone
    rw [hrows,topRow,hprocesses,List.filter_singleton]
    simp [isTopLevel,processRow,hprocesses]
  | inr hseveral =>
    obtain ⟨hmany,htop,members,_,hrows⟩ := hseveral
    have hnone : (members.map (processRow lower group)).filter isTopLevel=[] := by
      rw [List.filter_eq_nil_iff]
      intro row hrow
      obtain ⟨process,_,rfl⟩ := List.mem_map.mp hrow
      simp [isTopLevel,processRow,hmany]
    rw [hrows,List.filter_cons_of_pos rfl,hnone,htop]

/-- The member rows of a group among its rows, and none among those of other groups. -/
theorem groupRows_members (query : RuntimeQuery) {group : ProcessAppGroup} (hadds : Adds group)
    (key : String) : ((groupRows lower query group).filter (isMemberOf key)).Perm
      (if group.key=key ∧ 1 < group.processes.length then
        group.processes.map (processRow lower group) else []) := by
  cases groupRows_cases lower query hadds with
  | inl hone =>
    obtain ⟨process,hprocesses,hrows⟩ := hone
    rw [hrows,List.filter_singleton]
    simp [isMemberOf,processRow,hprocesses]
  | inr hseveral =>
    obtain ⟨hmany,_,members,hperm,hrows⟩ := hseveral
    rw [hrows,List.filter_cons_of_neg (by simp [isMemberOf,groupRow])]
    by_cases hkey : group.key=key
    · rw [if_pos ⟨hkey,hmany⟩,List.filter_eq_self.mpr]
      · exact hperm.map _
      · intro row hrow
        obtain ⟨process,_,rfl⟩ := List.mem_map.mp hrow
        simp [isMemberOf,processRow,hmany,hkey]
    · rw [if_neg (fun h => hkey h.1),List.filter_eq_nil_iff.mpr]
      intro row hrow
      obtain ⟨process,_,rfl⟩ := List.mem_map.mp hrow
      simp [isMemberOf,processRow,hkey]

/-- The member rows of one of several groups are those among its own rows. -/
theorem members_of_rows (query : RuntimeQuery) {shown : List ProcessAppGroup}
    (hadds : ∀ group∈shown, Adds group) (hkeys : (shown.map (·.key)).Nodup)
    {group : ProcessAppGroup} (hgroup : group∈shown) (hmany : 1 < group.processes.length) :
    ((shown.flatMap (groupRows lower query)).filter (isMemberOf group.key)).Perm
      (group.processes.map (processRow lower group)) := by
  have hnone : ∀ others : List ProcessAppGroup, (∀ other∈others, Adds other) →
      group.key∉others.map (·.key) →
      (others.flatMap (groupRows lower query)).filter (isMemberOf group.key)=[] := by
    intro others hothers hkey
    rw [List.filter_flatMap,List.flatMap_eq_nil_iff]
    intro other hother
    have hperm := groupRows_members lower query (hothers other hother) group.key
    have hne : other.key≠group.key := fun heq =>
      hkey (List.mem_map.mpr ⟨other,hother,heq⟩)
    rw [if_neg (fun h => hne h.1)] at hperm
    exact hperm.eq_nil
  obtain ⟨before,after,rfl⟩ := List.append_of_mem hgroup
  rw [List.map_append,List.map_cons,List.nodup_append,List.nodup_cons] at hkeys
  have hbefore : group.key∉before.map (·.key) := fun hmem =>
    hkeys.2.2 group.key hmem group.key List.mem_cons_self rfl
  have hown := groupRows_members lower query (hadds group hgroup) group.key
  rw [if_pos ⟨rfl,hmany⟩] at hown
  rw [List.flatMap_append,List.flatMap_cons,List.filter_append,List.filter_append,
    hnone before (fun other h => hadds other (List.mem_append_left _ h)) hbefore,
    hnone after (fun other h => hadds other
      (List.mem_append_right _ (List.mem_cons_of_mem _ h))) hkeys.2.1.1,
    List.nil_append,List.append_nil]
  exact hown

end Rows

section Values
variable (history : RankingHistory) (column : RateColumn)

theorem rankingValuesFor_le (process : ProcessSample) :
    column.ofValues (rankingValuesFor history process) ≤ u64Max := by
  have hsat : ∀ a b, satAdd a b ≤ u64Max := fun a b => by
    simp only [satAdd]
    omega
  have hwindow : ∀ values, sumU64 values/rankingWindowSamples ≤ u64Max := by
    intro values
    have hsmall : sumU64 values < 2^64 := by
      rw [sumU64_eq]
      exact Nat.mod_lt _ (by decide)
    have hdiv := Nat.div_le_self (sumU64 values) rankingWindowSamples
    simp only [u64Max]
    omega
  unfold rankingValuesFor
  cases history.lookup (generation process) with
  | none =>
    cases column with
    | io => exact hsat _ _
    | network => exact hsat _ _
  | some ring =>
    by_cases hestablished : ring.isEstablished=true
    · simp only [if_pos hestablished]
      cases column with
      | io => exact hwindow _
      | network => exact hwindow _
    · simp only [if_neg hestablished]
      cases column with
      | io => exact Nat.zero_le _
      | network => exact Nat.zero_le _

/-- The process has no window of samples that is too short to rank it by. -/
def Ripe (process : ProcessSample) : Prop :=
  ∀ ring, history.lookup (generation process)=some ring → ring.isEstablished=true

theorem ofValues_memberDisplay {process : ProcessSample}
    (hobserved : groupMetricHasObservedValue process column.metric=true)
    (hripe : Ripe history process) :
    column.ofValues (memberDisplayValues history process)=
      column.ofValues (rankingValuesFor history process) := by
  have hdisplay : displayValuesFor history process=rankingValuesFor history process := by
    unfold displayValuesFor
    cases hring : history.lookup (generation process) with
    | none => rfl
    | some ring =>
      simp only
      rw [if_pos (hripe ring hring)]
  cases column with
  | io =>
    have hio : groupMetricHasObservedValue process .io=true := hobserved
    simp [RateColumn.ofValues,memberDisplayValues,hio,hdisplay]
  | network =>
    have hnetwork : groupMetricHasObservedValue process .network=true := hobserved
    simp [RateColumn.ofValues,memberDisplayValues,hnetwork,hdisplay]

/-- No other sample has the PID and the start of the process. -/
def Unshared (processes : List ProcessSample) (process : ProcessSample) : Prop :=
  ∀ other∈processes, generation other=generation process → other=process

/-- What the process shows is what it is ranked by: it was observed and is ripe, or adds
nothing to either. -/
def Agrees (process : ProcessSample) : Prop :=
  (groupMetricHasObservedValue process column.metric=true ∧ Ripe history process) ∨
    (column.ofValues (rankingValuesFor history process)=0 ∧
      column.ofValues (memberDisplayValues history process)=0)

/-- A group whose row shows what it is ranked by: its members agree, and a lone one is the only
one of its generation and ranked by nothing if it is still. -/
structure Settled (processes : List ProcessSample) (group : ProcessAppGroup) : Prop where
  agrees : ∀ process∈group.processes, Agrees history column process
  unshared : ∀ process, group.processes=[process] → Unshared processes process
  moving : ∀ process, group.processes=[process] → column.still process=true →
    column.ofValues (rankingValuesFor history process)=0

theorem hasValue_of_observed {process : ProcessSample} {metric : GroupMetric}
    (h : groupMetricHasObservedValue process metric=true) :
    groupMetricHasValue process metric=true := by
  simp only [groupMetricHasObservedValue,groupMetricAvailable,Bool.or_eq_true,
    Bool.and_eq_true] at h
  cases h with
  | inl havailable => exact havailable.1
  | inr hheld => exact hheld.1

end Values

section Totals
variable {lower : Lowercase} {display : ValuesByWorkload} {column : RateColumn}
  {group : ProcessAppGroup} {process : ProcessSample} {values : ProcessRankingValues}

theorem shown_process (h : display.lookup (processWorkloadId process)=some values) :
    column.shown (displayRow display (processRow lower group process))=column.ofValues values := by
  cases column with
  | io => simp [processRow,displayRow,RateColumn.shown,RateColumn.ofValues,h]
  | network => simp [processRow,displayRow,RateColumn.shown,RateColumn.ofValues,h]

theorem wireTotal_process (h : display.lookup (processWorkloadId process)=some values) :
    column.wireTotal (displayRow display (processRow lower group process))=
      column.directions (displayProcess values process) := by
  simp [processRow,displayRow,RateColumn.wireTotal,h]

theorem shown_group (h : display.lookup (groupWorkloadId group.key)=some group.display) :
    column.shown (displayRow display (groupRow group))=column.ofValues group.display := by
  cases column with
  | io => simp [groupRow,groupDetail,displayRow,RateColumn.shown,RateColumn.ofValues,h]
  | network => simp [groupRow,groupDetail,displayRow,RateColumn.shown,RateColumn.ofValues,h]

theorem wireTotal_group (row : ProcessAppGroup) :
    column.wireTotal (displayRow display (groupRow row))=
      column.shown (displayRow display (groupRow row)) := rfl

end Totals

section View

/-- The directions of every row with an observed metric add up to the total it shows. -/
def DirectionsAgree (column : RateColumn) (rows : List ProcessViewRow) : Prop :=
  ∀ row∈rows, ∀ member, rowMember row=some member →
    groupMetricHasObservedValue member.1 column.metric=true →
    column.wireTotal row=column.shown row

/-- The row of every group shows the saturating sum of what the rows of its members show. -/
def GroupsAdd (column : RateColumn) (rows : List ProcessViewRow) : Prop :=
  ∀ row∈rows, ∀ detail, rowGroup row=some detail → column.shown row=
    min (((rows.filter (isMemberOf detail.groupKey)).map column.shown).sum) u64Max

/-- The totals on the wire of the established groups are in order. -/
def WireOrdered (lower : Lowercase) (column : RateColumn) (direction : SortDirection)
    (display : ValuesByWorkload) (shown : List ProcessAppGroup) : Prop :=
  shown.Pairwise (fun left right => left.ranking.established=true →
    right.ranking.established=true → RateLE direction
      (column.wireTotal (displayRow display (topRow lower left)))
      (column.wireTotal (displayRow display (topRow lower right))))

variable {lower : Lowercase} {history : RankingHistory} {column : RateColumn}
  {processes : List ProcessSample} {groups shown : List ProcessAppGroup} {query : RuntimeQuery}
  {attention : Finset Generation}

/-- A pair of directions that is still stays so; every other is scaled to the shown total. -/
theorem directions_agree (hdisplays : ∀ group∈groups, Displays history group)
    {row : ProcessViewRow} (hrow : row∈emitProcessView lower groups query attention)
    {member : ProcessSample × String × Nat × Bool} (hmember : rowMember row=some member)
    (hobserved : groupMetricHasObservedValue member.1 column.metric=true) :
    column.wireTotal (displayRow (displayByWorkload groups) row)=
      if column.still member.1 then 0
      else column.shown (displayRow (displayByWorkload groups) row) := by
  obtain ⟨group,hgroup,hstands⟩ := mem_emitProcessView hrow
  cases hstands with
  | inl hown =>
    rw [hown] at hmember
    cases hmember
  | inr hof =>
    obtain ⟨process,hprocess,rfl⟩ := hof
    simp only [processRow,rowMember,Option.some.injEq] at hmember
    subst hmember
    obtain ⟨values,hvalues⟩ := display_isSome hgroup (hdisplays group hgroup) hprocess
    rw [wireTotal_process hvalues,shown_process hvalues]
    exact directions_displayProcess column values (hasValue_of_observed hobserved)

theorem sum_shown_members {display : ValuesByWorkload} {group : ProcessAppGroup}
    (hlookup : ∀ process∈group.processes, display.lookup (processWorkloadId process)=
      some (memberDisplayValues history process)) :
    ((group.processes.map (processRow lower group)).map
      (fun row => column.shown (displayRow display row))).sum=
      (group.processes.map (fun process =>
        column.ofValues (memberDisplayValues history process))).sum := by
  rw [List.map_map]
  congr 1
  refine List.map_congr_left ?_
  intro process hprocess
  rw [Function.comp_apply,shown_process (hlookup process hprocess)]

/-- Where members share their generation with no other, every group shows the sum of what its
members show. -/
theorem groups_add (hadds : ∀ group∈groups, Adds group)
    (hdisplays : ∀ group∈groups, Displays history group) (hkeys : (groups.map (·.key)).Nodup)
    (hof : ∀ group∈groups, ∀ process∈group.processes, process∈processes)
    (hunshared : ∀ group∈groups, 1 < group.processes.length →
      ∀ process∈group.processes, Unshared processes process)
    (hshown : ∀ group∈shown, group∈groups) (hshownKeys : (shown.map (·.key)).Nodup) :
    GroupsAdd column (applyDisplayValues (shown.flatMap (groupRows lower query))
      (displayByWorkload groups)) := by
  intro row hrow detail hdetail
  obtain ⟨plain,hplain,rfl⟩ := List.mem_map.mp hrow
  obtain ⟨group,hgroup,hin⟩ := List.mem_flatMap.mp hplain
  have hmem := hshown group hgroup
  have hmembers : (applyDisplayValues (shown.flatMap (groupRows lower query))
      (displayByWorkload groups)).filter (isMemberOf group.key)=
        ((shown.flatMap (groupRows lower query)).filter (isMemberOf group.key)).map
          (displayRow (displayByWorkload groups)) := by
    rw [applyDisplayValues,List.filter_map]
    congr 1
    refine List.filter_congr ?_
    intro row _
    exact isMemberOf_displayRow _ group.key row
  cases groupRows_cases lower query (hadds group hmem) with
  | inl hone =>
    obtain ⟨process,_,hrows⟩ := hone
    rw [hrows,List.mem_singleton] at hin
    rw [hin] at hdetail
    cases hdetail
  | inr hseveral =>
    obtain ⟨hmany,_,members,_,hrows⟩ := hseveral
    rw [hrows,List.mem_cons] at hin
    cases hin with
    | inl hown =>
      have hkey : detail.groupKey=group.key := by
        rw [hown] at hdetail
        simp only [groupRow,displayRow,rowGroup,Option.some.injEq] at hdetail
        rw [← hdetail]
        split <;> rfl
      have hperm := (members_of_rows lower query (fun g hg => hadds g (hshown g hg)) hshownKeys
        hgroup hmany).map (fun row => column.shown (displayRow (displayByWorkload groups) row))
      rw [hown,hkey,hmembers,List.map_map,shown_group (display_group hkeys hmem),
        (hdisplays group hmem).display column]
      congr 1
      have hsum := hperm.sum_eq
      have hlookup : ∀ process∈group.processes, (displayByWorkload groups).lookup
          (processWorkloadId process)=some (memberDisplayValues history process) :=
        fun process hprocess => display_member hdisplays hmem hprocess
          (fun other hother sample hsample =>
            hunshared group hmem hmany process hprocess sample (hof other hother sample hsample))
      rw [sum_shown_members hlookup] at hsum
      exact hsum.symm
    | inr hof =>
      obtain ⟨process,_,rfl⟩ := List.mem_map.mp hof
      cases hdetail

/-- A settled group is shown on the wire with the total it is ranked by. -/
theorem wireTotal_settled (hadds : ∀ group∈groups, Adds group)
    (hdisplays : ∀ group∈groups, Displays history group) (hkeys : (groups.map (·.key)).Nodup)
    (hof : ∀ group∈groups, ∀ process∈group.processes, process∈processes)
    {group : ProcessAppGroup} (hgroup : group∈groups)
    (hsettled : Settled history column processes group) :
    column.wireTotal (displayRow (displayByWorkload groups) (topRow lower group))=
      column.ofValues group.ranking := by
  have hvalue : ∀ process∈group.processes, column.ofValues (memberDisplayValues history process)=
      column.ofValues (rankingValuesFor history process) := by
    intro process hprocess
    cases hsettled.agrees process hprocess with
    | inl hlive => exact ofValues_memberDisplay history column hlive.1 hlive.2
    | inr hnothing => rw [hnothing.1,hnothing.2]
  cases groupRows_cases lower fullViewQuery (hadds group hgroup) with
  | inl hone =>
    obtain ⟨process,hprocesses,_⟩ := hone
    have hprocess : process∈group.processes := by simp [hprocesses]
    have htop : topRow lower group=processRow lower group process := by
      simp [topRow,hprocesses]
    have hlookup := display_member hdisplays hgroup hprocess
      (fun other hother sample hsample =>
        hsettled.unshared process hprocesses sample (hof other hother sample hsample))
    have hranking : column.ofValues group.ranking=
        column.ofValues (rankingValuesFor history process) := by
      rw [(hdisplays group hgroup).ranking column,hprocesses,List.map_singleton,
        List.sum_singleton,min_eq_left (rankingValuesFor_le history column process)]
    rw [htop,wireTotal_process hlookup,hranking]
    cases hsettled.agrees process hprocess with
    | inl hlive =>
      rw [directions_displayProcess column _ (hasValue_of_observed hlive.1),
        hvalue process hprocess]
      by_cases hstill : column.still process=true
      · rw [if_pos hstill,hsettled.moving process hprocesses hstill]
      · rw [if_neg hstill]
    | inr hnothing => rw [directions_zero column hnothing.2,hnothing.1]
  | inr hseveral =>
    obtain ⟨_,htop,_⟩ := hseveral
    rw [htop,wireTotal_group,shown_group (display_group hkeys hgroup),
      (hdisplays group hgroup).display column,(hdisplays group hgroup).ranking column,
      List.map_congr_left hvalue]

theorem topLevel_rows (hadds : ∀ group∈shown, Adds group) (display : ValuesByWorkload) :
    (applyDisplayValues (shown.flatMap (groupRows lower query)) display).filter isTopLevel=
      shown.map (fun group => displayRow display (topRow lower group)) := by
  have hkeep : (isTopLevel ∘ displayRow display)=isTopLevel :=
    funext (isTopLevel_displayRow display)
  rw [applyDisplayValues,List.filter_map,hkeep]
  induction shown with
  | nil => rfl
  | cons group shown ih =>
    have hrest := ih (fun g hg => hadds g (List.mem_cons_of_mem _ hg))
    rw [List.flatMap_cons,List.filter_append,List.map_append,hrest,
      groupRows_topLevel lower query (hadds group List.mem_cons_self)]
    rfl

/-- The groups that a query for a rate shows are in the order of what they are ranked by. -/
theorem shownGroups_ordered (hcolumn : query.sortColumn=column.sortColumn) :
    (shownGroups lower query attention groups).Pairwise (fun left right =>
      left.ranking.established=true → right.ranking.established=true →
        RateLE query.sortDirection (column.ofValues left.ranking)
          (column.ofValues right.ranking)) := by
  have htrans : Std.TransCmp (compareProcessGroup lower query.sortColumn query.sortDirection) := by
    rw [hcolumn,compareProcessGroup_rate]
    infer_instance
  refine List.Pairwise.take (List.Pairwise.imp ?_ (sortBy_pairwise _))
  intro left right hle hleft hright
  rw [hcolumn] at hle
  exact rate_ordered lower hleft hright hle

variable (lower history column query attention)

/-- The rows of a query for a rate: a process whose directions are not both zero has them add
up to its total, a group shows the sum of its members if digests do not collide, and the rows
at the top level are in the order of what their groups are ranked by, which is what settled
ones have on the wire. -/
theorem rows_show_totals (sha256 : List UInt8 → List UInt8) (processes : List ProcessSample)
    (context : Option BatCaveWorkloadContext) (hcolumn : query.sortColumn=column.sortColumn) :
    let groups := buildProcessGroupsWithContext lower sha256 processes history context
    let shown := shownGroups lower query attention groups
    let display := displayByWorkload groups
    let rows := applyDisplayValues (emitProcessView lower groups query attention) display
    (∀ row∈emitProcessView lower groups query attention, ∀ member, rowMember row=some member →
      groupMetricHasObservedValue member.1 column.metric=true →
        column.wireTotal (displayRow display row)=
          if column.still member.1 then 0 else column.shown (displayRow display row)) ∧
    (Addressable processes → DigestsDiffer processes context sha256 → GroupsAdd column rows) ∧
    rows.filter isTopLevel=shown.map (fun group => displayRow display (topRow lower group)) ∧
    shown.Pairwise (fun left right => left.ranking.established=true →
      right.ranking.established=true →
        RateLE query.sortDirection (column.ofValues left.ranking) (column.ofValues right.ranking) ∧
        (Settled history column processes left → Settled history column processes right →
          RateLE query.sortDirection
            (column.wireTotal (displayRow display (topRow lower left)))
            (column.wireTotal (displayRow display (topRow lower right))))) := by
  intro groups shown display rows
  obtain ⟨members,hmembers,hgrouped⟩ := grouped_build lower sha256 history processes context
  have hdisplays := displays_build lower sha256 history processes context
  have hof : ∀ group∈groups, ∀ process∈group.processes, process∈processes :=
    fun group hgroup process hprocess => mem_of_mem_group hgroup hprocess
  have hshown : ∀ group∈shown, group∈groups := fun group hgroup =>
    (List.mem_filter.mp (mem_sortBy.mp (List.mem_of_mem_take hgroup))).1
  refine ⟨?_,?_,?_,?_⟩
  · intro row hrow member hmember hobserved
    exact directions_agree hdisplays hrow hmember hobserved
  · intro hfit hdigests
    have hkeys : (shown.map (·.key)).Nodup := by
      obtain ⟨rest,hperm,_⟩ := shownGroups_perm lower query attention groups
      have hall := (hperm.map (·.key)).nodup_iff.mpr
        (hgrouped.keys.sublist (List.filter_sublist.map _))
      rw [List.map_append,List.nodup_append] at hall
      exact hall.1
    have hunshared : ∀ group∈groups, 1 < group.processes.length →
        ∀ process∈group.processes, Unshared processes process := by
      intro group hgroup hmany process hprocess
      exact group_unshared lower history hfit hdigests hgroup hmany hprocess
    exact groups_add hgrouped.adds hdisplays hgrouped.keys hof hunshared hshown hkeys
  · exact topLevel_rows (fun group hgroup => hgrouped.adds group (hshown group hgroup)) display
  · refine List.Pairwise.imp_of_mem ?_ (shownGroups_ordered hcolumn)
    intro left right hleft hright horder hestablished hestablished'
    refine ⟨horder hestablished hestablished',?_⟩
    intro hsettled hsettled'
    rw [wireTotal_settled hgrouped.adds hdisplays hgrouped.keys hof (hshown left hleft) hsettled,
      wireTotal_settled hgrouped.adds hdisplays hgrouped.keys hof (hshown right hright) hsettled']
    exact horder hestablished hestablished'

end View

section InOrder
variable {lower : Lowercase} {query : RuntimeQuery} {attention : Finset Generation}
  {groups : List ProcessAppGroup}

/-- Groups that are in order already are shown as they are. -/
theorem shown_sorted (hadds : ∀ group∈groups, Adds group) (htext : trim query.filterText="")
    (hfocus : query.focusMode=.all)
    (hsorted : groups.Pairwise (fun a b =>
      (compareProcessGroup lower query.sortColumn query.sortDirection a b != .gt)=true))
    (hfew : groups.length ≤ max query.limit.toNat 1) :
    shownGroups lower query attention groups=groups := by
  have hall : groups.filter (groupMatches lower query attention)=groups := by
    rw [List.filter_eq_self]
    intro group hgroup
    rw [groupMatches_all htext hfocus,
      List.isEmpty_eq_false_iff.mpr (hadds group hgroup).nonempty]
    rfl
  rw [shownGroups,hall,sortBy,List.mergeSort_of_pairwise hsorted,List.take_of_length_le hfew]

/-- The rows of a group whose members are in order. -/
def listedRows (lower : Lowercase) (group : ProcessAppGroup) : List ProcessViewRow :=
  (if 1 < group.processes.length then [groupRow group] else [])++
    (group.processes.zip group.memberRanking).map (fun member => processRow lower group member.1)

theorem emit_sorted (hshown : shownGroups lower query attention groups=groups)
    (hmembers : ∀ group∈groups, (group.processes.zip group.memberRanking).Pairwise (fun a b =>
      (compareProcess lower query.sortColumn query.sortDirection a b != .gt)=true)) :
    emitProcessView lower groups query attention=groups.flatMap (listedRows lower) := by
  have hrows : emitProcessView lower groups query attention=
      groups.flatMap (groupRows lower query) :=
    congrArg (List.flatMap (groupRows lower query)) hshown
  rw [hrows]
  refine List.flatMap_congr (fun group hgroup => ?_)
  rw [groupRows,sortBy,List.mergeSort_of_pairwise (hmembers group hgroup),listedRows]

end InOrder

namespace Sorted
open BatCave.Lib.Bytes

/-- A process that reads and of which I/O was observed. -/
def reader (pid exe : String) (rate : Nat) : ProcessSample :=
  { Limited.process pid exe with
    ioReadBps := rate
    quality := some { io := some (.new .native .procfs) } }

/-- A window of samples of one rate. -/
def ring (samples rate : Nat) : RankingRing where
  cpuPercent := List.replicate samples 0.0
  ioBps := List.replicate samples rate
  networkBps := List.replicate samples 0

/-- The first process read before and does not now. -/
def rested : List ProcessSample × RankingHistory :=
  ([reader "1" "alpha" 0,reader "2" "beta" 20],
    (∅ : RankingHistory).insert ("1",1000) (ring 3 500))

/-- What the first process reads was not observed. -/
def unseen : List ProcessSample × RankingHistory :=
  ([{ reader "1" "alpha" 100 with quality := none },reader "2" "beta" 20],∅)

/-- The second group has a member that is too young to be ranked. -/
def grown : List ProcessSample × RankingHistory :=
  ([reader "1" "alpha" 100,reader "2" "beta" 10,
      { reader "3" "beta" 500 with
        parentPid := some "2"
        startTimeMs := 2000 }],
    (∅ : RankingHistory).insert ("3",2000) (ring 1 500))

/-- One generation is listed twice. -/
def repeated : List ProcessSample × RankingHistory :=
  ([reader "1" "alpha" 100,reader "2" "beta" 75,reader "1" "gamma" 50],∅)

/-- The executable and the identities of a scope as they are hashed, and the row if one PID is
listed twice. -/
def scopeText (values : List String) (row : List UInt8) : List UInt8 :=
  (values.map utf8).flatMap lengthPrefixed++row

/-- The scopes of the groups, each with its SHA-256. -/
def digests : List (List UInt8 × List UInt8) :=
  [(scopeText ["exe:/usr/bin/alpha","1:1000"] [],
      [108,42,253,234,202,51,49,75,105,224,224,59,89,244,255,53,96,79,72,207,120,246,28,187,189,
      61,141,234,19,231,25,84]),
    (scopeText ["exe:/usr/bin/beta","2:1000"] [],
      [104,46,126,223,0,211,33,5,83,118,160,218,200,157,129,58,39,9,118,166,122,41,6,172,156,30,
      83,88,111,116,227,1]),
    (scopeText ["exe:/usr/bin/beta","2:1000","3:2000"] [],
      [243,247,125,169,197,88,44,159,189,71,224,49,149,218,181,152,216,46,164,229,231,100,104,27,
      50,52,243,198,225,16,153,49]),
    (scopeText ["exe:/usr/bin/alpha","1:1000"] (toLe 8 0),
      [91,245,44,135,107,174,25,164,253,64,36,158,15,179,106,176,5,87,208,177,211,4,179,226,138,
      171,164,47,51,95,161,200]),
    (scopeText ["exe:/usr/bin/gamma","1:1000"] (toLe 8 2),
      [106,34,104,115,2,141,192,7,79,201,151,101,127,177,217,70,232,53,156,66,113,24,15,66,158,
      158,230,78,34,229,19,130])]

def digest (text : List UInt8) : List UInt8 :=
  ((digests.find? (fun entry => entry.1==text)).map Prod.snd).getD text

abbrev groups (sample : List ProcessSample × RankingHistory) : List ProcessAppGroup :=
  buildProcessGroupsWithContext .ascii digest sample.1 sample.2 none

abbrev query : RuntimeQuery := { sortColumn := .ioBps, sortDirection := .desc }

abbrev rows (sample : List ProcessSample × RankingHistory) : List ProcessViewRow :=
  applyDisplayValues (emitProcessView .ascii (groups sample) query ∅)
    (displayByWorkload (groups sample))

/-- What the wire shows of groups of which every one is established. -/
def wireTotals (groups : List ProcessAppGroup) : List Nat :=
  groups.map (fun group =>
    RateColumn.io.wireTotal (displayRow (displayByWorkload groups) (topRow .ascii group)))

theorem topLevel_sorted {sample : List ProcessSample × RankingHistory}
    (hshown : shownGroups .ascii query ∅ (groups sample)=groups sample) :
    (rows sample).filter isTopLevel=(groups sample).map (fun group =>
      displayRow (displayByWorkload (groups sample)) (topRow .ascii group)) := by
  obtain ⟨_,_,hgrouped⟩ := grouped_build .ascii digest sample.2 sample.1 none
  have hrows : emitProcessView .ascii (groups sample) query ∅=
      (groups sample).flatMap (groupRows .ascii query) :=
    congrArg (List.flatMap (groupRows .ascii query)) hshown
  rw [rows,hrows]
  exact topLevel_rows hgrouped.adds _

end Sorted

open Sorted in
/-- Of a group with a young member the row shows what the rows of its members do. -/
theorem grown_rows_add : GroupsAdd .io (rows grown) := by
  refine (rows_show_totals .ascii grown.2 .io query ∅ digest grown.1 none rfl).2.1 ?_ ?_
  · exact ⟨by decide,by decide,by decide,by decide⟩
  · rintro _ ⟨row,rfl⟩ _ ⟨row',rfl⟩ h
    have hdiffer : ∀ row row' : WorkloadIdentity.Row grown.1,
        digest (WorkloadIdentity.scopePreimage grown.1 row
          (WorkloadIdentity.scope grown.1 none row))=
        digest (WorkloadIdentity.scopePreimage grown.1 row'
          (WorkloadIdentity.scope grown.1 none row')) → row=row' := by
      decide
    rw [hdiffer row row' h]

open Sorted in
/-- A pair of directions that is still does not add up to the average that the row shows. Such a
row, one of unseen rates, one with a young member and one of a repeated generation stand where
their totals on the wire do not belong. -/
theorem rested_rows_differ : ¬DirectionsAgree .io (rows rested) ∧
    ∀ sample∈[rested,unseen,grown,repeated], ¬WireOrdered .ascii .io query.sortDirection
      (displayByWorkload (groups sample)) (shownGroups .ascii query ∅ (groups sample)) := by
  have hshown : ∀ sample∈[rested,unseen,grown,repeated],
      shownGroups .ascii query ∅ (groups sample)=groups sample := by
    have hsorted : ∀ sample∈[rested,unseen,grown,repeated], (groups sample).Pairwise
        (fun a b => (compareProcessGroup .ascii .ioBps .desc a b != .gt)=true) := by
      decide
    have hfew : ∀ sample∈[rested,unseen,grown,repeated],
        (groups sample).length ≤ max query.limit.toNat 1 := by
      decide
    intro sample hsample
    obtain ⟨_,_,hgrouped⟩ := grouped_build .ascii digest sample.2 sample.1 none
    exact shown_sorted hgrouped.adds trim_empty rfl (hsorted sample hsample) (hfew sample hsample)
  refine ⟨?_,?_⟩
  · intro hagree
    have htotals : ((groups rested).any (fun group =>
        let row := displayRow (displayByWorkload (groups rested)) (topRow .ascii group)
        (rowMember row).any (fun member => groupMetricHasObservedValue member.1 .io &&
          RateColumn.io.wireTotal row != RateColumn.io.shown row)))=true := by
      decide
    obtain ⟨group,hgroup,hrow⟩ := List.any_eq_true.mp htotals
    obtain ⟨member,hmember,hdiffer⟩ := (Option.any_eq_true _ _).mp hrow
    obtain ⟨hobserved,hne⟩ := Bool.and_eq_true_iff.mp hdiffer
    refine bne_iff_ne.mp hne (hagree _ ?_ member hmember hobserved)
    have hmem := List.mem_map_of_mem (f := fun group =>
      displayRow (displayByWorkload (groups rested)) (topRow .ascii group)) hgroup
    have htop := topLevel_sorted (hshown rested List.mem_cons_self)
    exact (List.mem_filter.mp (htop.symm ▸ hmem)).1
  · intro sample hsample hordered
    rw [hshown sample hsample,WireOrdered] at hordered
    have hall : ∀ sample∈[rested,unseen,grown,repeated],
        (∀ group∈groups sample, group.ranking.established=true) ∧
          ¬(wireTotals (groups sample)).Pairwise (fun left right => right ≤ left) := by
      decide
    obtain ⟨hestablished,hnot⟩ := hall sample hsample
    refine hnot ?_
    rw [wireTotals,List.pairwise_map]
    refine List.Pairwise.imp_of_mem ?_ hordered
    intro left right hleft hright horder
    exact horder (hestablished left hleft) (hestablished right hright)

end BatCave.ProcessView
