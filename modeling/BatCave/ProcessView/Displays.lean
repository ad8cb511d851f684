import BatCave.ProcessView.Partition
import Mathlib.Data.List.Perm.Basic
import Mathlib.Data.String.Basic

/-! The rates that rows show beside the rates they are ranked by: what scaling makes of a pair
of directions, what a group shows of its members, and how the shown rows are ordered. -/
namespace BatCave.ProcessView
open BatCave.Contracts BatCave.Lib BatCave.Lib.Word BatCave.Lib.Text
open BatCave.WorkloadIdentity (BatCaveWorkloadContext WorkloadMembership)

/-- The columns whose rates the wire carries in two directions. -/
inductive RateColumn where
  | io | network
  deriving DecidableEq, Repr

namespace RateColumn

def sortColumn : RateColumn → SortColumn
  | .io => .ioBps
  | .network => .networkBps

def metric : RateColumn → GroupMetric
  | .io => .io
  | .network => .network

def ofValues (column : RateColumn) (values : ProcessRankingValues) : Nat :=
  match column with
  | .io => values.ioBps
  | .network => values.networkBps

/-- The sum of both directions, as readers of the wire add them up. -/
def directions (column : RateColumn) (process : ProcessSample) : Nat :=
  match column with
  | .io => process.ioReadBps+process.ioWriteBps
  | .network => process.networkReceivedBps.getD 0+process.networkTransmittedBps.getD 0

/-- Both directions are there and zero. -/
def still (column : RateColumn) (process : ProcessSample) : Bool :=
  match column with
  | .io => process.ioReadBps==0 && process.ioWriteBps==0
  | .network => process.networkReceivedBps==some 0 && process.networkTransmittedBps==some 0

/-- The total that a row shows. -/
def shown (column : RateColumn) : ProcessViewRow → Nat
  | .process detail _ _ _ _ _ _ _ _ =>
    match column with
    | .io => detail.ioBps
    | .network => detail.networkBps
  | .group detail _ _ _ _ =>
    match column with
    | .io => detail.ioBps
    | .network => detail.networkBps

/-- The total that a reader of the wire finds: that of a process is the sum of its
directions. -/
def wireTotal (column : RateColumn) : ProcessViewRow → Nat
  | .process detail _ _ _ _ _ _ _ _ => column.directions detail.process
  | .group detail iconKind iconSource exampleLabel label =>
    column.shown (.group detail iconKind iconSource exampleLabel label)

end RateColumn

section Scaling

/-- A pair that is not zero is scaled to the total. -/
theorem scaleRatePair_sum {first second total : Nat} (h : ¬(first=0 ∧ second=0)) :
    (scaleRatePair first second total).1+(scaleRatePair first second total).2=total := by
  have hcurrent : satAdd first second≠0 := by
    simp only [satAdd,u64Max]
    omega
  rw [scaleRatePair,if_neg hcurrent]
  dsimp only
  omega

theorem still_iff (column : RateColumn) (process : ProcessSample) :
    column.still process=true ↔ match column with
      | .io => process.ioReadBps=0 ∧ process.ioWriteBps=0
      | .network => process.networkReceivedBps=some 0 ∧ process.networkTransmittedBps=some 0 := by
  cases column <;> simp [RateColumn.still]

/-- What is left of the directions of a process once it shows other values. -/
theorem directions_displayProcess (column : RateColumn) (values : ProcessRankingValues)
    {process : ProcessSample} (h : groupMetricHasValue process column.metric=true) :
    column.directions (displayProcess values process)=
      if column.still process then 0 else column.ofValues values := by
  have hstill := still_iff column process
  cases column with
  | io =>
    simp only [RateColumn.directions,displayProcess,RateColumn.ofValues]
    by_cases hzero : process.ioReadBps=0 ∧ process.ioWriteBps=0
    · rw [if_pos (hstill.mpr hzero),hzero.1,hzero.2]
      rfl
    · rw [if_neg (fun hs => hzero (hstill.mp hs)),scaleRatePair_sum hzero]
  | network =>
    simp only [RateColumn.directions,displayProcess,RateColumn.ofValues]
    simp only [RateColumn.metric,groupMetricHasValue] at h
    by_cases hzero : process.networkReceivedBps=some 0 ∧ process.networkTransmittedBps=some 0
    · rw [if_pos (hstill.mpr hzero),hzero.1,hzero.2]
      rfl
    · rw [if_neg (fun hs => hzero (hstill.mp hs))]
      cases hreceived : process.networkReceivedBps with
      | none =>
        cases htransmitted : process.networkTransmittedBps with
        | none => simp [hreceived,htransmitted] at h
        | some transmitted => simp [scaleNetworkRates]
      | some received =>
        cases htransmitted : process.networkTransmittedBps with
        | none => simp [scaleNetworkRates]
        | some transmitted =>
          have hpair : ¬(received=0 ∧ transmitted=0) := by
            intro hboth
            rw [hreceived,htransmitted,hboth.1,hboth.2] at hzero
            exact hzero ⟨rfl,rfl⟩
          exact scaleRatePair_sum hpair

theorem directions_zero (column : RateColumn) {values : ProcessRankingValues}
    (hzero : column.ofValues values=0) (process : ProcessSample) :
    column.directions (displayProcess values process)=0 := by
  by_cases hvalue : groupMetricHasValue process column.metric=true
  · rw [directions_displayProcess column values hvalue,hzero,ite_self]
  · cases column with
    | io => exact absurd rfl hvalue
    | network =>
      simp only [RateColumn.metric,groupMetricHasValue,Bool.or_eq_true,not_or,
        Bool.not_eq_true,Option.isSome_eq_false_iff,Option.isNone_iff_eq_none] at hvalue
      simp only [RateColumn.directions,displayProcess,hvalue.1,hvalue.2]
      rfl

end Scaling

section Order

/-- One rate before another in a direction. -/
def RateLE (direction : SortDirection) (left right : Nat) : Prop :=
  match direction with
  | .asc => left ≤ right
  | .desc => right ≤ left

theorem sortBy_pairwise {α : Type} {cmp : α → α → Ordering} [Std.TransCmp cmp] (xs : List α) :
    (sortBy cmp xs).Pairwise (fun a b => cmp a b≠.gt) := by
  have hle : ∀ o : Ordering, (o != .gt)=o.isLE := by decide
  have htrans : ∀ a b c, (cmp a b != .gt)=true → (cmp b c != .gt)=true → (cmp a c != .gt)=true := by
    intro a b c hab hbc
    rw [hle] at hab hbc ⊢
    exact Std.TransCmp.isLE_trans hab hbc
  have htotal : ∀ a b, (cmp a b != .gt || cmp b a != .gt)=true := by
    intro a b
    rw [hle,hle,@Std.OrientedCmp.eq_swap _ cmp _ a b]
    cases cmp b a <;> rfl
  have hsorted := List.pairwise_mergeSort htrans htotal xs
  exact hsorted.imp (by simp)

variable (lower : Lowercase)

/-- What groups of one rate are told apart by. -/
def tieOrder : ProcessAppGroup → ProcessAppGroup → Ordering :=
  compareLex (compareOn (fun group => lower.apply group.label))
    (compareLex (compareOn (fun group => numericPid group.presentationProcess.pid))
      (compareOn (fun group => group.presentationProcess.startTimeMs)))

def rateOrder (column : RateColumn) (direction : SortDirection) :
    ProcessAppGroup → ProcessAppGroup → Ordering :=
  match direction with
  | .asc => compareOn (fun group => column.ofValues group.ranking)
  | .desc => fun left right =>
    compareOn (fun group => column.ofValues group.ranking) right left

def establishedFirst (left right : ProcessAppGroup) : Ordering :=
  compareOn (fun group => group.ranking.established) right left

/-- The order of groups in a rate column: established ones first, then the rate. -/
theorem compareProcessGroup_rate (column : RateColumn) (direction : SortDirection) :
    compareProcessGroup lower column.sortColumn direction=
      compareLex establishedFirst (compareLex (rateOrder column direction) (tieOrder lower)) := by
  funext left right
  have hswap : ∀ a b : Nat, (compare a b).swap=compare b a :=
    fun a b => (Std.OrientedOrd.eq_swap (a := b) (b := a)).symm
  cases column with
  | io =>
    cases direction with
    | asc => rfl
    | desc =>
      simp only [compareProcessGroup,directed,RateColumn.sortColumn,hswap]
      rfl
  | network =>
    cases direction with
    | asc => rfl
    | desc =>
      simp only [compareProcessGroup,directed,RateColumn.sortColumn,hswap]
      rfl

instance : Std.TransCmp (tieOrder lower) := by
  unfold tieOrder
  infer_instance

instance (column : RateColumn) (direction : SortDirection) :
    Std.TransCmp (rateOrder column direction) := by
  cases direction with
  | asc => exact inferInstanceAs (Std.TransCmp (compareOn _))
  | desc => exact @Std.TransCmp.opposite _ (compareOn _) _

instance : Std.TransCmp establishedFirst := @Std.TransCmp.opposite _ (compareOn _) _

/-- Of two established groups in order the rates are in order. -/
theorem rate_ordered {column : RateColumn} {direction : SortDirection}
    {left right : ProcessAppGroup} (hleft : left.ranking.established=true)
    (hright : right.ranking.established=true)
    (h : compareProcessGroup lower column.sortColumn direction left right≠.gt) :
    RateLE direction (column.ofValues left.ranking) (column.ofValues right.ranking) := by
  rw [compareProcessGroup_rate] at h
  simp only [compareLex,establishedFirst,compareOn,hleft,hright] at h
  have hrate : rateOrder column direction left right≠.gt := by
    intro hgt
    rw [hgt] at h
    exact h rfl
  cases direction with
  | asc => exact Nat.compare_ne_gt.mp hrate
  | desc => exact Nat.compare_ne_gt.mp hrate

end Order

section Ids

theorem processWorkloadId_inj {p q : ProcessSample}
    (h : processWorkloadId p=processWorkloadId q) : generation p=generation q := by
  have hl := congrArg String.toList h
  simp only [processWorkloadId,String.toList_append,Nat.toString_eq_repr,Nat.toList_repr,
    List.append_assoc,List.append_cancel_left_eq] at hl
  have hparts := append_cons_inj (colon_notMem_toDigits p.startTimeMs)
    (colon_notMem_toDigits q.startTimeMs) hl
  have hstart := congrArg (fun digits => Nat.ofDigitChars 10 digits 0) hparts.2
  simp only [Nat.ofDigitChars_toDigits (by decide : 1 < 10) (by decide)] at hstart
  simp [generation,String.toList_inj.mp hparts.1,hstart]

theorem groupWorkloadId_inj {a b : String} (h : groupWorkloadId a=groupWorkloadId b) : a=b := by
  have hl := congrArg String.toList h
  simp only [groupWorkloadId,String.toList_append,List.append_cancel_left_eq] at hl
  exact String.toList_inj.mp hl

theorem groupWorkloadId_ne (key : String) (process : ProcessSample) :
    groupWorkloadId key≠processWorkloadId process := by
  intro h
  have hl := congrArg (fun text => text.toList.head?) h
  simp [groupWorkloadId,processWorkloadId] at hl

end Ids

section Map

/-- What one group adds to the map of shown values. -/
def displayEntries (group : ProcessAppGroup) :
    List (Sigma (fun _ : String => ProcessRankingValues)) :=
  ⟨groupWorkloadId group.key,group.display⟩::
    (group.processes.zip group.memberDisplay).map
      (fun member => ⟨processWorkloadId member.1,member.2⟩)

theorem displayByWorkload_eq (groups : List ProcessAppGroup) :
    displayByWorkload groups=Table.ofList (groups.flatMap displayEntries) := by
  rw [Table.ofList,List.foldl_flatMap,displayByWorkload,valuesByWorkload]
  congr 1
  funext values group
  rw [displayEntries,List.foldl_cons,List.foldl_map]

variable (lower : Lowercase) (sha256 : List UInt8 → List UInt8) (history : RankingHistory)
  (processes : List ProcessSample) (context : Option BatCaveWorkloadContext)

/-- What holds of a new group and is kept by each member holds of every group. -/
theorem groups_induct {motive : ProcessAppGroup → Prop}
    (hnew : ∀ membership, ∀ representative∈processes,
      motive (newGroup lower membership representative))
    (habsorb : ∀ group, ∀ process∈processes, motive group → motive (group.absorb history process)) :
    ∀ group∈buildProcessGroupsWithContext lower sha256 processes history context,
      motive group := by
  have hloop : ∀ members : List (ProcessSample × WorkloadMembership),
      (∀ member∈members, member.1∈processes) →
      ∀ group∈members.foldl (addToGroups lower history processes) [], motive group := by
    intro members
    induction members using List.reverseRecOn with
    | nil => simp
    | append_singleton members member ih =>
      intro hmembers group hgroup
      have hold := ih (fun m hm => hmembers m (List.mem_append_left _ hm))
      have hlast := hmembers member (List.mem_append_right _ (List.mem_singleton_self _))
      rw [List.foldl_append,List.foldl_cons,List.foldl_nil] at hgroup
      cases mem_addToGroups hgroup with
      | inl hkept => exact hold group hkept
      | inr hother =>
        cases hother with
        | inl hgrown =>
          obtain ⟨before,hbefore,heq⟩ := hgrown
          rw [heq]
          exact habsorb before member.1 hlast (hold before hbefore)
        | inr hfresh =>
          obtain ⟨representative,hrow,heq⟩ := hfresh
          rw [heq]
          refine habsorb _ member.1 hlast (hnew _ representative ?_)
          cases hrow with
          | inl hmem => exact hmem
          | inr hself => rwa [hself]
  intro group hgroup
  exact hloop _ (fun member hmember => (List.of_mem_zip hmember).1) group hgroup

/-- A group that ranks and shows the sums of what its members are ranked by and show. -/
structure Displays (group : ProcessAppGroup) : Prop where
  displayed : group.memberDisplay=group.processes.map (memberDisplayValues history)
  ranking : ∀ column : RateColumn, column.ofValues group.ranking=
    min ((group.processes.map
      (fun process => column.ofValues (rankingValuesFor history process))).sum) u64Max
  display : ∀ column : RateColumn, column.ofValues group.display=
    min ((group.processes.map
      (fun process => column.ofValues (memberDisplayValues history process))).sum) u64Max

theorem Displays.absorb {group : ProcessAppGroup} (h : Displays history group)
    (process : ProcessSample) : Displays history (group.absorb history process) := by
  have hsum : ∀ value : ProcessSample → Nat,
      min (((group.processes++[process]).map value).sum) u64Max=
        satAdd (min ((group.processes.map value).sum) u64Max) (value process) := by
    intro value
    rw [satAdd_min]
    simp
  refine ⟨?_,?_,?_⟩
  · simp [ProcessAppGroup.absorb,h.displayed]
  · intro column
    rw [processes_absorb,hsum,← h.ranking column]
    cases column with
    | io => rfl
    | network => rfl
  · intro column
    rw [processes_absorb,hsum,← h.display column]
    cases column with
    | io => rfl
    | network => rfl

theorem displays_build :
    ∀ group∈buildProcessGroupsWithContext lower sha256 processes history context,
      Displays history group := by
  refine groups_induct lower sha256 history processes context ?_ ?_
  · intro membership representative _
    refine ⟨rfl,?_,?_⟩
    · intro column
      cases column <;> rfl
    · intro column
      cases column <;> rfl
  · intro group process _ h
    exact h.absorb history process

variable {lower sha256 history processes context}

theorem displayEntries_keys {group : ProcessAppGroup} (h : Displays history group) :
    (displayEntries group).keys=
      groupWorkloadId group.key::group.processes.map processWorkloadId := by
  have hfirst : (group.processes.zip group.memberDisplay).map Prod.fst=group.processes := by
    rw [List.map_fst_zip]
    rw [h.displayed,List.length_map]
  rw [displayEntries,List.keys_cons,List.keys,List.map_map]
  conv => rhs; rw [← hfirst,List.map_map]
  rfl

/-- Every process of a group has an entry. -/
theorem display_isSome {groups : List ProcessAppGroup} {group : ProcessAppGroup}
    (hgroup : group∈groups) (h : Displays history group) {process : ProcessSample}
    (hprocess : process∈group.processes) :
    ∃ values, (displayByWorkload groups).lookup (processWorkloadId process)=some values := by
  rw [← Option.isSome_iff_exists,AList.lookup_isSome,displayByWorkload_eq,Table.mem_ofList,
    List.keys,List.map_flatMap,List.mem_flatMap]
  refine ⟨group,hgroup,?_⟩
  have hkeys := displayEntries_keys h
  rw [List.keys] at hkeys
  rw [hkeys]
  exact List.mem_cons_of_mem _ (List.mem_map_of_mem hprocess)

/-- What all entries of a key hold is what the map holds. -/
theorem lookup_of_entries {groups : List ProcessAppGroup} {key : String}
    {values : ProcessRankingValues} (hmem : ⟨key,values⟩∈groups.flatMap displayEntries)
    (hall : ∀ group∈groups, ∀ entry∈displayEntries group, entry.1=key → entry.2=values) :
    (displayByWorkload groups).lookup key=some values := by
  rw [displayByWorkload_eq]
  have hkey : key∈Table.ofList (groups.flatMap displayEntries) :=
    (Table.mem_ofList _ key).mpr (List.mem_keys_of_mem hmem)
  obtain ⟨found,hfound⟩ := Option.isSome_iff_exists.mp (AList.lookup_isSome.mpr hkey)
  obtain ⟨group,hgroup,hentry⟩ := List.mem_flatMap.mp (Table.mem_of_lookup_ofList hfound)
  rw [hfound]
  exact congrArg some (hall group hgroup _ hentry rfl)

/-- The map holds of every group what the group shows. -/
theorem display_group {groups : List ProcessAppGroup} {group : ProcessAppGroup}
    (hkeys : (groups.map (·.key)).Nodup) (hgroup : group∈groups) :
    (displayByWorkload groups).lookup (groupWorkloadId group.key)=some group.display := by
  refine lookup_of_entries (List.mem_flatMap.mpr ⟨group,hgroup,List.mem_cons_self⟩) ?_
  intro other hother entry hentry hkey
  cases List.mem_cons.mp hentry with
  | inl hown =>
    rw [hown] at hkey ⊢
    rw [List.inj_on_of_nodup_map hkeys hother hgroup (groupWorkloadId_inj hkey)]
  | inr hmember =>
    obtain ⟨member,_,rfl⟩ := List.mem_map.mp hmember
    exact absurd hkey.symm (groupWorkloadId_ne group.key member.1)

/-- The map holds what a process shows that shares its PID and start with no other. -/
theorem display_member {groups : List ProcessAppGroup} {group : ProcessAppGroup}
    (hdisplays : ∀ group∈groups, Displays history group) (hgroup : group∈groups)
    {process : ProcessSample} (hprocess : process∈group.processes)
    (hunshared : ∀ other∈groups, ∀ sample∈other.processes,
      generation sample=generation process → sample=process) :
    (displayByWorkload groups).lookup (processWorkloadId process)=
      some (memberDisplayValues history process) := by
  have hentries : ∀ group∈groups, (group.processes.zip group.memberDisplay).map
      (fun member => (⟨processWorkloadId member.1,member.2⟩ : Sigma (fun _ : String => _)))=
        group.processes.map (fun process =>
          ⟨processWorkloadId process,memberDisplayValues history process⟩) := by
    intro group hgroup
    rw [(hdisplays group hgroup).displayed,← List.map_prod_left_eq_zip,List.map_map]
    rfl
  refine lookup_of_entries (List.mem_flatMap.mpr ⟨group,hgroup,List.mem_cons_of_mem _ ?_⟩) ?_
  · rw [hentries group hgroup]
    exact List.mem_map.mpr ⟨process,hprocess,rfl⟩
  · intro other hother entry hentry hkey
    cases List.mem_cons.mp hentry with
    | inl hown =>
      rw [hown] at hkey
      exact absurd hkey (groupWorkloadId_ne other.key process)
    | inr hmember =>
      rw [hentries other hother] at hmember
      obtain ⟨sample,hsample,rfl⟩ := List.mem_map.mp hmember
      rw [hunshared other hother sample hsample (processWorkloadId_inj hkey)]

end Map
end BatCave.ProcessView
