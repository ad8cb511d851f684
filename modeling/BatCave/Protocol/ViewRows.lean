import BatCave.ProcessView.Keyed
import BatCave.Protocol.ViewMetrics

/-! The rows of a view as a reader of the wire sees them: who they name, which group they
belong to, and what they show. -/
namespace BatCave.ProcessView
open BatCave.Contracts BatCave.Lib BatCave.Lib.Binary64 BatCave.Lib.Text
open BatCave.WorkloadIdentity (BatCaveWorkloadContext WorkloadMembership membership
  membership_key scopeKey)

section Shares
variable {history : RankingHistory} {process : ProcessSample}

/-- No sample of the history is below zero. -/
def HistorySound (history : RankingHistory) : Prop :=
  ∀ key ring, history.lookup key=some ring → ∀ share∈ring.cpuPercent, NotBelow share

theorem notBelow_zero : NotBelow 0.0 := .inl nonNeg_zero

theorem notBelow_sumF64 {values : List Float} (h : ∀ value∈values, NotBelow value) :
    NotBelow (sumF64 values) := by
  have hloop : ∀ (values : List Float) (start : Float), NotBelow start →
      (∀ value∈values, NotBelow value) → NotBelow (values.foldl (· + ·) start) := by
    intro values
    induction values with
    | nil => exact fun _ hstart _ => hstart
    | cons value values ih =>
      intro start hstart hvalues
      exact ih _ (hstart.add (hvalues value List.mem_cons_self))
        (fun other hother => hvalues other (List.mem_cons_of_mem _ hother))
  exact hloop values _ (.inr rfl) h

theorem notBelow_round1 {value : Float} (h : NotBelow value) : NotBelow (round1 value) := by
  have hten : (10.0 : Float)=ofUnsigned 10 := by decide
  rw [round1,hten]
  exact ((h.mul (nonNeg_ofUnsigned _)).round).div (nonNeg_ofUnsigned _)

theorem notBelow_rankingValuesFor (hhistory : HistorySound history)
    (hcpu : NotBelow process.cpuPercent) :
    NotBelow (rankingValuesFor history process).cpuPercent := by
  unfold rankingValuesFor
  cases hring : history.lookup (generation process) with
  | none => exact hcpu
  | some ring =>
    by_cases hestablished : ring.isEstablished=true
    · simp only [if_pos hestablished]
      exact (notBelow_sumF64 (hhistory _ ring hring)).div (nonNeg_ofUnsigned _)
    · simp only [if_neg hestablished]
      exact notBelow_zero

theorem notBelow_displayValuesFor (hhistory : HistorySound history)
    (hcpu : NotBelow process.cpuPercent) :
    NotBelow (displayValuesFor history process).cpuPercent := by
  unfold displayValuesFor
  cases hring : history.lookup (generation process) with
  | none => exact notBelow_rankingValuesFor hhistory hcpu
  | some ring =>
    by_cases hestablished : ring.isEstablished=true
    · simp only [if_pos hestablished]
      exact notBelow_rankingValuesFor hhistory hcpu
    · simp only [if_neg hestablished,RankingRing.observedValues,RankingRing.cpuAverage]
      split
      · exact notBelow_zero
      · exact (notBelow_sumF64 (hhistory _ ring hring)).div (nonNeg_ofUnsigned _)

theorem notBelow_memberDisplayValues (hhistory : HistorySound history)
    (hcpu : NotBelow process.cpuPercent) :
    NotBelow (memberDisplayValues history process).cpuPercent := by
  simp only [memberDisplayValues]
  split
  · exact notBelow_displayValuesFor hhistory hcpu
  · exact notBelow_zero

end Shares

section Presentation
variable {lower : Lowercase} {sha256 : List UInt8 → List UInt8} {history : RankingHistory}
  {processes : List ProcessSample}

theorem processIdentity_spoken (process : ProcessSample) :
    trim (processIdentity lower process).iconKind≠"" ∧
      trim (processIdentity lower process).category≠"" := by
  have hall : ∀ identity∈⟨"process","Processes"⟩::processKinds.map Prod.snd,
      trim identity.iconKind≠"" ∧ trim identity.category≠"" := by decide
  refine hall _ ?_
  rw [processIdentity]
  cases hfound : processKinds.find? (fun kind => matchesAny
      (lower.apply (process.name++" "++process.exe)) kind.1) with
  | none => exact List.mem_cons_self
  | some kind =>
    exact List.mem_cons_of_mem _ (List.mem_map_of_mem (List.mem_of_find?_eq_some hfound))

/-- The name of an executable without its number is as spoken as the whole. -/
theorem normalizedProcessName_spoken {name : String} (h : trim name≠"") :
    trim (normalizedProcessName lower name)≠"" := by
  simp only [normalizedProcessName]
  split
  · exact h
  · split
    · split
      · exact trim_append_ne_empty (by decide)
      · exact h
    · exact h

/-- What the rows of a group say besides its metrics. -/
structure Presents (processes : List ProcessSample) (group : ProcessAppGroup) : Prop where
  label : trim group.label≠""
  category : trim group.category≠""
  icon : trim group.iconKind≠""
  presented : group.presentationProcess∈processes
  cpu : NotBelow group.cpuPercent
  display : NotBelow group.display.cpuPercent

variable (lower sha256) in
theorem presents_build (context : Option BatCaveWorkloadContext)
    (hhistory : HistorySound history) (hnames : ∀ process∈processes, trim process.name≠"")
    (hshares : ∀ process∈processes, NotBelow process.cpuPercent) :
    ∀ group∈buildProcessGroupsWithContext lower sha256 processes history context,
      Presents processes group := by
  refine groups_induct lower sha256 history processes context ?_ ?_
  · intro membership representative hrow
    obtain ⟨hicon,hcategory⟩ := @processIdentity_spoken lower representative
    refine ⟨?_,?_,?_,hrow,notBelow_zero,notBelow_zero⟩
    · simp only [newGroup]
      split
      · decide
      · exact normalizedProcessName_spoken (hnames representative hrow)
    · simp only [newGroup]
      split
      · decide
      · exact hcategory
    · simp only [newGroup]
      split
      · decide
      · exact hicon
  · intro group process hrow h
    refine ⟨h.label,h.category,h.icon,h.presented,?_,?_⟩
    · simp only [ProcessAppGroup.absorb]
      split
      · exact h.cpu.add (hshares process hrow)
      · exact h.cpu
    · exact h.display.add (notBelow_memberDisplayValues hhistory (hshares process hrow))

variable (lower history) in
/-- The key of a group is that of the scope of one of its rows. -/
theorem key_spoken {context : Option BatCaveWorkloadContext} {group : ProcessAppGroup}
    (h : group∈buildProcessGroupsWithContext lower sha256 processes history context)
    (hne : group.processes≠[]) : trim group.key≠"" := by
  rw [group_rows lower history context h,ne_eq,List.map_eq_nil_iff] at hne
  obtain ⟨i,hi⟩ := List.exists_mem_of_ne_nil _ hne
  have hkey := beq_iff_eq.mp (List.mem_filter.mp hi).2
  rw [← hkey,membership_key,scopeKey]
  have hchar : 's'∈("scope:"++hex (sha256 (WorkloadIdentity.scopePreimage processes
      (WorkloadIdentity.root processes context i) (WorkloadIdentity.scope processes context
        (WorkloadIdentity.root processes context i))))).toList := by
    rw [String.toList_append]
    exact List.mem_append_left _ (by decide)
  exact trim_ne_empty hchar (by decide)

end Presentation
end BatCave.ProcessView
