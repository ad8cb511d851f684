import BatCave.WorkloadHistory.Steps

/-! A sample that failed hides the archive: what marks the failure, and the only thing that
takes the mark away. -/
namespace BatCave.WorkloadHistory.WorkloadArchive
variable {ν κ ρ : Type} [Zero ν] [Add ν]

section Samples
variable (L : Layout) (h : Heap ν κ) (enc : Encoder ν κ ρ)

omit [Zero ν] [Add ν] in
/-- A live sample, newer than the archive's. -/
def NewSample (snapshot : RuntimeSnapshot) (live : Bool) (a : WorkloadArchive ν κ) : Prop :=
  live=true ∧ snapshot.sampledAtMs.isSome ∧ a.sampleSeq < snapshot.sampleSeq

omit [Zero ν] [Add ν] in
/-- The sample's time is before that of the last one. -/
def ClockRegressed (snapshot : RuntimeSnapshot) (a : WorkloadArchive ν κ) : Prop :=
  ∃ sampledAtMs last, snapshot.sampledAtMs=some sampledAtMs ∧ a.lastSampledAtMs=some last ∧
    sampledAtMs < last

variable (snapshot : RuntimeSnapshot) (rows : List (ProcessViewRow ρ))

/-- Anything but a new sample leaves a label and nothing else. -/
theorem observe_old {live : Bool} {a : WorkloadArchive ν κ} (hold : ¬NewSample snapshot live a) :
    observe L h enc snapshot rows live a=
      (.ok (),{a with publicationSeq := snapshot.publicationSeq}) := by
  cases hsampled : snapshot.sampledAtMs with
  | none => simp [observe,observeInner,hsampled]
  | some sampledAtMs =>
    rw [NewSample,hsampled,Option.isSome_some] at hold
    have hflag : (live && decide (snapshot.sampleSeq>a.sampleSeq))=false := by
      rw [Bool.and_eq_false_imp]
      intro hlive
      rw [decide_eq_false_iff_not]
      exact fun hnewer => hold ⟨hlive,rfl,hnewer⟩
    have hearly : live=false ∨ snapshot.sampleSeq ≤ a.sampleSeq := by
      cases live with
      | false => exact .inl rfl
      | true => exact .inr (by simpa using hflag)
    simp only [observe,observeInner,hsampled,Option.isSome_some,Bool.and_true,hflag,
      Bool.false_and,Bool.false_eq_true,if_false,if_pos hearly]

/-- A new sample whose clock went back leaves a label and the mark. -/
theorem observe_regressed {live : Bool} {a : WorkloadArchive ν κ}
    (hnew : NewSample snapshot live a) (hclock : ClockRegressed snapshot a) :
    observe L h enc snapshot rows live a=(.error "workload_inspection_clock_regressed",
      {a with publicationSeq := snapshot.publicationSeq, failedSample := true}) := by
  obtain ⟨rfl,_,hnewer⟩ := hnew
  obtain ⟨sampledAtMs,last,hsampled,hlast,hlt⟩ := hclock
  have hold : ¬(true=false ∨ snapshot.sampleSeq ≤ a.sampleSeq) := by simp [hnewer]
  have hback : a.lastSampledAtMs.any (fun last => sampledAtMs < last)=true := by
    simp [hlast,hlt]
  simp only [observe,observeInner,hsampled,Option.isSome_some,Bool.true_and,gt_iff_lt,
    decide_eq_true hnewer,if_true,if_neg hold,hback,Except.toBool,Bool.and_false,
    Bool.false_eq_true,if_false]

/-- A new sample in order reads its rows; the mark goes where all of them were read. -/
theorem observe_read {live : Bool} {a : WorkloadArchive ν κ}
    (hnew : NewSample snapshot live a) (hclock : ¬ClockRegressed snapshot a) :
    ∃ sampledAtMs, snapshot.sampledAtMs=some sampledAtMs ∧
      let read := observeRows L h enc snapshot sampledAtMs rows rows (begun snapshot sampledAtMs a)
      (read.1=.ok () ∧
        observe L h enc snapshot rows live a=(.ok (),{read.2 with failedSample := false})) ∨
      ∃ e, read.1=.error e ∧ observe L h enc snapshot rows live a=(.error e,read.2) := by
  obtain ⟨rfl,hsome,hnewer⟩ := hnew
  obtain ⟨sampledAtMs,hsampled⟩ := Option.isSome_iff_exists.1 hsome
  have hold : ¬(true=false ∨ snapshot.sampleSeq ≤ a.sampleSeq) := by simp [hnewer]
  have hback : a.lastSampledAtMs.any (fun last => sampledAtMs < last)=false := by
    cases hlast : a.lastSampledAtMs with
    | none => rfl
    | some last =>
      rw [Option.any_some,decide_eq_false_iff_not]
      exact fun hlt => hclock ⟨sampledAtMs,last,hsampled,hlast,hlt⟩
  refine ⟨sampledAtMs,hsampled,?_⟩
  simp only [observe,observeInner,hsampled,Option.isSome_some,Bool.true_and,gt_iff_lt,
    decide_eq_true hnewer,if_true,if_neg hold,hback,Bool.false_eq_true,if_false,begun]
  generalize observeRows L h enc snapshot sampledAtMs rows rows _=r
  obtain ⟨result,b⟩ := r
  cases result with
  | error e => exact .inr ⟨e,rfl,rfl⟩
  | ok u => exact .inl ⟨rfl,rfl⟩

/-- What `observe` leaves: labels, or the rows of a new sample in order. -/
theorem observe_leaves (live : Bool) (a : WorkloadArchive ν κ) :
    (∃ f, (observe L h enc snapshot rows live a).2=
      {a with publicationSeq := snapshot.publicationSeq, failedSample := f}) ∨
    ∃ sampledAtMs f, NewSample snapshot live a ∧ ¬ClockRegressed snapshot a ∧
      snapshot.sampledAtMs=some sampledAtMs ∧
      (observe L h enc snapshot rows live a).2=
        {(observeRows L h enc snapshot sampledAtMs rows rows (begun snapshot sampledAtMs a)).2 with
          failedSample := f} := by
  by_cases hnew : NewSample snapshot live a
  · by_cases hclock : ClockRegressed snapshot a
    · rw [observe_regressed L h enc snapshot rows hnew hclock]
      exact .inl ⟨true,rfl⟩
    · obtain ⟨sampledAtMs,hsampled,hread⟩ := observe_read L h enc snapshot rows hnew hclock
      cases hread with
      | inl hok =>
        rw [hok.2]
        exact .inr ⟨sampledAtMs,false,hnew,hclock,hsampled,rfl⟩
      | inr herr =>
        obtain ⟨e,_,herr⟩ := herr
        rw [herr]
        exact .inr ⟨sampledAtMs,_,hnew,hclock,hsampled,rfl⟩
  · rw [observe_old L h enc snapshot rows hnew]
    exact .inl ⟨a.failedSample,rfl⟩

theorem observeRows_frame (sampledAtMs : Nat) (rest : List (ProcessViewRow ρ))
    (a : WorkloadArchive ν κ) :
    SameFrame a (observeRows L h enc snapshot sampledAtMs rows rest a).2 :=
  observeRows_rule
    (fun _ _ b hf hrow => (hf.trans (SameFrame.recordRow hrow)).trans (.enforceBudget b))
    (fun b hf => hf.trans (.enforceBudget b)) rest SameFrame.refl

end Samples

section Runs
variable (L : Layout) (enc : Encoder ν κ ρ)

/-- The step turns a sample away, or breaks off in one. -/
def FailsSample (a : WorkloadArchive ν κ) (step : Heap ν κ × Operation ρ) : Prop :=
  match step.2 with
  | .beginIngress processes => ∃ e, (a.beginIngress L step.1 processes).1=.error e
  | .observe snapshot rows live => NewSample snapshot live a ∧
      ∃ e, (a.observe L step.1 enc snapshot rows live).1=.error e
  | _ => False

/-- The step takes in a new sample. -/
def TakesSample (a : WorkloadArchive ν κ) (step : Heap ν κ × Operation ρ) : Prop :=
  match step.2 with
  | .observe snapshot rows live => NewSample snapshot live a ∧
      (a.observe L step.1 enc snapshot rows live).1=.ok ()
  | _ => False

theorem FailsSample.marks {a : WorkloadArchive ν κ} {step : Heap ν κ × Operation ρ}
    (hfails : FailsSample L enc a step) : (a.apply L enc step).failedSample=true := by
  obtain ⟨h,op⟩ := step
  cases op with
  | beginIngress processes =>
    obtain ⟨e,hfails⟩ := hfails
    simp only [apply]
    simp only [beginIngress] at hfails ⊢
    split
    · rfl
    · next hfits =>
      rw [if_neg hfits] at hfails
      cases hfails
  | endIngress => cases hfails
  | observe snapshot rows live =>
    obtain ⟨hnew,e,hfails⟩ := hfails
    simp only [apply]
    by_cases hclock : ClockRegressed snapshot a
    · rw [observe_regressed L h enc snapshot rows hnew hclock]
    · obtain ⟨sampledAtMs,_,hread⟩ := observe_read L h enc snapshot rows hnew hclock
      cases hread with
      | inl hok =>
        rw [hok.2] at hfails
        cases hfails
      | inr herr =>
        obtain ⟨e',_,herr⟩ := herr
        rw [herr,(observeRows_frame L h enc snapshot rows sampledAtMs rows _).failedSample_eq]
        rfl
  | inspect id pointLimit => cases hfails
  | acknowledge token => cases hfails

/-- Nothing but a new sample takes the mark away. -/
theorem mark_stays {a : WorkloadArchive ν κ} {step : Heap ν κ × Operation ρ}
    (hmarked : a.failedSample=true) (htakes : ¬TakesSample L enc a step) :
    (a.apply L enc step).failedSample=true := by
  obtain ⟨h,op⟩ := step
  cases op with
  | beginIngress processes =>
    simp only [apply,beginIngress]
    split
    · rfl
    · rw [(SameFrame.enforceBudget _).failedSample_eq]
      exact hmarked
  | endIngress => exact hmarked
  | observe snapshot rows live =>
    simp only [apply]
    by_cases hnew : NewSample snapshot live a
    · cases hresult : (a.observe L h enc snapshot rows live).1 with
      | ok u => exact absurd ⟨hnew,hresult⟩ htakes
      | error e =>
        have hfails : FailsSample L enc a (h,.observe snapshot rows live) := ⟨hnew,e,hresult⟩
        exact hfails.marks L enc
    · rw [observe_old L h enc snapshot rows hnew]
      exact hmarked
  | inspect id pointLimit =>
    simp only [apply,inspect,if_pos hmarked]
    exact hmarked
  | acknowledge token =>
    simp only [apply,acknowledge]
    split
    · exact hmarked
    · split
      · exact hmarked
      · exact hmarked

/-- Until a new sample is taken in, the mark stays through a run. -/
theorem mark_stays_run {a : WorkloadArchive ν κ} (hmarked : a.failedSample=true)
    (steps : List (Heap ν κ × Operation ρ))
    (htakes : ∀ before step after, steps=before++step::after →
      ¬TakesSample L enc (run L enc before a) step) :
    (run L enc steps a).failedSample=true := by
  induction steps using List.reverseRecOn with
  | nil => exact hmarked
  | append_singleton steps step ih =>
    have hsofar := ih (fun before step' after hsplit =>
      htakes before step' (after++[step]) (by rw [hsplit]; simp))
    have hlast := htakes steps step [] rfl
    rw [run,List.foldl_append]
    exact mark_stays L enc hsofar hlast

omit [Zero ν] [Add ν] in
theorem inspect_marked {a : WorkloadArchive ν κ} (hmarked : a.failedSample=true) (id : String)
    (pointLimit : Nat) :
    (a.inspect id pointLimit).1=.error "workload_inspection_sample_failed" := by
  rw [inspect,if_pos hmarked]

/-- The sample number of the archive never falls, and no step raises it past the samples that
it is shown. -/
theorem apply_sampleSeq_le {a : WorkloadArchive ν κ} {step : Heap ν κ × Operation ρ} {bound : Nat}
    (hbound : a.sampleSeq=bound)
    (hshown : ∀ snapshot rows live, step.2=.observe snapshot rows live →
      snapshot.sampleSeq ≤ bound) :
    (a.apply L enc step).sampleSeq=bound ∧ ¬TakesSample L enc a step := by
  obtain ⟨h,op⟩ := step
  cases op with
  | beginIngress processes =>
    refine ⟨?_,id⟩
    simp only [apply,beginIngress]
    split
    · exact hbound
    · rw [(SameFrame.enforceBudget _).sampleSeq_eq]
      exact hbound
  | endIngress => exact ⟨hbound,id⟩
  | observe snapshot rows live =>
    have hold : ¬NewSample snapshot live a := by
      intro hnew
      have hle := hshown snapshot rows live rfl
      have hlt := hnew.2.2
      omega
    refine ⟨?_,fun htakes => hold htakes.1⟩
    simp only [apply,observe_old L h enc snapshot rows hold]
    exact hbound
  | inspect id pointLimit =>
    refine ⟨?_,fun hfalse => hfalse⟩
    simp only [apply,inspect]
    split
    · exact hbound
    · split
      · exact hbound
      · split
        · exact hbound
        · exact hbound
  | acknowledge token =>
    refine ⟨?_,id⟩
    simp only [apply,acknowledge]
    split
    · exact hbound
    · split
      · exact hbound
      · exact hbound

/-- A run that is shown nothing newer takes no sample in. -/
theorem run_shown_old {a : WorkloadArchive ν κ} {bound : Nat} (hbound : a.sampleSeq=bound)
    (steps : List (Heap ν κ × Operation ρ))
    (hshown : ∀ step∈steps, ∀ snapshot rows live, step.2=.observe snapshot rows live →
      snapshot.sampleSeq ≤ bound) :
    (run L enc steps a).sampleSeq=bound ∧
      ∀ before step after, steps=before++step::after →
        ¬TakesSample L enc (run L enc before a) step := by
  have hseq : ∀ before after, steps=before++after → (run L enc before a).sampleSeq=bound := by
    intro before
    induction before using List.reverseRecOn with
    | nil => exact fun _ _ => hbound
    | append_singleton before step ih =>
      intro after hsplit
      rw [List.append_assoc] at hsplit
      have hmem : step∈steps := by simp [hsplit]
      rw [run,List.foldl_append]
      exact (apply_sampleSeq_le L enc (ih _ hsplit) (hshown step hmem)).1
  refine ⟨hseq steps [] (by simp),?_⟩
  intro before step after hsplit
  have hmem : step∈steps := by simp [hsplit]
  exact (apply_sampleSeq_le L enc (hseq before _ hsplit) (hshown step hmem)).2

/-- In every run, from a failed sample on every inspection is refused until a newer live sample
is taken in. Showing the number again that broke off in its rows takes nothing in, and a clock
that went back changes neither the sample number nor the time nor an entry. -/
theorem failed_samples_not_served (budget : Nat) :
    (∀ before step after,
      FailsSample L enc (run L enc before (withBudget budget)) step →
      (∀ mid last rest, after=mid++last::rest →
        ¬TakesSample L enc (run L enc (before++step::mid) (withBudget budget)) last) →
      ∀ id pointLimit,
        ((run L enc (before++step::after) (withBudget budget)).inspect id pointLimit).1=
          .error "workload_inspection_sample_failed") ∧
    (∀ before h snapshot rows live e after,
      NewSample snapshot live (run L enc before (withBudget budget)) →
      ¬ClockRegressed snapshot (run L enc before (withBudget budget)) →
      ((run L enc before (withBudget budget)).observe L h enc snapshot rows live).1=.error e →
      (∀ step∈after, ∀ shown rows' live', step.2=.observe shown rows' live' →
        shown.sampleSeq ≤ snapshot.sampleSeq) →
      ∀ id pointLimit, ((run L enc (before++(h,.observe snapshot rows live)::after)
        (withBudget budget)).inspect id pointLimit).1=
          .error "workload_inspection_sample_failed") ∧
    ∀ before h snapshot rows live,
      let a := run L enc before (withBudget budget)
      let after := (a.observe L h enc snapshot rows live)
      NewSample snapshot live a → ClockRegressed snapshot a →
        after.1=.error "workload_inspection_clock_regressed" ∧
        after.2.sampleSeq=a.sampleSeq ∧ after.2.lastSampledAtMs=a.lastSampledAtMs ∧
        after.2.entries=a.entries := by
  have hsplit (before after : List (Heap ν κ × Operation ρ)) (step : Heap ν κ × Operation ρ) :
      run L enc (before++step::after) (withBudget budget)=
        run L enc after ((run L enc before (withBudget budget)).apply L enc step) := by
    simp [run]
  refine ⟨?_,?_,?_⟩
  · intro before step after hfails htakes id pointLimit
    rw [hsplit]
    refine inspect_marked (mark_stays_run L enc (hfails.marks L enc) after ?_) id pointLimit
    intro mid last rest hmid
    rw [← hsplit]
    exact htakes mid last rest hmid
  · intro before h snapshot rows live e after hnew hclock herror hshown id pointLimit
    have hfails : FailsSample L enc (run L enc before (withBudget budget))
        (h,.observe snapshot rows live) := ⟨hnew,e,herror⟩
    have hseq : ((run L enc before (withBudget budget)).apply L enc
        (h,.observe snapshot rows live)).sampleSeq=snapshot.sampleSeq := by
      obtain ⟨sampledAtMs,_,hread⟩ := observe_read L h enc snapshot rows hnew hclock
      cases hread with
      | inl hok =>
        rw [hok.2] at herror
        cases herror
      | inr herr =>
        obtain ⟨e',_,herr⟩ := herr
        simp only [apply,herr,
          (observeRows_frame L h enc snapshot rows sampledAtMs rows _).sampleSeq_eq]
        rfl
    rw [hsplit]
    exact inspect_marked (mark_stays_run L enc (hfails.marks L enc) after
      (run_shown_old L enc hseq after hshown).2) id pointLimit
  · intro before h snapshot rows live a after hnew hclock
    have hafter : after=_ := observe_regressed L h enc snapshot rows hnew hclock
    rw [hafter]
    exact ⟨rfl,rfl,rfl,rfl⟩

namespace Garbled
open Plain

/-- The worker with the pid 9 cannot be encoded. -/
def encoder : Encoder Nat Unit Unit :=
  { Encoder.plain with
    encodeWorkloads := fun rows sampleSeq sampledAtMs platform intervalMs =>
      if rows.any (fun row => rowId row sampleSeq="process:9:1000") then
        .error "protocol_limitation_catalog_too_large"
      else Encoder.plain.encodeWorkloads rows sampleSeq sampledAtMs platform intervalMs
    encode_ids := fun h => by
      split at h
      · cases h
      · exact Encoder.plain.encode_ids h }

/-- Two workers were taken in. -/
def taken : List (Heap Nat Unit × Operation Unit) := sample 1 ["1","2"]

abbrev archive : WorkloadArchive Nat Unit := run .x64 encoder taken (withBudget 1000000)

/-- The next sample breaks off after the first of its three workers. -/
def brokenRows : List (ProcessViewRow Unit) := ["1","9","2"].map row

/-- Its clock went back behind the sample before. -/
def lateSnapshot : RuntimeSnapshot := { snapshot 2 with sampledAtMs := some 500 }

theorem late : NewSample lateSnapshot true archive ∧ ClockRegressed lateSnapshot archive := by
  have hbefore : archive.sampleSeq < 2 ∧ archive.lastSampledAtMs=some 1000 := by decide
  exact ⟨⟨rfl,rfl,hbefore.1⟩,500,1000,rfl,hbefore.2,by decide⟩

theorem inTime : NewSample (snapshot 2) true archive ∧ ¬ClockRegressed (snapshot 2) archive := by
  have hbefore : archive.sampleSeq < 2 ∧ archive.lastSampledAtMs=some 1000 := by decide
  refine ⟨⟨rfl,rfl,hbefore.1⟩,?_⟩
  rintro ⟨sampledAtMs,last,hsampled,hlast,hlt⟩
  rw [hbefore.2] at hlast
  cases hsampled
  cases hlast
  exact absurd hlt (by decide)

end Garbled

open Plain Garbled in
/-- The workers can be inspected, until a sample is refused for its size, comes late, or breaks
off and is shown once more. -/
theorem broken_samples_not_served :
    (archive.inspect "process:1:1000" 30).1.toBool=true ∧
    ((run .x64 encoder ([]++(.plain _ _,.beginIngress [process "1"])::[]) (withBudget 0)).inspect
      "process:1:1000" 30).1=.error "workload_inspection_sample_failed" ∧
    ((run .x64 encoder (taken++(.plain _ _,.observe lateSnapshot (["1","2"].map row) true)::
        [(.plain _ _,.endIngress)]) (withBudget 1000000)).inspect
      "process:1:1000" 30).1=.error "workload_inspection_sample_failed" ∧
    (archive.observe .x64 (.plain _ _) encoder lateSnapshot (["1","2"].map row) true).2.entries=
      archive.entries ∧
    ((run .x64 encoder (taken++(.plain _ _,.observe (snapshot 2) brokenRows true)::
        [(.plain _ _,.observe (snapshot 2) brokenRows true)]) (withBudget 1000000)).inspect
      "process:1:1000" 30).1=.error "workload_inspection_sample_failed" := by
  obtain ⟨hfailed,hagain,hclock⟩ := failed_samples_not_served .x64 encoder 1000000
  have hlate := hclock taken (.plain _ _) lateSnapshot (["1","2"].map row) true late.1 late.2
  refine ⟨by decide,?_,?_,hlate.2.2.2,?_⟩
  · exact (failed_samples_not_served .x64 encoder 0).1 []
      (.plain _ _,.beginIngress [process "1"]) []
      ⟨"workload_inspection_ingress_budget_exceeded",by decide⟩ (by simp) _ _
  · refine hfailed taken (.plain _ _,.observe lateSnapshot (["1","2"].map row) true) _
      ⟨late.1,_,hlate.1⟩ ?_ _ _
    intro mid last rest hmid htakes
    have hlast : last∈[((.plain _ _,.endIngress) : Heap Nat Unit × Operation Unit)] := by
      rw [hmid]
      simp
    obtain rfl := List.mem_singleton.mp hlast
    exact htakes
  · refine hagain taken _ (snapshot 2) brokenRows true "protocol_limitation_catalog_too_large" _
      inTime.1 inTime.2 (by decide) ?_ _ _
    intro step hstep shown rows' live' h
    obtain rfl := List.mem_singleton.mp hstep
    cases h
    exact Nat.le_refl _

end Runs
end BatCave.WorkloadHistory.WorkloadArchive
