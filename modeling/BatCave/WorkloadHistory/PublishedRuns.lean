import BatCave.WorkloadHistory.Published

/-! What inspections show in any interleaving: the publication that is visible when the
snapshot is read, and an error only while the archive and the snapshot are apart. -/
namespace BatCave.WorkloadHistory
open BatCave.Lib.Word

variable {ν κ ρ : Type}

section Archive
variable [Zero ν] [Add ν] {L : Layout} {enc : Encoder ν κ ρ} {h : Heap ν κ}
  {snapshot : RuntimeSnapshot}

theorem observe_publicationSeq (rows : List (ProcessViewRow ρ)) (live : Bool)
    (a : WorkloadArchive ν κ) :
    (a.observe L h enc snapshot rows live).2.publicationSeq=snapshot.publicationSeq := by
  cases WorkloadArchive.observe_cases L h enc snapshot rows live a with
  | inl hlabelled =>
    obtain ⟨failed,hlabelled⟩ := hlabelled
    rw [hlabelled]
  | inr hread =>
    obtain ⟨sampledAtMs,failed,_,hread⟩ := hread
    rw [hread]
    refine WorkloadArchive.observeRows_rule
      (P := fun a => a.publicationSeq=snapshot.publicationSeq) ?_ ?_ _ rfl
    · intro row a b ha hrecorded
      rw [(WorkloadArchive.SameFrame.enforceBudget b).publicationSeq_eq,
        (WorkloadArchive.SameFrame.recordRow hrecorded).publicationSeq_eq]
      exact ha
    · intro a ha
      rw [(WorkloadArchive.SameFrame.enforceBudget a).publicationSeq_eq]
      exact ha

/-- The archive has the number of what it took in. -/
theorem publishWorkloadArchive_seq (shown : Shown ρ) (a : WorkloadArchive ν κ) :
    (publishWorkloadArchive L enc h snapshot shown a).2.publicationSeq=
      if (publishWorkloadArchive L enc h snapshot shown a).1 then snapshot.publicationSeq
      else a.publicationSeq := by
  rw [publishWorkloadArchive]
  split
  · have hbegun : (a.beginIngress L h shown.previousProcesses).2.publicationSeq=
        a.publicationSeq := by
      simp only [WorkloadArchive.beginIngress]
      split
      · rfl
      · exact (WorkloadArchive.SameFrame.enforceBudget _).publicationSeq_eq
    generalize a.beginIngress L h shown.previousProcesses=begun at hbegun ⊢
    obtain ⟨result,begun⟩ := begun
    cases result with
    | error error => exact hbegun
    | ok ok => exact observe_publicationSeq shown.fullViewRows true begun
  · exact observe_publicationSeq [] false a

end Archive

namespace Runtime
variable {r r' : Runtime ν κ}

/-- The next snapshot comes after the published one, or is the one that the runtime was
started with. -/
def Next (r : Runtime ν κ) (snapshot : RuntimeSnapshot) : Prop :=
  snapshot=r.published ∨
    (r.store.publicationSeq < u64Max → r.published.publicationSeq < snapshot.publicationSeq)

/-- With no publication under way the archive has the published snapshot, unless it refused
that one or has nothing yet. -/
def Settled (r : Runtime ν κ) : Prop :=
  r.observed=none ∨ r.observed=some r.published ∨
    (r.refused=true ∧ ∃ last, r.observed=some last ∧
      (r.store.publicationSeq < u64Max → last.publicationSeq < r.published.publicationSeq))

/-- What holds of the archive at each point of the worker. -/
def WorkerSound (r : Runtime ν κ) : Prop :=
  match r.worker with
  | .staged => r.Settled ∧ r.Next r.store
  | .idle => r.Settled
  | .archived snapshot true => snapshot=r.store ∧ r.observed=some snapshot ∧ r.Next snapshot
  | .archived snapshot false => snapshot=r.store ∧ r.Settled ∧ r.Next snapshot
  | .panicked true => ∃ snapshot, r.observed=some snapshot ∧ r.Next snapshot
  | .panicked false => r.Settled
  | .fatalArchived snapshot => r.observed=some snapshot ∧ r.Next snapshot
  | .ended => r.observed=some r.published

structure Sound (r : Runtime ν κ) : Prop where
  seq : r.archive.publicationSeq=r.observed.elim 0 (·.publicationSeq)
  order : r.worker≠.ended → r.published.publicationSeq ≤ r.store.publicationSeq
  bound : r.store.publicationSeq ≤ u64Max
  worker : r.WorkerSound

/-- When the numbers are the same, the archive is that of the published snapshot. -/
theorem Sound.visible (h : r.Sound) (hroom : r.store.publicationSeq < u64Max)
    (hseq : r.archive.publicationSeq=r.published.publicationSeq) : r.Visible := by
  have hapart : ∀ snapshot, r.observed=some snapshot → snapshot=r.published ∨
      snapshot.publicationSeq < r.published.publicationSeq ∨
      r.published.publicationSeq < snapshot.publicationSeq := by
    intro snapshot hobserved
    have hsettled (hs : r.Settled) : snapshot=r.published ∨
        snapshot.publicationSeq < r.published.publicationSeq ∨
        r.published.publicationSeq < snapshot.publicationSeq := by
      rw [Settled,hobserved] at hs
      obtain hs | hs | ⟨_,last,hlast,hbefore⟩ := hs
      · cases hs
      · exact .inl (Option.some.inj hs)
      · cases hlast
        exact .inr (.inl (hbefore hroom))
    have hnext (hn : r.Next snapshot) : snapshot=r.published ∨
        snapshot.publicationSeq < r.published.publicationSeq ∨
        r.published.publicationSeq < snapshot.publicationSeq :=
      hn.imp id (fun hafter => .inr (hafter hroom))
    have hworker := h.worker
    rw [WorkerSound] at hworker
    split at hworker
    · exact hsettled hworker.1
    · exact hsettled hworker
    · obtain ⟨_,hsome,hn⟩ := hworker
      cases hobserved.symm.trans hsome
      exact hnext hn
    · exact hsettled hworker.2.1
    · obtain ⟨last,hsome,hn⟩ := hworker
      cases hobserved.symm.trans hsome
      exact hnext hn
    · exact hsettled hworker
    · obtain ⟨hsome,hn⟩ := hworker
      cases hobserved.symm.trans hsome
      exact hnext hn
    · cases hobserved.symm.trans hworker
      exact .inl rfl
  have hnumber := h.seq
  cases hobserved : r.observed with
  | none =>
    rw [hobserved,hseq] at hnumber
    exact .inr ⟨hobserved,hnumber⟩
  | some snapshot =>
    rw [hobserved,hseq] at hnumber
    have hnumber : r.published.publicationSeq=snapshot.publicationSeq := hnumber
    cases hapart snapshot hobserved with
    | inl hsame => exact .inl (hsame ▸ hobserved)
    | inr hother => omega

/-- When the numbers differ, a publication is under way or was given up, or the archive does
not have the published snapshot. -/
theorem Sound.pending (h : r.Sound) (hseq : r.archive.publicationSeq≠r.published.publicationSeq) :
    r.Straddled ∨ r.worker=.panicked true ∨ r.refused=true ∨ r.observed=none := by
  have hnumber := h.seq
  have hsettled (hs : r.Settled) : r.refused=true ∨ r.observed=none := by
    obtain hs | hs | ⟨hrefused,_⟩ := hs
    · exact .inr hs
    · rw [hs] at hnumber
      exact absurd hnumber hseq
    · exact .inl hrefused
  have hworker := h.worker
  rw [WorkerSound] at hworker
  split at hworker
  · exact .inr (.inr (hsettled hworker.1))
  · exact .inr (.inr (hsettled hworker))
  · next hat => exact .inl (.inl ⟨_,hat⟩)
  · exact .inr (.inr (hsettled hworker.2.1))
  · next hat => exact .inr (.inl hat)
  · exact .inr (.inr (hsettled hworker))
  · next hat => exact .inl (.inr ⟨_,hat⟩)
  · rw [hworker] at hnumber
    exact absurd hnumber hseq

theorem satAdd_one_lt {n : Nat} (h : satAdd n 1 < u64Max) : n < u64Max ∧ n < satAdd n 1 := by
  rw [satAdd] at h ⊢
  omega

theorem le_of_le_satAdd {m n : Nat} (h : m ≤ n) (hn : n ≤ u64Max) : m ≤ satAdd n 1 := by
  rw [satAdd]
  omega

theorem sound_start {snapshot : RuntimeSnapshot} (hseq : snapshot.publicationSeq ≤ u64Max) :
    (start snapshot : Runtime ν κ).Sound :=
  ⟨rfl,fun _ => Nat.le_refl _,hseq,.inl rfl,.inl rfl⟩

/-- A change of the store leaves what is settled. -/
theorem Settled.stage (h : r.Settled) (snapshot : RuntimeSnapshot) :
    Settled { r with
      store := { snapshot with publicationSeq := satAdd r.store.publicationSeq 1 }
      worker := .staged } := by
  obtain h | h | ⟨hrefused,last,hlast,hbefore⟩ := h
  · exact .inl h
  · exact .inr (.inl h)
  · exact .inr (.inr ⟨hrefused,last,hlast,fun hroom => hbefore (satAdd_one_lt hroom).1⟩)

theorem Sound.stage (h : r.Sound) {snapshot : RuntimeSnapshot}
    (hstage : r.stage snapshot=some r') : r'.Sound := by
  have hworker := h.worker
  have horder := h.order
  rw [WorkerSound] at hworker
  rw [Runtime.stage] at hstage
  have hnext (hle : r.published.publicationSeq ≤ r.store.publicationSeq)
      (hroom : satAdd r.store.publicationSeq 1 < u64Max) :
      r.published.publicationSeq < satAdd r.store.publicationSeq 1 :=
    Nat.lt_of_le_of_lt hle (satAdd_one_lt hroom).2
  split at hstage
  · next hat =>
    cases hstage
    rw [hat] at hworker horder
    exact ⟨h.seq,fun _ => le_of_le_satAdd (horder nofun) h.bound,Nat.min_le_right _ _,
      hworker.1.stage snapshot,.inr (hnext (horder nofun))⟩
  · next hat =>
    cases hstage
    rw [hat] at hworker horder
    exact ⟨h.seq,fun _ => le_of_le_satAdd (horder nofun) h.bound,Nat.min_le_right _ _,
      Settled.stage hworker snapshot,.inr (hnext (horder nofun))⟩
  · cases hstage

theorem Sound.swap (h : r.Sound) (hswap : r.swap=some r') : r'.Sound := by
  have hworker := h.worker
  have horder := h.order
  rw [WorkerSound] at hworker
  rw [Runtime.swap] at hswap
  split at hswap
  · next snapshot admitted hat =>
    cases hswap
    rw [hat] at hworker horder
    cases admitted with
    | true =>
      obtain ⟨hstore,hobserved,_⟩ := hworker
      exact ⟨h.seq,fun _ => hstore ▸ Nat.le_refl _,h.bound,.inr (.inl hobserved)⟩
    | false =>
      obtain ⟨hstore,hsettled,hnext⟩ := hworker
      refine ⟨h.seq,fun _ => hstore ▸ Nat.le_refl _,h.bound,?_⟩
      have hle : r.published.publicationSeq ≤ snapshot.publicationSeq := by
        rw [hstore]
        exact horder nofun
      obtain hs | hs | ⟨_,last,hlast,hbefore⟩ := hsettled
      · exact .inl hs
      · cases hnext with
        | inl hsame => exact .inr (.inl (hsame ▸ hs))
        | inr hafter => exact .inr (.inr ⟨rfl,r.published,hs,hafter⟩)
      · exact .inr (.inr ⟨rfl,last,hlast,fun hroom => Nat.lt_of_lt_of_le (hbefore hroom) hle⟩)
  · cases hswap

theorem Sound.panic (h : r.Sound) (hpanic : r.panic=some r') : r'.Sound := by
  have hworker := h.worker
  have horder := h.order
  rw [WorkerSound] at hworker
  rw [Runtime.panic] at hpanic
  split at hpanic
  · next hat =>
    cases hpanic
    rw [hat] at hworker horder
    exact ⟨h.seq,fun _ => horder nofun,h.bound,hworker.1⟩
  · next hat =>
    cases hpanic
    rw [hat] at hworker horder
    exact ⟨h.seq,fun _ => horder nofun,h.bound,hworker⟩
  · next snapshot admitted hat =>
    cases hpanic
    rw [hat] at hworker horder
    cases admitted with
    | true => exact ⟨h.seq,fun _ => horder nofun,h.bound,snapshot,hworker.2.1,hworker.2.2⟩
    | false => exact ⟨h.seq,fun _ => horder nofun,h.bound,hworker.2.1⟩
  · cases hpanic

theorem Sound.fatalSwap (h : r.Sound) (hswap : r.fatalSwap=some r') : r'.Sound := by
  have hworker := h.worker
  rw [WorkerSound] at hworker
  rw [Runtime.fatalSwap] at hswap
  split at hswap
  · next snapshot hat =>
    cases hswap
    rw [hat] at hworker
    exact ⟨h.seq,fun hended => absurd rfl hended,h.bound,hworker.1⟩
  · cases hswap

/-- Replies leave the number of the archive. -/
theorem Sound.of_archive (h : r.Sound) {archive : WorkloadArchive ν κ}
    (hseq : archive.publicationSeq=r.archive.publicationSeq) :
    Sound { r with archive := archive } := ⟨hseq.trans h.seq,h.order,h.bound,h.worker⟩

variable [Zero ν] [Add ν] {L : Layout} {enc : Encoder ν κ ρ} {heap : Heap ν κ}

theorem Sound.archiveStore (h : r.Sound) {shown : Shown ρ}
    (harchive : r.archiveStore L enc heap shown=some r') : r'.Sound := by
  have hworker := h.worker
  have horder := h.order
  rw [WorkerSound] at hworker
  rw [Runtime.archiveStore] at harchive
  split at harchive
  · next hat =>
    have hseq : (publishWorkloadArchive L enc heap r.store shown r.archive).2.publicationSeq=
        if (publishWorkloadArchive L enc heap r.store shown r.archive).1 then
          r.store.publicationSeq else r.archive.publicationSeq :=
      publishWorkloadArchive_seq shown r.archive
    dsimp only at harchive
    generalize publishWorkloadArchive L enc heap r.store shown r.archive=taken at harchive hseq
    obtain ⟨admitted,archive⟩ := taken
    cases harchive
    rw [hat] at hworker horder
    cases admitted with
    | true => exact ⟨hseq,fun _ => horder nofun,h.bound,rfl,rfl,hworker.2⟩
    | false =>
      exact ⟨hseq.trans h.seq,fun _ => horder nofun,h.bound,rfl,hworker.1,hworker.2⟩
  · cases harchive

theorem Sound.archiveFatal (h : r.Sound) {occurredAtMs : Nat}
    (harchive : r.archiveFatal L enc heap occurredAtMs=some r') : r'.Sound := by
  have horder := h.order
  rw [Runtime.archiveFatal] at harchive
  split at harchive
  · next hat =>
    cases harchive
    have hle := horder (hat ▸ nofun)
    refine ⟨observe_publicationSeq [] false r.archive,fun _ => hle,h.bound,rfl,.inr ?_⟩
    intro hroom
    change r.published.publicationSeq < satAdd r.published.publicationSeq 1
    have hroom : r.store.publicationSeq < u64Max := hroom
    rw [satAdd]
    omega
  · cases harchive

end Runtime

section Replies
variable (a : WorkloadArchive ν κ)

theorem inspectPublished_seq (id : String) (pointLimit publicationSeq : Nat) :
    (a.inspectPublished id pointLimit publicationSeq).2.publicationSeq=a.publicationSeq := by
  rw [WorkloadArchive.inspectPublished]
  split
  · rfl
  · simp only [WorkloadArchive.inspect]
    split
    · rfl
    · split
      · rfl
      · split
        · rfl
        · rfl

theorem acknowledge_seq (token : String) :
    (a.acknowledge token).2.publicationSeq=a.publicationSeq := by
  rw [WorkloadArchive.acknowledge]
  split
  · rfl
  · split
    · rfl
    · rfl

variable {a}

/-- An inspection has the number of the archive, which is that of the snapshot. -/
theorem inspectPublished_ok {id : String} {pointLimit publicationSeq : Nat}
    {inspection : WorkloadInspection ν κ}
    (h : (a.inspectPublished id pointLimit publicationSeq).1=.ok inspection) :
    a.publicationSeq=publicationSeq ∧ inspection.publicationSeq=publicationSeq ∧
      inspection.sampleSeq=a.sampleSeq := by
  rw [WorkloadArchive.inspectPublished] at h
  split at h
  · cases h
  · next hseq =>
    have hseq := not_not.1 hseq
    simp only [WorkloadArchive.inspect] at h
    split at h
    · cases h
    · split at h
      · cases h
      · split at h
        · cases h
        · cases h
          exact ⟨hseq,hseq,rfl⟩

/-- No other refusal has this text. -/
theorem inspectPublished_pending {id : String} {pointLimit publicationSeq : Nat}
    (h : (a.inspectPublished id pointLimit publicationSeq).1=
      .error "workload_inspection_publication_pending") : a.publicationSeq≠publicationSeq := by
  intro hseq
  rw [WorkloadArchive.inspectPublished,if_neg (not_not_intro hseq)] at h
  simp only [WorkloadArchive.inspect] at h
  split at h
  · simp at h
  · split at h
    · simp at h
    · split at h
      · next error hreserve =>
        simp only [ResponseCredits.reserve] at hreserve
        split at hreserve
        · cases hreserve
          simp at h
        · split at hreserve
          · cases hreserve
            simp at h
          · cases hreserve
      · cases h

end Replies

/-- What a call of `inspect_published_workload` may return. -/
structure Answered (moment : Runtime ν κ) (archive : WorkloadArchive ν κ)
    (result : Except String (WorkloadInspection ν κ)) : Prop where
  ok : ∀ inspection, result=.ok inspection →
    archive.publicationSeq=moment.published.publicationSeq ∧
    inspection.publicationSeq=moment.published.publicationSeq ∧
    inspection.sampleSeq=archive.sampleSeq ∧
    (moment.store.publicationSeq < u64Max → moment.Visible)
  pending : result=.error "workload_inspection_publication_pending" →
    moment.Straddled ∨ moment.worker=.panicked true ∨ moment.refused=true ∨ moment.observed=none
  archive : archive=moment.archive

namespace Reader

/-- A reader past the lock has the archive to itself. -/
def Kept (runtime : Runtime ν κ) (holder : Option Nat) (reader : Nat) : Reader ν κ → Prop
  | .idle => True
  | .waiting _ _ => True
  | .holding _ _ => holder=some reader
  | .compared _ _ moment =>
    holder=some reader ∧ moment.Sound ∧ runtime.archive=moment.archive
  | .returned moment archive result => Answered moment archive result

variable {runtime : Runtime ν κ} {holder : Option Nat} {reader : Nat} {state : Reader ν κ}

theorem Kept.of_archive (h : Kept runtime holder reader state) {runtime' : Runtime ν κ}
    (hsame : runtime'.archive=runtime.archive) : Kept runtime' holder reader state := by
  cases state with
  | idle => exact h
  | waiting id pointLimit => exact h
  | holding id pointLimit => exact h
  | compared id pointLimit moment => exact ⟨h.1,h.2.1,hsame.trans h.2.2⟩
  | returned moment archive result => exact h

/-- A reader without the lock does not depend on it. -/
theorem Kept.without (h : Kept runtime holder reader state) (hother : holder≠some reader)
    (runtime' : Runtime ν κ) (holder' : Option Nat) : Kept runtime' holder' reader state := by
  cases state with
  | idle => exact h
  | waiting id pointLimit => exact h
  | holding id pointLimit => exact absurd h hother
  | compared id pointLimit moment => exact absurd h.1 hother
  | returned moment archive result => exact h

/-- The answer to a reader that knows what was published. -/
theorem Kept.answer {id : String} {pointLimit : Nat} {moment : Runtime ν κ}
    (h : Kept runtime holder reader (.compared id pointLimit moment)) :
    Answered moment runtime.archive
      (runtime.archive.inspectPublished id pointLimit moment.published.publicationSeq).1 := by
  obtain ⟨_,hsound,harchive⟩ := h
  rw [harchive]
  refine ⟨?_,?_,rfl⟩
  · intro inspection hok
    obtain ⟨hseq,hnumber,hsample⟩ := inspectPublished_ok hok
    exact ⟨hseq,hnumber,hsample,fun hroom => hsound.visible hroom hseq⟩
  · intro hpending
    exact hsound.pending (inspectPublished_pending hpending)

end Reader

namespace Inspections
variable {s s' : Inspections ν κ}

structure Consistent (s : Inspections ν κ) : Prop where
  runtime : s.runtime.Sound
  readers : ∀ reader, (s.readers reader).Kept s.runtime s.holder reader

theorem consistent_start {snapshot : RuntimeSnapshot} (hseq : snapshot.publicationSeq ≤ u64Max) :
    (start snapshot : Inspections ν κ).Consistent :=
  ⟨Runtime.sound_start hseq,fun _ => trivial⟩

theorem Consistent.setRuntime (h : s.Consistent) {runtime : Runtime ν κ} (hsound : runtime.Sound)
    (hsame : runtime.archive=s.runtime.archive) : (s.setRuntime runtime).Consistent :=
  ⟨hsound,fun reader => (h.readers reader).of_archive hsame⟩

/-- With the lock free nobody depends on the archive. -/
theorem Consistent.setFree (h : s.Consistent) {runtime : Runtime ν κ} (hsound : runtime.Sound)
    (hfree : s.holder=none) : (s.setRuntime runtime).Consistent := by
  refine ⟨hsound,fun reader => (h.readers reader).without ?_ _ _⟩
  rw [hfree]
  exact nofun

/-- A reader goes on; the others are as they were, or do not have the lock. -/
theorem consistent_update {runtime : Runtime ν κ} {holder : Option Nat}
    {reader : Nat} {state : Reader ν κ} (hsound : runtime.Sound)
    (hstate : state.Kept runtime holder reader)
    (hothers : ∀ other, other≠reader → (s.readers other).Kept runtime holder other) :
    Consistent ⟨runtime,Function.update s.readers reader state,holder⟩ := by
  refine ⟨hsound,?_⟩
  intro other
  by_cases hsame : other=reader
  · subst hsame
    simp only [Function.update_self]
    exact hstate
  · simp only [Function.update_of_ne hsame]
    exact hothers other hsame

variable [Zero ν] [Add ν] {L : Layout} {enc : Encoder ν κ ρ}

theorem Consistent.step (h : s.Consistent) {event : PublishEvent ν κ ρ}
    (hstep : s.step L enc event=some s') : s'.Consistent := by
  cases event with
  | stage snapshot =>
    obtain ⟨runtime,hruntime,rfl⟩ := Option.map_eq_some_iff.1 hstep
    refine h.setRuntime (h.runtime.stage hruntime) ?_
    rw [Runtime.stage] at hruntime
    split at hruntime
    · cases hruntime
      rfl
    · cases hruntime
      rfl
    · cases hruntime
  | archive heap shown =>
    rw [Inspections.step] at hstep
    split at hstep
    · next hfree =>
      obtain ⟨runtime,hruntime,rfl⟩ := Option.map_eq_some_iff.1 hstep
      exact h.setFree (h.runtime.archiveStore hruntime) hfree
    · cases hstep
  | swap =>
    obtain ⟨runtime,hruntime,rfl⟩ := Option.map_eq_some_iff.1 hstep
    refine h.setRuntime (h.runtime.swap hruntime) ?_
    rw [Runtime.swap] at hruntime
    split at hruntime
    · cases hruntime
      rfl
    · cases hruntime
  | panic =>
    obtain ⟨runtime,hruntime,rfl⟩ := Option.map_eq_some_iff.1 hstep
    refine h.setRuntime (h.runtime.panic hruntime) ?_
    rw [Runtime.panic] at hruntime
    split at hruntime
    · cases hruntime
      rfl
    · cases hruntime
      rfl
    · cases hruntime
      rfl
    · cases hruntime
  | fatalArchive heap occurredAtMs =>
    rw [Inspections.step] at hstep
    split at hstep
    · next hfree =>
      obtain ⟨runtime,hruntime,rfl⟩ := Option.map_eq_some_iff.1 hstep
      exact h.setFree (h.runtime.archiveFatal hruntime) hfree
    · cases hstep
  | fatalSwap =>
    obtain ⟨runtime,hruntime,rfl⟩ := Option.map_eq_some_iff.1 hstep
    refine h.setRuntime (h.runtime.fatalSwap hruntime) ?_
    rw [Runtime.fatalSwap] at hruntime
    split at hruntime
    · cases hruntime
      rfl
    · cases hruntime
  | begin reader id pointLimit =>
    have hwaiting : (s.setReader reader (.waiting id pointLimit)).Consistent :=
      consistent_update h.runtime trivial (fun other _ => h.readers other)
    rw [Inspections.step] at hstep
    split at hstep
    · cases hstep
      exact hwaiting
    · cases hstep
      exact hwaiting
    · cases hstep
  | lock reader =>
    rw [Inspections.step] at hstep
    split at hstep
    · split at hstep
      · next hfree =>
        cases hstep
        refine consistent_update h.runtime rfl (fun other _ => (h.readers other).without ?_ _ _)
        rw [hfree]
        exact nofun
      · cases hstep
    · cases hstep
  | read reader =>
    have hreader := h.readers reader
    rw [Inspections.step] at hstep
    split at hstep
    · next id pointLimit hholding =>
      cases hstep
      rw [hholding] at hreader
      exact consistent_update h.runtime ⟨hreader,h.runtime,rfl⟩ (fun other _ => h.readers other)
    · cases hstep
  | answer reader =>
    have hreader := h.readers reader
    rw [Inspections.step] at hstep
    split at hstep
    · next id pointLimit moment hcompared =>
      cases hstep
      rw [hcompared] at hreader
      refine consistent_update
        (h.runtime.of_archive (inspectPublished_seq s.runtime.archive id pointLimit
          moment.published.publicationSeq)) hreader.answer
        (fun other hne => (h.readers other).without ?_ _ _)
      rw [hreader.1]
      exact fun hsame => hne (Option.some.inj hsame).symm
    · cases hstep
  | acknowledge token =>
    rw [Inspections.step] at hstep
    split at hstep
    · next hfree =>
      cases hstep
      exact h.setFree (h.runtime.of_archive (acknowledge_seq s.runtime.archive token)) hfree
    · cases hstep

theorem Consistent.run (h : s.Consistent) {events : List (PublishEvent ν κ ρ)}
    (hrun : s.run L enc events=some s') : s'.Consistent := by
  induction events generalizing s with
  | nil =>
    cases hrun
    exact h
  | cons event events ih =>
    rw [Inspections.run,List.foldlM_cons] at hrun
    obtain ⟨next,hstep,hrest⟩ := Option.bind_eq_some_iff.1 hrun
    exact ih (h.step hstep) hrest

/-- In any interleaving, an inspection shows the archive of the snapshot that was published
when it was read, as long as the publications can be counted, and it is refused as pending
only with a publication under way or given up, with the published one refused, or before the
first. -/
theorem inspections_match_publications (L : Layout) (enc : Encoder ν κ ρ)
    (snapshot : RuntimeSnapshot) (hseq : snapshot.publicationSeq ≤ u64Max)
    (events : List (PublishEvent ν κ ρ)) (s : Inspections ν κ)
    (hrun : (start snapshot).run L enc events=some s) (reader : Nat) (moment : Runtime ν κ)
    (archive : WorkloadArchive ν κ) (result : Except String (WorkloadInspection ν κ))
    (hreturned : s.readers reader=.returned moment archive result) :
    Answered moment archive result := by
  have hreader := ((consistent_start hseq).run hrun).readers reader
  rw [hreturned] at hreader
  exact hreader

def inspectEvents (reader : Nat) : List (PublishEvent Nat Unit Unit) :=
  [.begin reader "worker" 72,.lock reader,.read reader,.answer reader]

/-- Inspected between the archive and the swap of the second publication, then after it. -/
def publishedTwice : List (PublishEvent Nat Unit Unit) :=
  [.archive (.plain _ _) ⟨false,[],[]⟩,.swap,.stage (Plain.snapshot 1),
    .archive (.plain _ _) ⟨false,[],[]⟩]++inspectEvents 0++[.swap]++inspectEvents 1

theorem published_twice_answered :
    ∃ s before beforeArchive after afterArchive inspection,
      (start (Plain.snapshot 0)).run .x64 .plain publishedTwice=some s ∧
      s.readers 0=.returned before beforeArchive
        (.error "workload_inspection_publication_pending") ∧
      Answered before beforeArchive (.error "workload_inspection_publication_pending") ∧
      s.readers 1=.returned after afterArchive (.ok inspection) ∧
      Answered after afterArchive (.ok inspection) :=
  ⟨_,_,_,_,_,_,rfl,rfl,
    inspections_match_publications .x64 .plain (Plain.snapshot 0) (by decide) publishedTwice _ rfl
      0 _ _ _ rfl,rfl,
    inspections_match_publications .x64 .plain (Plain.snapshot 0) (by decide) publishedTwice _ rfl
      1 _ _ _ rfl⟩

/-- A runtime that starts from a warm cache refuses an inspection as pending before the worker
has archived anything. -/
theorem pending_before_first_publication :
    ∃ s moment archive,
      (start (Plain.snapshot 42)).run .x64 .plain (inspectEvents 0)=some s ∧
      s.readers 0=.returned moment archive
        (.error "workload_inspection_publication_pending") ∧
      ¬moment.Straddled ∧ moment.refused=false := by
  refine ⟨_,_,_,rfl,rfl,?_,rfl⟩
  intro hstraddled
  cases hstraddled with
  | inl harchived =>
    obtain ⟨snapshot,harchived⟩ := harchived
    cases harchived
  | inr hfatal =>
    obtain ⟨snapshot,hfatal⟩ := hfatal
    cases hfatal

end Inspections
end BatCave.WorkloadHistory
