import BatCave.WorkloadHistory.Failures
import BatCave.WorkloadHistory.Retention

/-! What the archive's histories and tombstones look like in every state: histories are short,
in the order of the samples and end with their latest; a workload has an entry or a tombstone
and never both. -/
namespace BatCave.WorkloadHistory.WorkloadArchive
variable {ν κ ρ : Type}

section Actions
variable {L : Layout} {h : Heap ν κ} {a a' : WorkloadArchive ν κ}

theorem forgetTombstone_evicted (id : String) :
    (forgetTombstone a id).evicted=a.evicted.eraseP (fun t => t.id=id) := by
  unfold forgetTombstone
  split
  · next hnone =>
    refine (List.eraseP_of_forall_not ?_).symm
    intro t ht
    exact List.find?_eq_none.1 hnone t ht
  · rfl

variable (L h a) in
/-- A point goes to the end of its workload's history; what leaves at the front leaves the flag.
A workload without an entry starts with the flag where it has a tombstone. -/
theorem recordPoint_entry (bundleId : Nat) (id : String) (stability : ProcessIdentityStabilityV4)
    (point : WorkloadHistoryPoint ν) :
    ∃ entry' kept gap,
      (recordPoint L h bundleId a (id,stability,point)).entries.lookup id=some entry' ∧
      entry'.lastSampleSeq=point.sampleSeq ∧
      entry'.history=kept++[{point with gapBefore := gap}] ∧
      (a.entries.lookup id=none → kept=[] ∧ entry'.truncated=a.evicted.any (·.id=id)) ∧
      ∀ old, a.entries.lookup id=some old →
        (old.history.length≠maxPoints ∧ kept=old.history ∧ entry'.truncated=old.truncated) ∨
        (old.history.length=maxPoints ∧ kept=old.history.drop 1 ∧ entry'.truncated=true) := by
  have hput (b : WorkloadArchive ν κ) (entry : Entry ν) :
      (forgetTombstone (putEntry L h b id entry) id).entries.lookup id=some entry := by
    rw [forgetTombstone_entries,putEntry]
    exact AList.lookup_insert _
  unfold recordPoint
  simp only
  cases hold : a.entries.lookup id with
  | none =>
    have htake : takeEntry L h a id=none := takeEntry_eq_none.2 hold
    simp only [openEntry,htake,hput]
    refine ⟨_,[],point.gapBefore,rfl,rfl,?_,?_,fun _ h => by cases h⟩
    · simp [pushPoint,maxPoints]
    · intro _
      exact ⟨rfl,by simp [pushPoint,maxPoints]⟩
  | some old =>
    cases htake : takeEntry L h a id with
    | none =>
      rw [takeEntry_eq_none.1 htake] at hold
      cases hold
    | some taken =>
      obtain ⟨previous,b⟩ := taken
      have hprevious := (takeEntry_entries htake).1
      rw [hold,Option.some.injEq] at hprevious
      simp only [openEntry,htake,hput,← hprevious]
      by_cases hfull : old.history.length=maxPoints
      · refine ⟨_,old.history.drop 1,gapAfter old.history.getLast? point,rfl,rfl,?_,
          (fun h => by cases h),?_⟩
        · simp [pushPoint,hfull]
        · intro old' hold'
          cases hold'
          exact .inr ⟨hfull,rfl,by simp [pushPoint,hfull]⟩
      · refine ⟨_,old.history,gapAfter old.history.getLast? point,rfl,rfl,?_,
          (fun h => by cases h),?_⟩
        · simp [pushPoint,hfull]
        · intro old' hold'
          cases hold'
          exact .inl ⟨hfull,rfl,by simp [pushPoint,hfull]⟩

variable (L h a) in
theorem recordPoint_evicted (bundleId : Nat)
    (p : String × ProcessIdentityStabilityV4 × WorkloadHistoryPoint ν) :
    (recordPoint L h bundleId a p).evicted=a.evicted.eraseP (fun t => t.id=p.1) := by
  obtain ⟨id,stability,point⟩ := p
  simp only [recordPoint,forgetTombstone_evicted,putEntry]
  congr 1
  unfold openEntry
  split
  · next ht => exact (takeEntry_evicted ht).1
  · rfl

variable (L h a) in
theorem recordPoint_other (bundleId : Nat) (p : String × ProcessIdentityStabilityV4 ×
    WorkloadHistoryPoint ν) {id : String} (hid : id≠p.1) :
    (recordPoint L h bundleId a p).entries.lookup id=a.entries.lookup id :=
  (recordPoint_spec L h bundleId a p.1 p.2.1 p.2.2).1 id hid

/-- What a trim leaves under an id. -/
theorem trimOne_lookup (cap : Nat) (id id' : String) {entry : Entry ν}
    (hentry : (trimOne L h cap a id).entries.lookup id'=some entry) :
    a.entries.lookup id'=some entry ∨
    ∃ old, a.entries.lookup id'=some old ∧ cap < old.history.length ∧
      entry=trimEntry h cap old := by
  unfold trimOne at hentry
  split at hentry
  · exact .inl hentry
  · next old hold =>
    split at hentry
    · exact .inl hentry
    · next hlong =>
      by_cases hid : id'=id
      · subst hid
        simp only [AList.lookup_insert,Option.some.injEq] at hentry
        exact .inr ⟨old,hold,Nat.lt_of_not_le hlong,hentry.symm⟩
      · simp only [AList.lookup_insert_ne hid] at hentry
        exact .inl hentry

theorem trimOne_evicted (cap : Nat) (id : String) :
    (trimOne L h cap a id).evicted=a.evicted := by
  unfold trimOne
  split
  · rfl
  · split <;> rfl

theorem trimOne_mem (cap : Nat) (id id' : String) :
    id'∈(trimOne L h cap a id).entries ↔ id'∈a.entries := by
  unfold trimOne
  split
  · rfl
  · next entry hentry =>
    split
    · rfl
    · have hmem : id∈a.entries := AList.lookup_isSome.1 (by rw [hentry]; rfl)
      simp only [AList.mem_insert]
      constructor
      · intro h
        cases h with
        | inl h => rwa [h]
        | inr h => exact h
      · exact .inr

end Actions

/-- The first of an id is the only one where no id comes twice. -/
theorem notMem_eraseP {ts : List Tombstone} (hdistinct : (ts.map (·.id)).Nodup) (id : String) :
    id∉(ts.eraseP (fun t => t.id=id)).map (·.id) := by
  induction ts with
  | nil => simp
  | cons t ts ih =>
    rw [List.map_cons,List.nodup_cons] at hdistinct
    by_cases hid : t.id=id
    · rw [List.eraseP_cons_of_pos (by simpa using hid),← hid]
      exact hdistinct.1
    · rw [List.eraseP_cons_of_neg (by simpa using hid),List.map_cons,List.mem_cons,not_or]
      exact ⟨fun heq => hid heq.symm,ih hdistinct.2⟩

/-- The tombstones stand for workloads without an entry, each for one. -/
structure Tombstones (a : WorkloadArchive ν κ) : Prop where
  apart : ∀ t∈a.evicted, t.id∉a.entries
  distinct : (a.evicted.map (·.id)).Nodup
  bounded : a.evicted.length ≤ maxTombstones

namespace Tombstones
variable {L : Layout} {h : Heap ν κ} {a a' : WorkloadArchive ν κ}

theorem frame (ht : Tombstones a) (hevicted : a'.evicted=a.evicted)
    (hentries : ∀ id, id∈a'.entries → id∈a.entries) : Tombstones a' := by
  refine ⟨?_,?_,?_⟩
  · intro t hmem hid
    rw [hevicted] at hmem
    exact ht.apart t hmem (hentries t.id hid)
  · rw [hevicted]
    exact ht.distinct
  · rw [hevicted]
    exact ht.bounded

theorem popEvicted {t : Tombstone} (ht : Tombstones a) (hp : a.popEvicted=some (t,a')) :
    Tombstones a' := by
  obtain ⟨rest,hevicted,rfl⟩ := popEvicted_cases hp
  have happart := ht.apart
  have hdistinct := ht.distinct
  have hbounded := ht.bounded
  rw [hevicted] at happart hdistinct hbounded
  refine ⟨fun t' hmem => happart t' (List.mem_cons_of_mem t hmem),(List.nodup_cons.1 hdistinct).2,
    ?_⟩
  change rest.length ≤ maxTombstones
  rw [List.length_cons] at hbounded
  omega

/-- One more tombstone takes the place of the oldest where there are too many. -/
theorem rememberEvicted (ht : Tombstones a) {t : Tombstone} (hid : t.id∉a.entries) :
    Tombstones (rememberEvicted h a t) := by
  unfold WorkloadArchive.rememberEvicted pushTombstone
  simp only
  by_cases hknown : a.evicted.any (·.id=t.id)=true
  · rw [if_pos hknown,if_neg (Nat.not_lt.2 ht.bounded)]
    exact ht
  · rw [if_neg hknown]
    have hnew : t.id∉a.evicted.map (·.id) := by
      intro hmem
      obtain ⟨t',ht',heq⟩ := List.mem_map.1 hmem
      exact hknown (List.any_eq_true.2 ⟨t',ht',decide_eq_true heq⟩)
    have happart : ∀ t'∈a.evicted++[t], t'.id∉a.entries := by
      intro t' hmem
      cases List.mem_append.1 hmem with
      | inl hold => exact ht.apart t' hold
      | inr hlast =>
        rw [List.mem_singleton.1 hlast]
        exact hid
    have hdistinct : ((a.evicted++[t]).map (·.id)).Nodup := by
      rw [List.map_append]
      refine List.nodup_append.2 ⟨ht.distinct,List.nodup_singleton _,?_⟩
      intro x hx y hy heq
      rw [heq,List.mem_singleton.1 hy] at hx
      exact hnew hx
    split
    · next hmany =>
      cases hevicted : a.evicted with
      | nil =>
        change (a.evicted++[t]).length>maxTombstones at hmany
        rw [hevicted] at hmany
        exact absurd hmany (by simp [maxTombstones])
      | cons oldest rest =>
        rw [hevicted] at happart hdistinct
        refine ⟨fun t' hmem => happart t' (List.mem_cons_of_mem oldest hmem),
          (List.nodup_cons.1 hdistinct).2,?_⟩
        have hbounded := ht.bounded
        rw [hevicted,List.length_cons] at hbounded
        change (rest++[t]).length ≤ maxTombstones
        rw [List.length_append,List.length_singleton]
        omega
    · next hfew => exact ⟨happart,hdistinct,Nat.le_of_not_lt hfew⟩

theorem evictId (ht : Tombstones a) (id : String) : Tombstones (evictId L h a id) := by
  unfold WorkloadArchive.evictId
  split
  · exact ht
  · next entry b htake =>
    have hentries := (takeEntry_entries htake).2
    have hb : Tombstones b := by
      refine ht.frame (takeEntry_evicted htake).1 ?_
      intro id' hmem
      rw [hentries] at hmem
      exact (AList.mem_erase.1 hmem).2
    have hb' : Tombstones {b with released := b.released++[id]} := ⟨hb.apart,hb.distinct,hb.bounded⟩
    refine hb'.rememberEvicted ?_
    change id∉b.entries
    rw [hentries]
    simp

theorem trimOne (ht : Tombstones a) (cap : Nat) (id : String) :
    Tombstones (trimOne L h cap a id) :=
  ht.frame (trimOne_evicted cap id) (fun id' hmem => (trimOne_mem cap id id').1 hmem)

theorem enforceBudget (ht : Tombstones a) : Tombstones (enforceBudget L h a) :=
  enforceBudget_rule (fun _ id ht => ht.evictId id) (fun cap _ id _ ht => ht.trimOne cap id)
    (fun _ _ _ ht hp => ht.popEvicted hp) (fun _ ht => ht.frame rfl (fun _ hmem => hmem)) ht

theorem reject (ht : Tombstones a) (t : Tombstone) : Tombstones (reject L h a t) := by
  refine (ht.evictId t.id).rememberEvicted ?_
  rw [evictId_entries]
  simp

theorem recordPoint (ht : Tombstones a) (bundleId : Nat)
    (p : String × ProcessIdentityStabilityV4 × WorkloadHistoryPoint ν) :
    Tombstones (recordPoint L h bundleId a p) := by
  have hevicted := recordPoint_evicted L h a bundleId p
  have hgone : p.1∉(a.evicted.eraseP (fun t => t.id=p.1)).map (·.id) :=
    notMem_eraseP ht.distinct p.1
  refine ⟨?_,?_,?_⟩
  · intro t hmem hid
    rw [hevicted] at hmem
    have hne : t.id≠p.1 := fun heq => hgone (List.mem_map.2 ⟨t,hmem,heq⟩)
    have hold : t.id∈a.entries := by
      rw [← AList.lookup_isSome,← recordPoint_other L h a bundleId p hne,AList.lookup_isSome]
      exact hid
    exact ht.apart t (List.mem_of_mem_eraseP hmem) hold
  · rw [hevicted]
    exact ht.distinct.sublist (List.eraseP_sublist.map _)
  · rw [hevicted]
    exact List.eraseP_sublist.length_le.trans ht.bounded

end Tombstones

/-- A history up to a sample and its time, its sample numbers in an order. -/
structure HistoryOk (R : Nat → Nat → Prop) (seq : Nat) (time : Option Nat) (entry : Entry ν) :
    Prop where
  short : entry.history.length ≤ maxPoints
  seqs : (entry.history.map (·.sampleSeq)).Pairwise R
  times : (entry.history.map (·.sampledAtMs)).Pairwise (· ≤ ·)
  last : (entry.history.map (·.sampleSeq)).getLast? =some entry.lastSampleSeq
  top : ∀ point∈entry.history, point.sampleSeq ≤ entry.lastSampleSeq
  dated : entry.lastSampleSeq ≤ seq
  timed : ∀ point∈entry.history, ∃ last, time=some last ∧ point.sampledAtMs ≤ last

theorem HistoryOk.nonempty {R : Nat → Nat → Prop} {seq : Nat} {time : Option Nat} {entry : Entry ν}
    (hok : HistoryOk R seq time entry) : entry.history≠[] := by
  intro hnil
  have hlast := hok.last
  rw [hnil] at hlast
  cases hlast

/-- A cut at the front that leaves something. -/
theorem HistoryOk.cut {R : Nat → Nat → Prop} {seq : Nat} {time : Option Nat}
    {entry entry' : Entry ν} (hok : HistoryOk R seq time entry) {n : Nat}
    (hcut : n < entry.history.length) (hhistory : entry'.history=entry.history.drop n)
    (hlast : entry'.lastSampleSeq=entry.lastSampleSeq) : HistoryOk R seq time entry' := by
  have hsub : entry'.history.Sublist entry.history := by
    rw [hhistory]
    exact List.drop_sublist _ _
  refine ⟨hsub.length_le.trans hok.short,hok.seqs.sublist (hsub.map _),
    hok.times.sublist (hsub.map _),?_,?_,hlast ▸ hok.dated,
    fun point hp => hok.timed point (hsub.subset hp)⟩
  · rw [hlast,← hok.last,hhistory,List.map_drop,List.getLast?_drop,if_neg]
    rw [List.length_map]
    omega
  · intro point hp
    rw [hlast]
    exact hok.top point (hsub.subset hp)

/-- A later sample, not before its time. -/
theorem HistoryOk.later {R : Nat → Nat → Prop} {seq seq' : Nat} {time : Option Nat} {last : Nat}
    {entry : Entry ν} (hok : HistoryOk R seq time entry) (hseq : seq ≤ seq')
    (htime : ∀ earlier, time=some earlier → earlier ≤ last) :
    HistoryOk R seq' (some last) entry := by
  refine ⟨hok.short,hok.seqs,hok.times,hok.last,hok.top,hok.dated.trans hseq,?_⟩
  intro point hp
  obtain ⟨earlier,hearlier,hle⟩ := hok.timed point hp
  exact ⟨last,rfl,hle.trans (htime earlier hearlier)⟩

/-- Every entry has such a history. -/
def Histories (R : Nat → Nat → Prop) (seq : Nat) (time : Option Nat) (a : WorkloadArchive ν κ) :
    Prop :=
  ∀ id entry, a.entries.lookup id=some entry → HistoryOk R seq time entry

/-- The sample may put a point to the ids that are still to come: to any, where the order lets
two points of one sample stand, and else to those whose latest is of an earlier one. -/
def Ready (R : Nat → Nat → Prop) (seq : Nat) (ids : List String) (a : WorkloadArchive ν κ) : Prop :=
  (∀ x ≤ seq, R x seq) ∨ ((∀ x < seq, R x seq) ∧ ids.Nodup ∧
    ∀ id∈ids, ∀ entry, a.entries.lookup id=some entry → entry.lastSampleSeq < seq)

section Samples
variable {L : Layout} {h : Heap ν κ} {R : Nat → Nat → Prop} {seq : Nat} {time : Option Nat}
  {a a' : WorkloadArchive ν κ} {ids : List String}

theorem Ready.below (hready : Ready R seq ids a) (hb : Below a a') : Ready R seq ids a' := by
  cases hready with
  | inl hall => exact .inl hall
  | inr hready =>
    refine .inr ⟨hready.1,hready.2.1,?_⟩
    intro id hid entry' hentry'
    obtain ⟨entry,hentry,heq,_⟩ := hb id entry' hentry'
    rw [heq]
    exact hready.2.2 id hid entry hentry

theorem Ready.sublist {ids' : List String} (hready : Ready R seq ids a)
    (hsub : ids'.Sublist ids) : Ready R seq ids' a := by
  cases hready with
  | inl hall => exact .inl hall
  | inr hready =>
    exact .inr ⟨hready.1,hready.2.1.sublist hsub,fun id hid => hready.2.2 id (hsub.subset hid)⟩

theorem Histories.evictId (hh : Histories R seq time a) (id : String) :
    Histories R seq time (evictId L h a id) := by
  intro id' entry hentry
  rw [evictId_entries] at hentry
  by_cases hid : id'=id
  · subst hid
    simp at hentry
  · rw [AList.lookup_erase_ne hid] at hentry
    exact hh id' entry hentry

theorem Histories.trimOne (hh : Histories R seq time a) {cap : Nat} (hcap : minTrimmedPoints ≤ cap)
    (id : String) : Histories R seq time (trimOne L h cap a id) := by
  intro id' entry hentry
  cases trimOne_lookup cap id id' hentry with
  | inl hsame => exact hh id' entry hsame
  | inr htrimmed =>
    obtain ⟨old,hold,hlong,rfl⟩ := htrimmed
    refine (hh id' old hold).cut (n := old.history.length-cap) ?_ rfl rfl
    simp only [minTrimmedPoints] at hcap
    omega

theorem Histories.enforceBudget (hh : Histories R seq time a) :
    Histories R seq time (enforceBudget L h a) := by
  refine enforceBudget_rule (P := Histories R seq time) (fun _ id hh => hh.evictId id)
    (fun cap _ id hcap hh => hh.trimOne hcap id) ?_ (fun _ hh => hh) hh
  intro b t b' hb hp
  obtain ⟨rest,_,rfl⟩ := popEvicted_cases hp
  exact hb

theorem Histories.reject (hh : Histories R seq time a) (t : Tombstone) :
    Histories R seq time (reject L h a t) := by
  intro id entry hentry
  rw [WorkloadArchive.reject,rememberEvicted_entries] at hentry
  exact hh.evictId t.id id entry hentry

/-- A point of the sample goes behind all earlier ones. -/
theorem Histories.recordPoint {last : Nat} (hh : Histories R seq (some last) a) {bundleId : Nat}
    {id : String} {rest : List String} (hready : Ready R seq (id::rest) a)
    (stability : ProcessIdentityStabilityV4) {point : WorkloadHistoryPoint ν}
    (hseq : point.sampleSeq=seq) (htime : point.sampledAtMs=last) :
    Histories R seq (some last) (recordPoint L h bundleId a (id,stability,point)) ∧
      Ready R seq rest (recordPoint L h bundleId a (id,stability,point)) := by
  obtain ⟨entry,kept,gap,hentry,hlast,hhistory,hnew,hold⟩ :=
    recordPoint_entry L h a bundleId id stability point
  have hother {id' : String} (hid : id'≠id) :
      (WorkloadArchive.recordPoint L h bundleId a (id,stability,point)).entries.lookup id'=
        a.entries.lookup id' :=
    recordPoint_other L h a bundleId (id,stability,point) hid
  -- what is kept of the old history, whichever way it was cut
  have hkept : kept.length < maxPoints ∧ (kept.map (·.sampleSeq)).Pairwise R ∧
      (kept.map (·.sampledAtMs)).Pairwise (· ≤ ·) ∧
      (∀ earlier∈kept, R earlier.sampleSeq seq ∧ earlier.sampleSeq ≤ seq) ∧
      ∀ earlier∈kept, earlier.sampledAtMs ≤ last := by
    cases hlookup : a.entries.lookup id with
    | none =>
      rw [(hnew hlookup).1]
      simp [maxPoints]
    | some old =>
      have hok := hh id old hlookup
      have hsub : kept.Sublist old.history ∧ kept.length < maxPoints := by
        have hshort := hok.short
        cases hold old hlookup with
        | inl hroom =>
          rw [hroom.2.1]
          exact ⟨List.Sublist.refl _,by have := hroom.1; omega⟩
        | inr hfull =>
          rw [hfull.2.1]
          refine ⟨List.drop_sublist _ _,?_⟩
          rw [List.length_drop,hfull.1]
          decide
      refine ⟨hsub.2,hok.seqs.sublist (hsub.1.map _),hok.times.sublist (hsub.1.map _),?_,?_⟩
      · intro earlier hmem
        have htop := hok.top earlier (hsub.1.subset hmem)
        have hdated := hok.dated
        refine ⟨?_,by omega⟩
        cases hready with
        | inl hall => exact hall _ (by omega)
        | inr hready =>
          have hlt := hready.2.2 id List.mem_cons_self old hlookup
          exact hready.1 _ (by omega)
      · intro earlier hmem
        obtain ⟨last',hlast',hle⟩ := hok.timed earlier (hsub.1.subset hmem)
        cases hlast'
        exact hle
  refine ⟨?_,?_⟩
  · intro id' entry' hentry'
    by_cases hid : id'=id
    · subst hid
      rw [hentry,Option.some.injEq] at hentry'
      subst hentry'
      obtain ⟨hshort,hseqs,htimes,hbefore,hearlier⟩ := hkept
      refine ⟨?_,?_,?_,?_,?_,by omega,?_⟩
      · rw [hhistory,List.length_append,List.length_singleton]
        omega
      · rw [hhistory,List.map_append,List.map_singleton,List.pairwise_append]
        refine ⟨hseqs,List.pairwise_singleton _ _,?_⟩
        intro x hx y hy
        obtain ⟨earlier,hmem,rfl⟩ := List.mem_map.1 hx
        rw [List.mem_singleton.1 hy,hseq]
        exact (hbefore earlier hmem).1
      · rw [hhistory,List.map_append,List.map_singleton,List.pairwise_append]
        refine ⟨htimes,List.pairwise_singleton _ _,?_⟩
        intro x hx y hy
        obtain ⟨earlier,hmem,rfl⟩ := List.mem_map.1 hx
        rw [List.mem_singleton.1 hy,htime]
        exact hearlier earlier hmem
      · rw [hhistory,List.map_append,List.map_singleton,List.getLast?_concat,hlast]
      · intro point' hmem
        rw [hhistory] at hmem
        rw [hlast,hseq]
        cases List.mem_append.1 hmem with
        | inl hmem => exact (hbefore point' hmem).2
        | inr hmem =>
          rw [List.mem_singleton.1 hmem]
          exact Nat.le_of_eq hseq
      · intro point' hmem
        rw [hhistory] at hmem
        refine ⟨last,rfl,?_⟩
        cases List.mem_append.1 hmem with
        | inl hmem => exact hearlier point' hmem
        | inr hmem =>
          rw [List.mem_singleton.1 hmem]
          exact Nat.le_of_eq htime
    · rw [hother hid] at hentry'
      exact hh id' entry' hentry'
  · cases hready with
    | inl hall => exact .inl hall
    | inr hready =>
      obtain ⟨hlt,hnodup,hstale⟩ := hready
      rw [List.nodup_cons] at hnodup
      refine .inr ⟨hlt,hnodup.2,?_⟩
      intro id' hmem entry' hentry'
      have hid : id'≠id := fun heq => hnodup.1 (heq ▸ hmem)
      rw [hother hid] at hentry'
      exact hstale id' (List.mem_cons_of_mem id hmem) entry' hentry'

variable [Zero ν] [Add ν] {enc : Encoder ν κ ρ} {snapshot : RuntimeSnapshot} {sampledAtMs : Nat}
  {rows : List (ProcessViewRow ρ)} {b : WorkloadArchive ν κ}

theorem familyPoints_ids (catalog : InspectionCatalog ν κ) (intervalMs : Nat) :
    (familyPoints catalog intervalMs).map (·.1)=catalog.workloads.map stableId := by
  rw [familyPoints,List.map_map]
  rfl

theorem mem_familyPoints {catalog : InspectionCatalog ν κ} {intervalMs : Nat}
    {p : String × ProcessIdentityStabilityV4 × WorkloadHistoryPoint ν}
    (hp : p∈familyPoints catalog intervalMs) :
    p.2.2.sampleSeq=catalog.sampleSeq ∧ p.2.2.sampledAtMs=catalog.sampledAtMs := by
  obtain ⟨row,_,rfl⟩ := List.mem_map.1 hp
  exact ⟨rfl,rfl⟩

omit [Zero ν] [Add ν] in
theorem Histories.recordPoints {last bundleId : Nat} {rest : List String}
    (ps : List (String × ProcessIdentityStabilityV4 × WorkloadHistoryPoint ν))
    (hpoints : ∀ p∈ps, p.2.2.sampleSeq=seq ∧ p.2.2.sampledAtMs=last)
    (hh : Histories R seq (some last) a) (hready : Ready R seq (ps.map (·.1)++rest) a) :
    Histories R seq (some last) (ps.foldl (WorkloadArchive.recordPoint L h bundleId) a) ∧
      Ready R seq rest (ps.foldl (WorkloadArchive.recordPoint L h bundleId) a) := by
  induction ps generalizing a with
  | nil => exact ⟨hh,hready⟩
  | cons p ps ih =>
    obtain ⟨hseq,htime⟩ := hpoints p List.mem_cons_self
    have hboth := @Histories.recordPoint _ _ L h _ _ _ _ hh bundleId _ _ hready p.2.1 _ hseq htime
    obtain ⟨hh',hready'⟩ := hboth
    exact ih (fun p' hp' => hpoints p' (List.mem_cons_of_mem p hp')) hh' hready'

/-- A row's family keeps the histories, and leaves the rest of the sample ready. -/
theorem Histories.recordRow {row : ProcessViewRow ρ} {rest : List String}
    (hh : Histories R snapshot.sampleSeq (some sampledAtMs) a)
    (hready : Ready R snapshot.sampleSeq (familyIds snapshot rows row++rest) a)
    (hr : recordRow L h enc snapshot sampledAtMs rows row a=.ok b) :
    Histories R snapshot.sampleSeq (some sampledAtMs) b ∧ Ready R snapshot.sampleSeq rest b := by
  obtain ⟨_,ts,_,_,_,rfl⟩ | ⟨_,catalog,bytes,hids,hseq,htime,_,rfl⟩ := recordRow_cases hr
  · have hrest := hready.sublist (List.sublist_append_right _ rest)
    refine foldl_rule (P := fun a' => Histories R snapshot.sampleSeq (some sampledAtMs) a' ∧
      Ready R snapshot.sampleSeq rest a') ?_ ts ⟨hh,hrest⟩
    intro a' t hboth
    refine ⟨hboth.1.reject t,hboth.2.below ?_⟩
    exact (Below.evictId a' t.id).trans (.of_entries (rememberEvicted_entries t))
  · refine Histories.recordPoints _ ?_ hh ?_
    · intro p hp
      obtain ⟨hpseq,hptime⟩ := mem_familyPoints hp
      exact ⟨hpseq.trans hseq,hptime.trans htime⟩
    · rw [familyPoints_ids,hids]
      exact hready

theorem Histories.observeRows (rest : List (ProcessViewRow ρ))
    (hh : Histories R snapshot.sampleSeq (some sampledAtMs) a)
    (hready : Ready R snapshot.sampleSeq (openedIds snapshot rows rest) a) :
    Histories R snapshot.sampleSeq (some sampledAtMs)
      (observeRows L h enc snapshot sampledAtMs rows rest a).2 := by
  induction rest generalizing a with
  | nil => exact hh.enforceBudget
  | cons row rest ih =>
    by_cases hrow : row.isGroupedProcess
    · rw [openedIds_grouped hrow] at hready
      simp only [WorkloadArchive.observeRows,observeRow,if_pos hrow]
      exact ih hh hready
    · rw [openedIds_cons hrow] at hready
      simp only [WorkloadArchive.observeRows,observeRow,if_neg hrow]
      cases hr : WorkloadArchive.recordRow L h enc snapshot sampledAtMs rows row a with
      | error e => exact hh
      | ok b =>
        obtain ⟨hh',hready'⟩ := hh.recordRow hready hr
        exact ih hh'.enforceBudget (hready'.below (.enforceBudget b))

/-- The order of the sample numbers holds for every sample, or for those of unique ids. -/
def Ordered (R : Nat → Nat → Prop) (snapshot : RuntimeSnapshot) (rows : List (ProcessViewRow ρ)) :
    Prop :=
  (∀ x y, x ≤ y → R x y) ∨ ((∀ x y, x < y → R x y) ∧ (openedIds snapshot rows rows).Nodup)

theorem Histories.observe {live : Bool} (hR : Ordered R snapshot rows)
    (hh : Histories R a.sampleSeq a.lastSampledAtMs a) :
    Histories R (observe L h enc snapshot rows live a).2.sampleSeq
      (observe L h enc snapshot rows live a).2.lastSampledAtMs
      (observe L h enc snapshot rows live a).2 := by
  cases observe_leaves L h enc snapshot rows live a with
  | inl hlabel =>
    obtain ⟨f,heq⟩ := hlabel
    rw [heq]
    exact hh
  | inr hread =>
    obtain ⟨sampledAtMs,f,hnew,hclock,hsampled,heq⟩ := hread
    have hlater : Histories R snapshot.sampleSeq (some sampledAtMs)
        (begun snapshot sampledAtMs a) := by
      intro id entry hentry
      refine (hh id entry hentry).later hnew.2.2.le ?_
      intro earlier hearlier
      by_contra hback
      exact hclock ⟨sampledAtMs,earlier,hsampled,hearlier,by omega⟩
    have hready : Ready R snapshot.sampleSeq (openedIds snapshot rows rows)
        (begun snapshot sampledAtMs a) := by
      cases hR with
      | inl hall => exact .inl (fun x hx => hall x _ hx)
      | inr hR =>
        refine .inr ⟨fun x hx => hR.1 x _ hx,hR.2,?_⟩
        intro id _ entry hentry
        exact Nat.lt_of_le_of_lt (hh id entry hentry).dated hnew.2.2
    have hframe := observeRows_frame L h enc snapshot rows sampledAtMs rows
      (begun snapshot sampledAtMs a)
    rw [heq]
    change Histories R
      (WorkloadArchive.observeRows L h enc snapshot sampledAtMs rows rows _).2.sampleSeq
      (WorkloadArchive.observeRows L h enc snapshot sampledAtMs rows rows _).2.lastSampledAtMs _
    rw [hframe.sampleSeq_eq,hframe.lastSampledAtMs_eq]
    exact Histories.observeRows rows hlater hready

theorem Tombstones.observe (ht : Tombstones a) (live : Bool) :
    Tombstones (observe L h enc snapshot rows live a).2 := by
  refine observe_rule (P := Tombstones) (fun _ _ _ _ _ ht => ⟨ht.apart,ht.distinct,ht.bounded⟩) ?_
    (fun _ ht => ht.enforceBudget) live ht
  intro sampledAtMs row a' b ht' hr
  obtain ⟨_,ts,_,_,_,rfl⟩ | ⟨_,catalog,bytes,_,_,_,_,rfl⟩ := recordRow_cases hr
  · exact (foldl_rule (fun _ t ht => ht.reject t) ts ht').enforceBudget
  · have hopen : Tombstones (openBundle h a' catalog bytes) := ⟨ht'.apart,ht'.distinct,ht'.bounded⟩
    exact (foldl_rule (fun _ p ht => ht.recordPoint _ p) _ hopen).enforceBudget

end Samples

section Runs
variable [Zero ν] [Add ν] (L : Layout) (enc : Encoder ν κ ρ)

/-- Both, with the archive's own sample and time. -/
structure Shaped (R : Nat → Nat → Prop) (a : WorkloadArchive ν κ) : Prop where
  histories : Histories R a.sampleSeq a.lastSampledAtMs a
  tombstones : Tombstones a

theorem Shaped.apply {R : Nat → Nat → Prop} {a : WorkloadArchive ν κ} (hs : Shaped R a)
    {step : Heap ν κ × Operation ρ}
    (hR : ∀ snapshot rows live, step.2=.observe snapshot rows live → Ordered R snapshot rows) :
    Shaped R (a.apply L enc step) := by
  obtain ⟨h,op⟩ := step
  cases op with
  | beginIngress processes =>
    simp only [WorkloadArchive.apply,beginIngress]
    split
    · exact ⟨hs.histories,⟨hs.tombstones.apart,hs.tombstones.distinct,hs.tombstones.bounded⟩⟩
    · have hframe := SameFrame.enforceBudget (L := L) (h := h) {a with ingressReserved :=
        processes.length*(L.processSample*4+L.processViewRow*4+4096+
          ((processes.map (·.label)).foldr max 0)*8)+
            (processes.map processTextBytes).sum*8+a.budget/8}
      refine ⟨?_,Tombstones.enforceBudget
        ⟨hs.tombstones.apart,hs.tombstones.distinct,hs.tombstones.bounded⟩⟩
      rw [hframe.sampleSeq_eq,hframe.lastSampledAtMs_eq]
      exact Histories.enforceBudget hs.histories
  | endIngress =>
    exact ⟨hs.histories,⟨hs.tombstones.apart,hs.tombstones.distinct,hs.tombstones.bounded⟩⟩
  | observe snapshot rows live =>
    exact ⟨hs.histories.observe (hR snapshot rows live rfl),hs.tombstones.observe live⟩
  | inspect id pointLimit =>
    simp only [WorkloadArchive.apply,inspect]
    split
    · exact hs
    · split
      · exact hs
      · split
        · exact hs
        · exact ⟨hs.histories,⟨hs.tombstones.apart,hs.tombstones.distinct,hs.tombstones.bounded⟩⟩
  | acknowledge token =>
    simp only [WorkloadArchive.apply,acknowledge]
    split
    · exact hs
    · split
      · exact hs
      · exact ⟨hs.histories,⟨hs.tombstones.apart,hs.tombstones.distinct,hs.tombstones.bounded⟩⟩

theorem Shaped.run {R : Nat → Nat → Prop} (budget : Nat) (steps : List (Heap ν κ × Operation ρ))
    (hR : ∀ step∈steps, ∀ snapshot rows live, step.2=.observe snapshot rows live →
      Ordered R snapshot rows) :
    Shaped R (run L enc steps (withBudget budget)) := by
  refine foldl_mem_rule steps (fun a step hstep hs => hs.apply L enc (hR step hstep)) ⟨?_,?_⟩
  · intro id entry hentry
    simp [withBudget] at hentry
  · refine ⟨?_,?_,?_⟩
    · simp [withBudget]
    · simp [withBudget]
    · simp [withBudget]

end Runs
end BatCave.WorkloadHistory.WorkloadArchive
