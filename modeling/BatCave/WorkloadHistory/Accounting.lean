import BatCave.WorkloadHistory.Steps

/-! The archive's counters are exact in every reachable state. In the middle of an
insertion a bundle is still owed to entries that are not in the map yet; the
invariant carries that debt, and it is zero between operations. -/
namespace BatCave.WorkloadHistory.WorkloadArchive
open BatCave.Lib.Table
variable {ν κ ρ : Type}

/-- How many entries name a bundle. -/
def naming (entries : AList (fun _ : String => Entry ν)) (k : Nat) : Nat :=
  total (fun _ entry => if entry.bundleId=k then 1 else 0) entries

theorem naming_pos {entries : AList (fun _ : String => Entry ν)} {id : String} {entry : Entry ν}
    (h : entries.lookup id=some entry) : 0 < naming entries entry.bundleId := by
  have hle := le_total (fun _ (e : Entry ν) => if e.bundleId=entry.bundleId then 1 else 0) h
  rw [if_pos rfl] at hle
  exact hle

/-- One more reference of a bundle than entries name it. -/
def owe (owed : Nat → Nat) (k : Nat) : Nat → Nat := fun j => owed j+if j=k then 1 else 0

/-- So many references of one bundle. -/
def owing (bundleId n : Nat) : Nat → Nat := fun k => if k=bundleId then n else 0

theorem owe_owing (bundleId n : Nat) : owe (owing bundleId n) bundleId=owing bundleId (n+1) := by
  funext k
  simp only [owe,owing]
  split <;> rfl

structure Accounts (L : Layout) (owed : Nat → Nat) (a : WorkloadArchive ν κ) : Prop where
  allocated_eq : a.allocated=total (entryHeap L) a.entries+total (fun _ b => b.bytes) a.bundles
  named : ∀ id entry, a.entries.lookup id=some entry → entry.bundleId∈a.bundles
  owed_present : ∀ k, 0 < owed k → k∈a.bundles
  references_eq : ∀ k b, a.bundles.lookup k=some b → b.references=naming a.entries k+owed k
  references_pos : ∀ k b, a.bundles.lookup k=some b → 0 < b.references
  bundle_le : ∀ k∈a.bundles, k ≤ a.nextBundle
  tombstones_eq : a.evictedBytes=(a.evicted.map (·.capacity)).sum
  exact : a.underflow=false

namespace Accounts
variable {L : Layout} {h : Heap ν κ} {owed : Nat → Nat} {a : WorkloadArchive ν κ}

theorem popEvicted {t : Tombstone} {a' : WorkloadArchive ν κ} (ha : Accounts L owed a)
    (hp : a.popEvicted=some (t,a')) : Accounts L owed a' := by
  obtain ⟨rest,hev,rfl⟩ := popEvicted_cases hp
  refine ⟨ha.allocated_eq,ha.named,ha.owed_present,ha.references_eq,ha.references_pos,
    ha.bundle_le,?_,ha.exact⟩
  have htomb := ha.tombstones_eq
  rw [hev,List.map_cons,List.sum_cons] at htomb
  simp only
  omega

theorem rememberEvicted (ha : Accounts L owed a) (t : Tombstone) :
    Accounts L owed (rememberEvicted h a t) := by
  refine rememberEvicted_rule (fun _ _ _ ha' hp => ha'.popEvicted hp) ?_
  unfold pushTombstone
  split
  · exact ha
  · refine ⟨ha.allocated_eq,ha.named,ha.owed_present,ha.references_eq,ha.references_pos,
      ha.bundle_le,?_,ha.exact⟩
    simp [ha.tombstones_eq]

/-- The last reference: nobody names the bundle, nothing is owed to it. -/
theorem dropBundle {k : Nat} {b : Bundle ν κ} {capacity : Nat} (ha : Accounts L (owe owed k) a)
    (hb : a.bundles.lookup k=some b) (hlast : b.references=1) :
    Accounts L owed ({a with
      bundles := a.bundles.erase k
      bundlesCapacity := capacity}.subAllocated b.bytes) := by
  have hrefs := ha.references_eq k b hb
  have hnone : naming a.entries k=0 ∧ owed k=0 := by
    simp only [owe,if_true] at hrefs
    omega
  have hother {j : Nat} (hj : j≠k) : owe owed k j=owed j := by simp [owe,hj]
  have hbytes := total_erase (fun _ b => b.bytes) hb
  have halloc := ha.allocated_eq
  refine ⟨?_,?_,?_,?_,?_,?_,ha.tombstones_eq,?_⟩
  · simp only [subAllocated]
    omega
  · intro id entry hentry
    refine AList.mem_erase.mpr ⟨?_,ha.named id entry hentry⟩
    intro hname
    have hpos := naming_pos hentry
    rw [hname] at hpos
    exact absurd hnone.1 (Nat.ne_of_gt hpos)
  · intro j hj
    have hjk : j≠k := by
      rintro rfl
      omega
    exact AList.mem_erase.mpr ⟨hjk,ha.owed_present j (by rwa [hother hjk])⟩
  · intro j b' hb'
    have hjk : j≠k := by
      rintro rfl
      simp [subAllocated] at hb'
    rw [← hother hjk]
    exact ha.references_eq j b' (by simpa [subAllocated,AList.lookup_erase_ne hjk] using hb')
  · intro j b' hb'
    have hjk : j≠k := by
      rintro rfl
      simp [subAllocated] at hb'
    exact ha.references_pos j b' (by simpa [subAllocated,AList.lookup_erase_ne hjk] using hb')
  · intro j hj
    exact ha.bundle_le j (AList.mem_erase.mp hj).2
  · simp only [subAllocated,ha.exact,Bool.false_or,decide_eq_false_iff_not]
    omega

/-- One reference of several. -/
theorem decrement {k : Nat} {b : Bundle ν κ} (ha : Accounts L (owe owed k) a)
    (hb : a.bundles.lookup k=some b) (hmore : 1 < b.references) :
    Accounts L owed
      {a with bundles := a.bundles.insert k {b with references := b.references-1}} := by
  have hrefs := ha.references_eq k b hb
  have hother {j : Nat} (hj : j≠k) : owe owed k j=owed j := by simp [owe,hj]
  have hmem {j : Nat} (hj : j∈a.bundles) :
      j∈a.bundles.insert k {b with references := b.references-1} :=
    (AList.mem_insert a.bundles).mpr (Or.inr hj)
  refine ⟨?_,?_,?_,?_,?_,?_,ha.tombstones_eq,ha.exact⟩
  · rw [ha.allocated_eq,total_insert,total_erase (fun _ b => b.bytes) hb]
  · exact fun id entry hentry => hmem (ha.named id entry hentry)
  · intro j hj
    exact hmem (ha.owed_present j (Nat.lt_of_lt_of_le hj (Nat.le_add_right _ _)))
  · intro j b' hb'
    by_cases hjk : j=k
    · subst hjk
      rw [AList.lookup_insert,Option.some.injEq] at hb'
      subst hb'
      simp only [owe,if_true] at hrefs
      simp only
      omega
    · rw [AList.lookup_insert_ne hjk] at hb'
      rw [← hother hjk]
      exact ha.references_eq j b' hb'
  · intro j b' hb'
    by_cases hjk : j=k
    · subst hjk
      rw [AList.lookup_insert,Option.some.injEq] at hb'
      subst hb'
      exact Nat.sub_pos_of_lt hmore
    · rw [AList.lookup_insert_ne hjk] at hb'
      exact ha.references_pos j b' hb'
  · intro j hj
    obtain rfl | hj := (AList.mem_insert a.bundles).mp hj
    · exact ha.bundle_le j (AList.lookup_isSome.mp (by simp [hb]))
    · exact ha.bundle_le j hj

theorem releaseBundle {k : Nat} (ha : Accounts L (owe owed k) a) :
    Accounts L owed (releaseBundle h a k) := by
  have hk : k∈a.bundles := ha.owed_present k (by simp [owe])
  obtain ⟨b,hb⟩ := Option.isSome_iff_exists.mp (AList.lookup_isSome.mpr hk)
  have hpos := ha.references_pos k b hb
  have hflag : decide (b.references < 1)=false := decide_eq_false (by omega)
  unfold WorkloadArchive.releaseBundle
  simp only [hb,hflag,Bool.or_false]
  split
  · exact ha.dropBundle hb (by omega)
  · exact ha.decrement hb (by omega)

/-- An entry out of the map leaves its bundle one reference too many. -/
theorem dropEntry {id : String} {entry : Entry ν} {capacity : Nat} (ha : Accounts L owed a)
    (hentry : a.entries.lookup id=some entry) :
    Accounts L (owe owed entry.bundleId) ({a with
      entries := a.entries.erase id
      entriesCapacity := capacity}.subAllocated (entryHeap L id entry)) := by
  have hheap := total_erase (entryHeap L) hentry
  have halloc := ha.allocated_eq
  have hnaming (k : Nat) : naming a.entries k=
      (if entry.bundleId=k then 1 else 0)+naming (a.entries.erase id) k :=
    total_erase (fun _ (e : Entry ν) => if e.bundleId=k then 1 else 0) hentry
  refine ⟨?_,?_,?_,?_,ha.references_pos,ha.bundle_le,ha.tombstones_eq,?_⟩
  · simp only [subAllocated]
    omega
  · intro id' entry' hentry'
    have hne : id'≠id := by
      rintro rfl
      simp [subAllocated] at hentry'
    exact ha.named id' entry' (by simpa [subAllocated,AList.lookup_erase_ne hne] using hentry')
  · intro k hk
    by_cases hkn : k=entry.bundleId
    · exact hkn ▸ ha.named id entry hentry
    · exact ha.owed_present k (by simpa [owe,hkn] using hk)
  · intro k b hb
    rw [ha.references_eq k b hb,hnaming k]
    simp only [subAllocated,owe,eq_comm (a := k)]
    omega
  · simp only [subAllocated,ha.exact,Bool.false_or,decide_eq_false_iff_not]
    omega

theorem takeEntry {id : String} {entry : Entry ν} {a' : WorkloadArchive ν κ}
    (ha : Accounts L owed a) (ht : takeEntry L h a id=some (entry,a')) : Accounts L owed a' := by
  unfold WorkloadArchive.takeEntry at ht
  split at ht
  · cases ht
  · rename_i entry' hentry
    cases ht
    exact (ha.dropEntry hentry).releaseBundle

theorem evictId (ha : Accounts L owed a) (id : String) : Accounts L owed (evictId L h a id) := by
  unfold WorkloadArchive.evictId
  split
  · exact ha
  · rename_i entry a' ht
    have ha' := ha.takeEntry ht
    refine rememberEvicted ?_ _
    exact ⟨ha'.allocated_eq,ha'.named,ha'.owed_present,ha'.references_eq,ha'.references_pos,
      ha'.bundle_le,ha'.tombstones_eq,ha'.exact⟩

/-- Nothing the counters speak of changed. -/
theorem frame {a' : WorkloadArchive ν κ} (ha : Accounts L owed a) (he : a'.entries=a.entries)
    (hb : a'.bundles=a.bundles) (hn : a'.nextBundle=a.nextBundle)
    (hal : a'.allocated=a.allocated) (hv : a'.evicted=a.evicted)
    (hvb : a'.evictedBytes=a.evictedBytes) (hu : a'.underflow=a.underflow) :
    Accounts L owed a' := by
  obtain ⟨h₁,h₂,h₃,h₄,h₅,h₆,h₇,h₈⟩ := ha
  constructor
  · rwa [hal,he,hb]
  · rwa [he,hb]
  · rwa [hb]
  · rwa [hb,he]
  · rwa [hb]
  · rwa [hb,hn]
  · rwa [hvb,hv]
  · rwa [hu]

theorem trimOne (ha : Accounts L owed a) (cap : Nat) (id : String) :
    Accounts L owed (trimOne L h cap a id) := by
  unfold WorkloadArchive.trimOne
  split
  · exact ha
  · rename_i entry hentry
    split
    · exact ha
    · have hheap := total_erase (entryHeap L) hentry
      have halloc := ha.allocated_eq
      have hnaming (k : Nat) :
          naming (a.entries.insert id (trimEntry h cap entry)) k=naming a.entries k := by
        unfold naming
        rw [total_insert,total_erase _ hentry]
        rfl
      refine ⟨?_,?_,ha.owed_present,?_,ha.references_pos,ha.bundle_le,ha.tombstones_eq,?_⟩
      · simp only [subAllocated]
        rw [total_insert]
        omega
      · intro id' entry' hentry'
        by_cases hid : id'=id
        · subst hid
          rw [AList.lookup_insert,Option.some.injEq] at hentry'
          subst hentry'
          exact ha.named id' entry hentry
        · exact ha.named id' entry' (by rwa [AList.lookup_insert_ne hid] at hentry')
      · intro k b hb
        exact (ha.references_eq k b hb).trans (by rw [← hnaming k]; rfl)
      · simp only [subAllocated,ha.exact,Bool.false_or,decide_eq_false_iff_not]
        omega

theorem enforceBudget (ha : Accounts L owed a) : Accounts L owed (enforceBudget L h a) :=
  enforceBudget_rule (fun _ id ha => ha.evictId id) (fun cap _ id _ ha => ha.trimOne cap id)
    (fun _ _ _ ha hp => ha.popEvicted hp)
    (fun _ ha => ha.frame rfl rfl rfl rfl rfl rfl rfl) ha

theorem reject (ha : Accounts L owed a) (t : Tombstone) : Accounts L owed (reject L h a t) :=
  (ha.evictId t.id).rememberEvicted t

/-- An entry put into the map pays one reference of its bundle. -/
theorem putEntry {id : String} {entry : Entry ν} (ha : Accounts L (owe owed entry.bundleId) a)
    (hid : a.entries.lookup id=none) : Accounts L owed (putEntry L h a id entry) := by
  have hnaming (k : Nat) : naming (a.entries.insert id entry) k=
      (if entry.bundleId=k then 1 else 0)+naming a.entries k := by
    unfold naming
    rw [total_insert,erase_of_lookup_none hid]
  refine ⟨?_,?_,?_,?_,ha.references_pos,ha.bundle_le,ha.tombstones_eq,ha.exact⟩
  · simp only [WorkloadArchive.putEntry]
    rw [ha.allocated_eq,total_insert,erase_of_lookup_none hid]
    omega
  · intro id' entry' hentry'
    by_cases hne : id'=id
    · subst hne
      simp only [WorkloadArchive.putEntry,AList.lookup_insert,Option.some.injEq] at hentry'
      subst hentry'
      exact ha.owed_present entry.bundleId (by simp [owe])
    · simp only [WorkloadArchive.putEntry,AList.lookup_insert_ne hne] at hentry'
      exact ha.named id' entry' hentry'
  · intro k hk
    exact ha.owed_present k (Nat.lt_of_lt_of_le hk (Nat.le_add_right _ _))
  · intro k b hb
    rw [ha.references_eq k b hb]
    simp only [WorkloadArchive.putEntry,hnaming k,owe,eq_comm (a := k)]
    omega

theorem forgetTombstone (ha : Accounts L owed a) (id : String) :
    Accounts L owed (forgetTombstone a id) := by
  unfold WorkloadArchive.forgetTombstone
  split
  · exact ha
  · rename_i t ht
    refine ⟨ha.allocated_eq,ha.named,ha.owed_present,ha.references_eq,ha.references_pos,
      ha.bundle_le,?_,ha.exact⟩
    have hsum : (a.evicted.map (·.capacity)).sum=
        t.capacity+((a.evicted.eraseP (·.id=id)).map (·.capacity)).sum := by
      obtain ⟨hat,l₁,l₂,hl,hbefore⟩ := List.find?_eq_some_iff_append.mp ht
      have hskip : ∀ x∈l₁, ¬decide (x.id=id)=true := fun x hx => by simpa using hbefore x hx
      rw [hl,List.eraseP_append_right _ hskip,List.eraseP_cons,hat,cond_true]
      simp only [List.map_append,List.map_cons,List.sum_append,List.sum_cons]
      omega
    rw [ha.tombstones_eq,hsum,Nat.add_sub_cancel_left]

theorem recordPoint {bundleId : Nat} (ha : Accounts L (owe owed bundleId) a)
    (p : String × ProcessIdentityStabilityV4 × WorkloadHistoryPoint ν) :
    Accounts L owed (recordPoint L h bundleId a p) := by
  obtain ⟨id,stability,point⟩ := p
  have hopen : Accounts L (owe owed bundleId) (openEntry L h bundleId id stability point a).2.2 ∧
      (openEntry L h bundleId id stability point a).2.2.entries.lookup id=none ∧
      (openEntry L h bundleId id stability point a).1.bundleId=bundleId := by
    unfold openEntry
    split
    · rename_i previous a' ht
      exact ⟨ha.takeEntry ht,takeEntry_lookup ht,rfl⟩
    · rename_i ht
      exact ⟨ha,takeEntry_eq_none.mp ht,rfl⟩
  obtain ⟨hacc,hnone,hbundle⟩ := hopen
  have hpay : Accounts L (owe owed (pushPoint h (openEntry L h bundleId id stability point a).1
      (openEntry L h bundleId id stability point a).2.1).bundleId)
      (openEntry L h bundleId id stability point a).2.2 := hbundle.symm ▸ hacc
  exact (hpay.putEntry hnone).forgetTombstone id

/-- A new bundle is owed to all of its workloads. -/
theorem openBundle {catalog : InspectionCatalog ν κ} {bytes : Nat}
    (ha : Accounts L (fun _ => 0) a) (hne : 0 < catalog.workloads.length) :
    Accounts L (owing (a.nextBundle+1) catalog.workloads.length)
      (openBundle h a catalog bytes) := by
  have hfresh : a.bundles.lookup (a.nextBundle+1)=none := by
    rw [AList.lookup_eq_none]
    intro hmem
    exact absurd (ha.bundle_le _ hmem) (by omega)
  have hnone : naming a.entries (a.nextBundle+1)=0 := by
    refine total_eq_zero _ ?_
    intro id entry hentry
    have hle := ha.bundle_le _ (ha.named id entry hentry)
    exact if_neg (by omega)
  refine ⟨?_,?_,?_,?_,?_,?_,ha.tombstones_eq,ha.exact⟩
  · simp only [WorkloadArchive.openBundle]
    rw [ha.allocated_eq,total_insert,erase_of_lookup_none hfresh,Nat.add_assoc,
      Nat.add_comm bytes]
  · intro id entry hentry
    exact (AList.mem_insert _).mpr (Or.inr (ha.named id entry hentry))
  · intro k hk
    refine (AList.mem_insert _).mpr (Or.inl ?_)
    by_contra hne
    simp [owing,hne] at hk
  · intro k b hb
    by_cases hk : k=a.nextBundle+1
    · subst hk
      simp only [WorkloadArchive.openBundle,AList.lookup_insert,Option.some.injEq] at hb
      subst hb
      simp [WorkloadArchive.openBundle,hnone,owing]
    · simp only [WorkloadArchive.openBundle,AList.lookup_insert_ne hk] at hb
      simpa [WorkloadArchive.openBundle,owing,hk] using ha.references_eq k b hb
  · intro k b hb
    by_cases hk : k=a.nextBundle+1
    · subst hk
      simp only [WorkloadArchive.openBundle,AList.lookup_insert,Option.some.injEq] at hb
      subst hb
      exact hne
    · simp only [WorkloadArchive.openBundle,AList.lookup_insert_ne hk] at hb
      exact ha.references_pos k b hb
  · intro k hk
    obtain rfl | hk := (AList.mem_insert _).mp hk
    · exact Nat.le_refl _
    · exact Nat.le_succ_of_le (ha.bundle_le k hk)

/-- A family's points pay what its bundle was opened for. -/
theorem recordPoints {bundleId : Nat}
    (ps : List (String × ProcessIdentityStabilityV4 × WorkloadHistoryPoint ν))
    (ha : Accounts L (owing bundleId ps.length) a) :
    Accounts L (fun _ => 0) (ps.foldl (WorkloadArchive.recordPoint L h bundleId) a) := by
  induction ps generalizing a with
  | nil =>
    have hzero : owing bundleId 0=fun _ => 0 := by
      funext k
      exact ite_self 0
    exact hzero ▸ ha
  | cons p ps ih =>
    rw [List.length_cons,← owe_owing] at ha
    exact ih (ha.recordPoint p)

variable [Zero ν] [Add ν] {enc : Encoder ν κ ρ} {snapshot : RuntimeSnapshot}
  {rows : List (ProcessViewRow ρ)}

theorem recordRow {sampledAtMs : Nat} {row : ProcessViewRow ρ} {b : WorkloadArchive ν κ}
    (ha : Accounts L (fun _ => 0) a)
    (hr : recordRow L h enc snapshot sampledAtMs rows row a=.ok b) :
    Accounts L (fun _ => 0) b := by
  obtain ⟨-,ts,-,-,-,rfl⟩ | ⟨-,catalog,bytes,hids,-,-,-,rfl⟩ := recordRow_cases hr
  · exact foldl_rule (fun _ t ha => ha.reject t) _ ha
  · have hne : 0 < catalog.workloads.length := by
      refine List.length_pos_iff.mpr ?_
      rintro hnil
      rw [hnil] at hids
      exact familyIds_ne_nil snapshot rows row hids.symm
    refine recordPoints _ ?_
    rw [familyPoints,List.length_map]
    exact ha.openBundle hne

theorem observe (live : Bool) (ha : Accounts L (fun _ => 0) a) :
    Accounts L (fun _ => 0) (observe L h enc snapshot rows live a).2 :=
  observe_rule (fun _ _ _ _ _ ha => ha.frame rfl rfl rfl rfl rfl rfl rfl)
    (fun _ _ _ _ ha hr => (ha.recordRow hr).enforceBudget) (fun _ ha => ha.enforceBudget) live ha

end Accounts

/-- The credits of the replies in flight, each under a token already handed out. -/
structure Credits (pool : ResponseCredits) : Prop where
  used_eq : pool.used=total (fun _ bytes => bytes) pool.pending
  pending_le : ∀ id∈pool.pending, id ≤ pool.nextId

theorem Credits.reserve {pool pool' : ResponseCredits} {bytes budget : Nat} {token : String}
    (hc : Credits pool) (hr : pool.reserve bytes budget=.ok (token,pool')) : Credits pool' := by
  unfold ResponseCredits.reserve at hr
  split at hr
  · cases hr
  · split at hr
    · cases hr
    · rename_i id hid
      cases hr
      have hnext : id=pool.nextId+1 := by
        simp only [Lib.Word.checkedAdd,Option.ite_none_right_eq_some,Option.some.injEq] at hid
        exact hid.2.symm
      have hfresh : pool.pending.lookup id=none := by
        rw [AList.lookup_eq_none]
        intro hmem
        exact absurd (hc.pending_le id hmem) (by omega)
      refine ⟨?_,?_⟩
      · rw [total_insert,erase_of_lookup_none hfresh,hc.used_eq,Nat.add_comm]
      · intro id' hmem
        obtain rfl | hmem := (AList.mem_insert _).mp hmem
        · exact Nat.le_refl _
        · exact (hc.pending_le id' hmem).trans (hnext ▸ Nat.le_succ _)

/-- Both ledgers of the archive between operations. -/
structure Books (L : Layout) (a : WorkloadArchive ν κ) : Prop where
  accounts : Accounts L (fun _ => 0) a
  credits : Credits a.replies

namespace Books
variable {L : Layout} {a : WorkloadArchive ν κ}

theorem withBudget (budget : Nat) : Books L (withBudget budget : WorkloadArchive ν κ) := by
  refine ⟨⟨rfl,?_,?_,?_,?_,?_,rfl,rfl⟩,rfl,?_⟩
  all_goals simp [WorkloadArchive.withBudget]

theorem acknowledge (hb : Books L a) (token : String) : Books L (a.acknowledge token).2 := by
  unfold WorkloadArchive.acknowledge
  split
  · exact hb
  · split
    · exact hb
    · rename_i id hid bytes hpending
      have hsum := total_erase (fun _ bytes => bytes) hpending
      have hused := hb.credits.used_eq
      refine ⟨hb.accounts.frame rfl rfl rfl rfl rfl rfl ?_,?_,?_⟩
      · simp only [Bool.or_eq_left_iff_imp,decide_eq_true_eq]
        omega
      · simp only
        omega
      · intro id' hmem
        exact hb.credits.pending_le id' (AList.mem_erase.mp hmem).2

theorem inspect (hb : Books L a) (id : String) (pointLimit : Nat) :
    Books L (a.inspect id pointLimit).2 := by
  unfold WorkloadArchive.inspect
  split
  · exact hb
  · split
    · exact hb
    · split
      · exact hb
      · rename_i token replies hreserve
        exact ⟨hb.accounts.frame rfl rfl rfl rfl rfl rfl rfl,hb.credits.reserve hreserve⟩

theorem beginIngress (hb : Books L a) (h : Heap ν κ) (processes : List ProcessSample) :
    Books L (a.beginIngress L h processes).2 := by
  unfold WorkloadArchive.beginIngress
  simp only
  split
  · exact ⟨hb.accounts.frame rfl rfl rfl rfl rfl rfl rfl,hb.credits⟩
  · refine ⟨Accounts.enforceBudget ?_,?_⟩
    · exact hb.accounts.frame rfl rfl rfl rfl rfl rfl rfl
    · rw [(SameFrame.enforceBudget _).replies_eq]
      exact hb.credits

variable [Zero ν] [Add ν] {enc : Encoder ν κ ρ}

theorem apply (hb : Books L a) (step : Heap ν κ × Operation ρ) :
    Books L (a.apply L enc step) := by
  obtain ⟨h,op⟩ := step
  cases op with
  | beginIngress processes => exact hb.beginIngress h processes
  | endIngress => exact ⟨hb.accounts.frame rfl rfl rfl rfl rfl rfl rfl,hb.credits⟩
  | observe snapshot rows live =>
    refine ⟨hb.accounts.observe live,?_⟩
    simp only [WorkloadArchive.apply]
    rw [(observe_reserves live a).replies_eq]
    exact hb.credits
  | inspect id pointLimit => exact hb.inspect id pointLimit
  | acknowledge token => exact hb.acknowledge token

theorem run (budget : Nat) (steps : List (Heap ν κ × Operation ρ)) :
    Books L (WorkloadArchive.run L enc steps (WorkloadArchive.withBudget budget)) :=
  foldl_rule (fun _ step hb => hb.apply step) steps (withBudget budget)

end Books

/-- In every reachable archive the counters are what they count, every entry has its
bundle, every bundle its entries, and nothing was ever taken from too little. -/
theorem counters_exact [Zero ν] [Add ν] (L : Layout) (enc : Encoder ν κ ρ) (budget : Nat)
    (steps : List (Heap ν κ × Operation ρ)) :
    let a := run L enc steps (withBudget budget)
    a.allocated=total (entryHeap L) a.entries+total (fun _ b => b.bytes) a.bundles ∧
    (∀ id entry, a.entries.lookup id=some entry → entry.bundleId∈a.bundles) ∧
    (∀ k b, a.bundles.lookup k=some b →
      b.references=naming a.entries k ∧ 0 < b.references) ∧
    a.evictedBytes=(a.evicted.map (·.capacity)).sum ∧
    a.underflow=false := by
  have hbooks : Books L (run L enc steps (withBudget budget)) := Books.run budget steps
  have hacc := hbooks.accounts
  exact ⟨hacc.allocated_eq,hacc.named,
    fun k b hb => ⟨hacc.references_eq k b hb,hacc.references_pos k b hb⟩,
    hacc.tombstones_eq,hacc.exact⟩

end BatCave.WorkloadHistory.WorkloadArchive
