import BatCave.Lib.Merge
import BatCave.ProcessView.Displays

/-! The kernel pool tags of a Windows machine: rows of the kernel are merged by the tag that is
displayed, in lower case, and by the kind of pool. -/
namespace BatCave.WindowsSystem
open BatCave.Contracts BatCave.Lib.Merge BatCave.Lib.Word
open BatCave.ProcessView (sortBy sortBy_pairwise mem_sortBy)

structure SystemPoolTagRaw where
  tag : Vector UInt8 4
  pagedAllocs : Nat
  pagedFrees : Nat
  pagedUsed : Nat
  nonpagedAllocs : Nat
  nonpagedFrees : Nat
  nonpagedUsed : Nat
  deriving DecidableEq, Repr

/-- One byte of a tag as it is displayed. -/
def displayByte (byte : UInt8) : Char :=
  if 0x21 ≤ byte ∧ byte ≤ 0x7E then Char.ofNat byte.toNat else if byte=0x20 then '_' else '.'

def poolTagDisplay (tag : Vector UInt8 4) : String := String.ofList (tag.toList.map displayByte)

/-- `BTreeMap<(String, KernelPoolKind), KernelPoolTag>`: `intoValues` has its order. -/
abbrev PoolTagMap := AList (fun _ : String × KernelPoolKind => KernelPoolTag)

/-- The derived order of the kinds. -/
def kindPlace : KernelPoolKind → Nat
  | .paged => 0
  | .nonpaged => 1

/-- What a row adds to the entry of its tag and kind. -/
structure PoolUse where
  displayTag : String
  kind : KernelPoolKind
  bytes : Nat
  allocations : Nat
  frees : Nat
  deriving DecidableEq, Repr

def PoolUse.key (use : PoolUse) : String × KernelPoolKind := (use.displayTag.toLower,use.kind)

/-- `merge_kernel_pool_tag` on the entry of its key. -/
def absorbPoolUse (entry : Option KernelPoolTag) (use : PoolUse) : KernelPoolTag :=
  let tag := entry.getD ⟨use.displayTag,use.kind,0,0,0,[],false⟩
  let tag :=
    if compare use.displayTag tag.tag=.lt then { tag with tag := use.displayTag } else tag
  { tag with
    bytes := satAdd tag.bytes use.bytes
    allocations := satAdd tag.allocations use.allocations
    frees := satAdd tag.frees use.frees }

def mergeKernelPoolTag (tags : PoolTagMap) (use : PoolUse) : PoolTagMap :=
  tags.insert use.key (absorbPoolUse (tags.lookup use.key) use)

/-- The body of the loop over the rows. -/
def mergeRow (tags : PoolTagMap) (row : SystemPoolTagRaw) : PoolTagMap :=
  let tags :=
    if 0 < row.pagedUsed then
      mergeKernelPoolTag tags
        ⟨poolTagDisplay row.tag,.paged,row.pagedUsed,row.pagedAllocs,row.pagedFrees⟩
    else tags
  if 0 < row.nonpagedUsed then
    mergeKernelPoolTag tags
      ⟨poolTagDisplay row.tag,.nonpaged,row.nonpagedUsed,row.nonpagedAllocs,row.nonpagedFrees⟩
  else tags

def compareKeys : String × KernelPoolKind → String × KernelPoolKind → Ordering :=
  compareLex (compareOn Prod.fst) (compareOn (fun key => kindPlace key.2))

def intoValues (tags : PoolTagMap) : List KernelPoolTag :=
  (sortBy (fun left right => compareKeys left.1 right.1) tags.entries).map Sigma.snd

/-- The order of the tags: most bytes first. -/
def comparePoolTags : KernelPoolTag → KernelPoolTag → Ordering :=
  compareLex (fun left right => compare right.bytes left.bytes)
    (compareLex (compareOn KernelPoolTag.tag) (compareOn (fun tag => kindPlace tag.kind)))

def kernelPoolTagsFromRows (rows : List SystemPoolTagRaw) (limit : Nat) : List KernelPoolTag :=
  (sortBy comparePoolTags (intoValues (rows.foldl mergeRow ∅))).take limit

namespace SystemPoolTagRaw

def used (row : SystemPoolTagRaw) : KernelPoolKind → Nat
  | .paged => row.pagedUsed
  | .nonpaged => row.nonpagedUsed

def allocs (row : SystemPoolTagRaw) : KernelPoolKind → Nat
  | .paged => row.pagedAllocs
  | .nonpaged => row.nonpagedAllocs

def frees (row : SystemPoolTagRaw) : KernelPoolKind → Nat
  | .paged => row.pagedFrees
  | .nonpaged => row.nonpagedFrees

end SystemPoolTagRaw

/-- What identifies a tag: its text in lower case, and its kind. -/
def poolKey (tag : KernelPoolTag) : String × KernelPoolKind := (tag.tag.toLower,tag.kind)

/-- The rows with a use of a kind whose displayed tag is this one in lower case. -/
def rowsOf (rows : List SystemPoolTagRaw) (key : String × KernelPoolKind) :
    List SystemPoolTagRaw :=
  rows.filter (fun row => 0 < row.used key.2 ∧ (poolTagDisplay row.tag).toLower=key.1)

/-- The saturating sum of a measure over rows. -/
def satSum (measure : SystemPoolTagRaw → Nat) (rows : List SystemPoolTagRaw) : Nat :=
  min (rows.map measure).sum u64Max

/-- The tag stands for exactly the rows of its key. -/
structure Aggregates (rows : List SystemPoolTagRaw) (tag : KernelPoolTag) : Prop where
  bytes : tag.bytes=satSum (fun row => row.used tag.kind) (rowsOf rows (poolKey tag))
  allocations : tag.allocations=
    satSum (fun row => row.allocs tag.kind) (rowsOf rows (poolKey tag))
  frees : tag.frees=satSum (fun row => row.frees tag.kind) (rowsOf rows (poolKey tag))
  display : ∃ row∈rowsOf rows (poolKey tag), tag.tag=poolTagDisplay row.tag
  least : ∀ row∈rowsOf rows (poolKey tag), (compare tag.tag (poolTagDisplay row.tag)).isLE=true
  candidates : tag.driverCandidates=[]
  settled : tag.driverCandidatesPending=false

section Uses
variable {rows : List SystemPoolTagRaw} {key : String × KernelPoolKind}

def useOf (kind : KernelPoolKind) (row : SystemPoolTagRaw) : PoolUse :=
  ⟨poolTagDisplay row.tag,kind,row.used kind,row.allocs kind,row.frees kind⟩

/-- The uses of a row, in the order in which the loop merges them. -/
def usesOf (row : SystemPoolTagRaw) : List PoolUse :=
  ([KernelPoolKind.paged,.nonpaged].filter (fun kind => 0 < row.used kind)).map
    (fun kind => useOf kind row)

theorem foldl_mergeRow (rows : List SystemPoolTagRaw) :
    rows.foldl mergeRow ∅=mergeAll PoolUse.key absorbPoolUse (rows.flatMap usesOf) := by
  rw [mergeAll,List.foldl_flatMap]
  congr 1
  funext tags row
  by_cases hpaged : 0 < row.pagedUsed
  · by_cases hnonpaged : 0 < row.nonpagedUsed
    · simp [mergeRow,usesOf,useOf,hpaged,hnonpaged,SystemPoolTagRaw.used,SystemPoolTagRaw.allocs,
        SystemPoolTagRaw.frees,mergeKernelPoolTag]
    · simp [mergeRow,usesOf,useOf,hpaged,hnonpaged,SystemPoolTagRaw.used,SystemPoolTagRaw.allocs,
        SystemPoolTagRaw.frees,mergeKernelPoolTag]
  · by_cases hnonpaged : 0 < row.nonpagedUsed
    · simp [mergeRow,usesOf,useOf,hpaged,hnonpaged,SystemPoolTagRaw.used,SystemPoolTagRaw.allocs,
        SystemPoolTagRaw.frees,mergeKernelPoolTag]
    · simp [mergeRow,usesOf,hpaged,hnonpaged,SystemPoolTagRaw.used]

theorem ofKey_usesOf (row : SystemPoolTagRaw) :
    ofKey PoolUse.key key (usesOf row)=(rowsOf [row] key).map (useOf key.2) := by
  have hkinds : [KernelPoolKind.paged,.nonpaged].filter (fun kind => kind=key.2)=[key.2] := by
    cases key.2 <;> rfl
  have hkey : ∀ kind, (decide ((useOf kind row).key=key) && decide (0 < row.used kind))=
      (decide (0 < row.used key.2 ∧ (poolTagDisplay row.tag).toLower=key.1) &&
        decide (kind=key.2)) := by
    intro kind
    rw [← Bool.decide_and,← Bool.decide_and,decide_eq_decide,PoolUse.key,Prod.ext_iff]
    constructor
    · intro ⟨⟨htext,hkind⟩,hused⟩
      have hk : kind=key.2 := hkind
      exact ⟨⟨hk ▸ hused,htext⟩,hk⟩
    · intro ⟨⟨hused,htext⟩,hkind⟩
      exact ⟨⟨htext,hkind⟩,hkind ▸ hused⟩
  rw [ofKey,usesOf,List.filter_map,List.filter_filter]
  simp only [Function.comp_apply,hkey]
  rw [← List.filter_filter,hkinds,rowsOf,List.filter_singleton,List.filter_singleton]
  cases decide (0 < row.used key.2 ∧ (poolTagDisplay row.tag).toLower=key.1) <;> rfl

theorem rowsOf_append (front back : List SystemPoolTagRaw) :
    rowsOf (front++back) key=rowsOf front key++rowsOf back key := List.filter_append ..

/-- The uses of a key are those of its rows. -/
theorem ofKey_uses (rows : List SystemPoolTagRaw) :
    ofKey PoolUse.key key (rows.flatMap usesOf)=(rowsOf rows key).map (useOf key.2) := by
  induction rows with
  | nil => rfl
  | cons row rows ih =>
    rw [← List.singleton_append,rowsOf_append,List.map_append,← ih,← ofKey_usesOf,
      List.flatMap_append,List.flatMap_singleton,ofKey,ofKey,ofKey,List.filter_append]

/-- What the uses of one key have come to. -/
structure Summary (uses : List PoolUse) (key : String × KernelPoolKind) (tag : KernelPoolTag) :
    Prop where
  key : poolKey tag=key
  bytes : tag.bytes=min (uses.map PoolUse.bytes).sum u64Max
  allocations : tag.allocations=min (uses.map PoolUse.allocations).sum u64Max
  frees : tag.frees=min (uses.map PoolUse.frees).sum u64Max
  display : tag.tag∈uses.map PoolUse.displayTag
  least : ∀ text∈uses.map PoolUse.displayTag, (compare tag.tag text).isLE=true
  candidates : tag.driverCandidates=[]
  settled : tag.driverCandidatesPending=false

theorem summary_fresh (use : PoolUse) : Summary [use] use.key (absorbPoolUse none use) := by
  constructor <;> simp [absorbPoolUse,satAdd,poolKey,PoolUse.key]

theorem Summary.absorb {uses : List PoolUse} {tag : KernelPoolTag} {use : PoolUse}
    (h : Summary uses use.key tag) :
    Summary (uses++[use]) use.key (absorbPoolUse (some tag) use) := by
  have hsum : ∀ (measure : PoolUse → Nat) (value : Nat),
      value=min (uses.map measure).sum u64Max →
      satAdd value (measure use)=min ((uses++[use]).map measure).sum u64Max := by
    intro measure value hvalue
    rw [hvalue,satAdd_min,List.map_append,List.sum_append]
    simp
  have hkey : tag.tag.toLower=use.displayTag.toLower ∧ tag.kind=use.kind := by
    simpa [poolKey,PoolUse.key] using h.key
  by_cases hless : compare use.displayTag tag.tag=.lt
  · refine ⟨?_,?_,?_,?_,?_,?_,?_,?_⟩
    all_goals simp only [absorbPoolUse,Option.getD_some,if_pos hless]
    · simp [poolKey,PoolUse.key,hkey]
    · exact hsum _ _ h.bytes
    · exact hsum _ _ h.allocations
    · exact hsum _ _ h.frees
    · simp
    · intro text htext
      rw [List.map_append,List.mem_append] at htext
      cases htext with
      | inl hold => exact Std.TransCmp.isLE_trans (by rw [hless]; rfl) (h.least text hold)
      | inr hnew =>
        rw [List.map_singleton,List.mem_singleton] at hnew
        rw [hnew,Std.ReflOrd.compare_self]
        rfl
    · exact h.candidates
    · exact h.settled
  · refine ⟨?_,?_,?_,?_,?_,?_,?_,?_⟩
    all_goals simp only [absorbPoolUse,Option.getD_some,if_neg hless]
    · exact h.key
    · exact hsum _ _ h.bytes
    · exact hsum _ _ h.allocations
    · exact hsum _ _ h.frees
    · rw [List.map_append]
      exact List.mem_append_left _ h.display
    · intro text htext
      rw [List.map_append,List.mem_append] at htext
      cases htext with
      | inl hold => exact h.least text hold
      | inr hnew =>
        rw [List.map_singleton,List.mem_singleton] at hnew
        rw [hnew,Std.OrientedOrd.eq_swap,Ordering.isLE_swap]
        exact Ordering.isGE_iff_ne_lt.mpr hless
    · exact h.candidates
    · exact h.settled

/-- Uses of one key come to a summary of them. -/
theorem absorbAll_summary {uses : List PoolUse} (hkeys : ∀ use∈uses, use.key=key) :
    (uses=[] ∧ absorbAll absorbPoolUse uses=none) ∨
      ∃ tag, absorbAll absorbPoolUse uses=some tag ∧ Summary uses key tag := by
  induction uses using List.reverseRecOn with
  | nil => exact .inl ⟨rfl,rfl⟩
  | append_singleton uses use ih =>
    have huse : use.key=key := hkeys use (by simp)
    have hrest := ih (fun other hother => hkeys other (List.mem_append_left _ hother))
    right
    rw [absorbAll_snoc]
    refine ⟨_,rfl,?_⟩
    subst huse
    obtain ⟨hnil,hnone⟩ | ⟨tag,htag,hsummary⟩ := hrest
    · rw [hnone,hnil]
      exact summary_fresh use
    · rw [htag]
      exact hsummary.absorb

theorem Summary.aggregates {tag : KernelPoolTag}
    (h : Summary ((rowsOf rows key).map (useOf key.2)) key tag) : Aggregates rows tag := by
  have hkind : tag.kind=key.2 := congrArg Prod.snd h.key
  have hsum : ∀ measure : PoolUse → Nat,
      min (((rowsOf rows key).map (useOf key.2)).map measure).sum u64Max=
        satSum (fun row => measure (useOf key.2 row)) (rowsOf rows key) := by
    intro measure
    rw [satSum,List.map_map]
    rfl
  have hbytes := h.bytes.trans (hsum _)
  have hallocations := h.allocations.trans (hsum _)
  have hfrees := h.frees.trans (hsum _)
  have hdisplay := h.display
  have hleast := h.least
  rw [List.map_map,List.mem_map] at hdisplay
  simp only [List.map_map,List.forall_mem_map] at hleast
  obtain ⟨row,hrow,htag⟩ := hdisplay
  rw [← hkind] at hbytes hallocations hfrees
  rw [← h.key] at hbytes hallocations hfrees hrow hleast
  exact ⟨hbytes,hallocations,hfrees,⟨row,hrow,htag.symm⟩,hleast,h.candidates,h.settled⟩

/-- A tag that stands for the rows of its key is determined by it. -/
theorem Aggregates.unique {a b : KernelPoolTag} (ha : Aggregates rows a) (hb : Aggregates rows b)
    (hkey : poolKey a=poolKey b) : a=b := by
  have hkind : a.kind=b.kind := congrArg Prod.snd hkey
  have htag : a.tag=b.tag := by
    obtain ⟨row,hrow,hdisplay⟩ := ha.display
    obtain ⟨row',hrow',hdisplay'⟩ := hb.display
    have hab := ha.least row' (hkey ▸ hrow')
    have hba := hb.least row (hkey ▸ hrow)
    rw [← hdisplay'] at hab
    rw [← hdisplay] at hba
    exact Std.LawfulEqCmp.eq_of_compare (Std.OrientedCmp.isLE_antisymm hab hba)
  have hbytes : a.bytes=b.bytes := by rw [ha.bytes,hb.bytes,hkey,hkind]
  have hallocations : a.allocations=b.allocations := by
    rw [ha.allocations,hb.allocations,hkey,hkind]
  have hfrees : a.frees=b.frees := by rw [ha.frees,hb.frees,hkey,hkind]
  have hcandidates := ha.candidates.trans hb.candidates.symm
  have hsettled := ha.settled.trans hb.settled.symm
  cases a
  cases b
  simp_all

theorem mem_intoValues {tags : PoolTagMap} {tag : KernelPoolTag} :
    tag∈intoValues tags ↔ ∃ key, (⟨key,tag⟩ : Sigma fun _ => KernelPoolTag)∈tags.entries := by
  simp only [intoValues,List.mem_map,mem_sortBy]
  constructor
  · intro ⟨entry,hentry,htag⟩
    subst htag
    exact ⟨entry.1,hentry⟩
  · intro ⟨key,hentry⟩
    exact ⟨_,hentry,rfl⟩

/-- An entry of the map sums up the uses of its key. -/
theorem summary_of_entry {tag : KernelPoolTag}
    (h : (⟨key,tag⟩ : Sigma fun _ => KernelPoolTag)∈(rows.foldl mergeRow ∅).entries) :
    Summary ((rowsOf rows key).map (useOf key.2)) key tag := by
  rw [foldl_mergeRow,mem_entries_mergeAll] at h
  have hkeys : ∀ use∈ofKey PoolUse.key key (rows.flatMap usesOf), use.key=key := by
    intro use huse
    simpa [ofKey] using (List.mem_filter.mp huse).2
  obtain ⟨_,hnone⟩ | ⟨tag',htag',hsummary⟩ := absorbAll_summary hkeys
  · rw [hnone] at h
    cases h
  · rw [htag',Option.some.injEq] at h
    rwa [h,ofKey_uses] at hsummary

/-- Some tag stands for the rows of a key, if there are any. -/
theorem entry_of_rows (h : rowsOf rows key≠[]) : ∃ tag,
    (⟨key,tag⟩ : Sigma fun _ => KernelPoolTag)∈(rows.foldl mergeRow ∅).entries := by
  have hkeys : ∀ use∈ofKey PoolUse.key key (rows.flatMap usesOf), use.key=key := by
    intro use huse
    simpa [ofKey] using (List.mem_filter.mp huse).2
  obtain ⟨hnil,_⟩ | ⟨tag,htag,_⟩ := absorbAll_summary hkeys
  · rw [ofKey_uses] at hnil
    exact absurd (List.map_eq_nil_iff.mp hnil) h
  · exact ⟨tag,by rw [foldl_mergeRow,mem_entries_mergeAll,htag]⟩

/-- The tags before the cut are those that stand for the rows of their keys. -/
theorem mem_aggregated {tag : KernelPoolTag} :
    tag∈intoValues (rows.foldl mergeRow ∅) ↔ Aggregates rows tag := by
  rw [mem_intoValues]
  constructor
  · intro ⟨key,hentry⟩
    exact (summary_of_entry hentry).aggregates
  · intro h
    obtain ⟨row,hrow,_⟩ := h.display
    obtain ⟨tag',hentry⟩ := entry_of_rows (List.ne_nil_of_mem hrow)
    have hsummary := summary_of_entry hentry
    rw [h.unique hsummary.aggregates hsummary.key.symm]
    exact ⟨_,hentry⟩

theorem nodup_aggregated (rows : List SystemPoolTagRaw) :
    ((intoValues (rows.foldl mergeRow ∅)).map poolKey).Nodup := by
  have hperm : ((intoValues (rows.foldl mergeRow ∅)).map poolKey).Perm
      ((rows.foldl mergeRow ∅).entries.map Sigma.fst) := by
    rw [intoValues,List.map_map]
    refine ((List.mergeSort_perm _ _).map _).trans (List.Perm.of_eq (List.map_congr_left ?_))
    intro ⟨key,tag⟩ hentry
    exact (summary_of_entry hentry).key
  exact hperm.nodup_iff.mpr (rows.foldl mergeRow ∅).nodupKeys

theorem rowsOf_perm {rows' : List SystemPoolTagRaw} (h : rows.Perm rows') :
    (rowsOf rows key).Perm (rowsOf rows' key) := h.filter _

theorem Aggregates.perm {rows' : List SystemPoolTagRaw} {tag : KernelPoolTag}
    (h : rows.Perm rows') (htag : Aggregates rows tag) : Aggregates rows' tag := by
  have hsum : ∀ measure, satSum measure (rowsOf rows (poolKey tag))=
      satSum measure (rowsOf rows' (poolKey tag)) := by
    intro measure
    rw [satSum,((rowsOf_perm h).map measure).sum_eq,satSum]
  have hmem : ∀ row, row∈rowsOf rows (poolKey tag) ↔ row∈rowsOf rows' (poolKey tag) :=
    fun row => (rowsOf_perm h).mem_iff
  constructor
  · exact htag.bytes.trans (hsum _)
  · exact htag.allocations.trans (hsum _)
  · exact htag.frees.trans (hsum _)
  · simpa only [hmem] using htag.display
  · simpa only [hmem] using htag.least
  · exact htag.candidates
  · exact htag.settled

end Uses

section Order
variable {rows rows' : List SystemPoolTagRaw}

instance : Std.TransCmp comparePoolTags := by
  have hbytes : Std.TransCmp (fun left right : KernelPoolTag => compare right.bytes left.bytes) :=
    @Std.TransCmp.opposite _ (compareOn KernelPoolTag.bytes) _
  unfold comparePoolTags
  infer_instance

theorem kindPlace_injective : Function.Injective kindPlace := by
  intro a b h
  cases a <;> cases b <;> first | rfl | cases h

theorem comparePoolTags_eq {a b : KernelPoolTag} (h : comparePoolTags a b=.eq) :
    poolKey a=poolKey b := by
  rw [comparePoolTags,compareLex_eq_eq,compareLex_eq_eq] at h
  obtain ⟨_,htag,hkind⟩ := h
  have ht : a.tag=b.tag := Std.LawfulEqCmp.eq_of_compare htag
  have hk : a.kind=b.kind := kindPlace_injective (Std.LawfulEqCmp.eq_of_compare hkind)
  rw [poolKey,poolKey,ht,hk]

theorem bytes_le_of_compare {a b : KernelPoolTag} (h : comparePoolTags a b≠.gt) :
    b.bytes ≤ a.bytes := by
  refine Nat.compare_ne_gt.mp ?_
  intro hgt
  have hfirst : comparePoolTags a b=.gt := by
    rw [comparePoolTags,compareLex,hgt]
    rfl
  exact h hfirst

/-- All the tags, before the cut. -/
def rankedTags (rows : List SystemPoolTagRaw) : List KernelPoolTag :=
  sortBy comparePoolTags (intoValues (rows.foldl mergeRow ∅))

theorem mem_rankedTags {tag : KernelPoolTag} : tag∈rankedTags rows ↔ Aggregates rows tag :=
  mem_sortBy.trans mem_aggregated

theorem nodup_rankedTags (rows : List SystemPoolTagRaw) : ((rankedTags rows).map poolKey).Nodup :=
  ((List.mergeSort_perm _ _).map poolKey).nodup_iff.mpr (nodup_aggregated rows)

theorem ranked_pairwise (rows : List SystemPoolTagRaw) :
    (rankedTags rows).Pairwise (fun a b => comparePoolTags a b≠.gt) := sortBy_pairwise _

/-- Two tags that are in no order are one. -/
theorem rankedTags_perm (h : rows.Perm rows') : rankedTags rows=rankedTags rows' := by
  have hmem : ∀ tag, tag∈rankedTags rows ↔ tag∈rankedTags rows' := by
    intro tag
    rw [mem_rankedTags,mem_rankedTags]
    exact ⟨fun htag => htag.perm h,fun htag => htag.perm h.symm⟩
  have hperm : (rankedTags rows).Perm (rankedTags rows') :=
    (List.perm_ext_iff_of_nodup (List.Nodup.of_map _ (nodup_rankedTags rows))
      (List.Nodup.of_map _ (nodup_rankedTags rows'))).mpr hmem
  refine List.Perm.eq_of_pairwise ?_ (ranked_pairwise rows) (ranked_pairwise rows') hperm
  intro a b ha hb hab hba
  rw [@Std.OrientedCmp.eq_swap _ comparePoolTags _ b a] at hba
  have heq : comparePoolTags a b=.eq := by
    cases hcompare : comparePoolTags a b with
    | eq => rfl
    | lt => simp [hcompare] at hba
    | gt => exact absurd hcompare hab
  exact (mem_rankedTags.mp ha).unique (mem_rankedTags.mp ((hmem b).mpr hb)) (comparePoolTags_eq heq)

/-- A tag behind the cut has no more bytes than one before it. -/
theorem omitted_le {limit : Nat} {omitted : KernelPoolTag} (h : omitted∈rankedTags rows)
    (hout : omitted∉(rankedTags rows).take limit) :
    ((rankedTags rows).take limit).length=limit ∧
      ∀ kept∈(rankedTags rows).take limit, omitted.bytes ≤ kept.bytes := by
  have hsplit := List.take_append_drop limit (rankedTags rows)
  have hdrop : omitted∈(rankedTags rows).drop limit := by
    rw [← hsplit,List.mem_append] at h
    exact h.resolve_left hout
  constructor
  · have hlength := List.length_pos_of_mem hdrop
    rw [List.length_drop] at hlength
    rw [List.length_take]
    omega
  · intro kept hkept
    have hpairs := ranked_pairwise rows
    rw [← hsplit,List.pairwise_append] at hpairs
    exact bytes_le_of_compare (hpairs.2.2 kept hkept omitted hdrop)

end Order
end BatCave.WindowsSystem
