import BatCave.Protocol.Readable
import BatCave.WindowsSystem.PoolTags

/-! Kernel pool tags on their way out: the section of the machine that holds them is encoded,
and the check of sections accepts it. NOT a statement about the names of drivers, which the
collector leaves empty. -/
namespace BatCave.WindowsSystem
open BatCave.Contracts BatCave.Protocol BatCave.Lib.Interner BatCave.Lib.Text

section Texts
variable {rows : List SystemPoolTagRaw} {tag : KernelPoolTag}

set_option maxRecDepth 1000 in
theorem displayByte_visible (byte : UInt8) : isWhitespace (displayByte byte)=false := by
  have hall : ∀ n : Fin 256, isWhitespace (displayByte (UInt8.ofNat n))=false := by
    decide
  have hbyte := hall ⟨byte.toNat,byte.toNat_lt⟩
  rwa [UInt8.ofNat_toNat] at hbyte

example : poolTagDisplay #v[0x41,0x20,0x00,0x7A]="A_.z" := by decide

theorem toList_poolTagDisplay (bytes : Vector UInt8 4) :
    (poolTagDisplay bytes).toList=bytes.toList.map displayByte := by
  rw [poolTagDisplay,String.toList_ofList]

theorem poolTagDisplay_visible (bytes : Vector UInt8 4) : blank (poolTagDisplay bytes)=false := by
  have hlength : bytes.toList.length=4 := bytes.length_toList
  have hne : bytes.toList≠[] := by
    intro hnil
    rw [hnil] at hlength
    cases hlength
  have hchar : displayByte (bytes.toList.head hne)∈(poolTagDisplay bytes).toList := by
    rw [toList_poolTagDisplay]
    exact List.mem_map_of_mem (List.head_mem hne)
  have htrim := trim_ne_empty hchar (displayByte_visible _)
  simpa [blank] using htrim

theorem toList_toLower (s : String) : s.toLower.toList=s.toList.map Char.toLower := by
  change (String.map Char.toLower s).toList=_
  exact String.toList_map

theorem Aggregates.length (h : Aggregates rows tag) : tag.tag.toList.length=4 := by
  obtain ⟨row,_,htag⟩ := h.display
  rw [htag,toList_poolTagDisplay,List.length_map]
  exact row.tag.length_toList

theorem Aggregates.visible (h : Aggregates rows tag) : blank tag.tag=false := by
  obtain ⟨row,_,htag⟩ := h.display
  rw [htag]
  exact poolTagDisplay_visible row.tag

/-- Ids of tags of four characters tell their keys apart. -/
theorem poolTagId_inj {a b : KernelPoolTag} (ha : a.tag.toList.length=4)
    (hb : b.tag.toList.length=4)
    (h : poolTagId a.tag (kernelPoolKind a.kind)=poolTagId b.tag (kernelPoolKind b.kind)) :
    poolKey a=poolKey b := by
  have hl := congrArg String.toList h
  simp only [poolTagId,toList_toLower,String.toList_append,List.map_append,List.append_assoc,
    List.append_cancel_left_eq] at hl
  obtain ⟨htag,hrest⟩ := List.append_inj hl (by simp [ha,hb])
  have hlower : a.tag.toLower=b.tag.toLower := by
    rw [← String.toList_inj,toList_toLower,toList_toLower,htag]
  have hkind : a.kind=b.kind := by
    cases hka : a.kind <;> cases hkb : b.kind
    case paged.paged => rfl
    case nonpaged.nonpaged => rfl
    all_goals simp [hka,hkb,kernelPoolKind,KernelPoolKindV4.debug] at hrest
  rw [poolKey,poolKey,hlower,hkind]

end Texts

section Encoding
variable {rows : List SystemPoolTagRaw} {limit interval : Nat} {system : SystemMetricsSnapshot}
  {sampledAtMs : Option Nat}

theorem logicalCpuId_injective : Function.Injective logicalCpuId := by
  intro i j h
  have hl := congrArg String.toList h
  simp only [logicalCpuId,String.toList_append,List.append_cancel_left_eq,Nat.toString_eq_repr,
    Nat.toList_repr] at hl
  have hdigits := congrArg (fun digits => Nat.ofDigitChars 10 digits 0) hl
  simpa only [Nat.ofDigitChars_toDigits (by decide : 1 < 10) (by decide)] using hdigits

/-- Processors that are numbered in order are told apart by their ids. -/
theorem logicalCpus_valid {k : Catalogs} {details : List LogicalCpuDetailV4}
    (h : List.Forall₂ (LogicalCpuRecorded system interval sampledAtMs k)
      system.logicalCpuPercent.zipIdx details) :
    ∃ seen, details.foldlM validateLogicalCpu ([],[])=.ok seen := by
  have hindexes : details.map LogicalCpuDetailV4.index=
      system.logicalCpuPercent.zipIdx.map Prod.snd := by
    generalize system.logicalCpuPercent.zipIdx=cpus at h
    induction h with
    | nil => rfl
    | cons hcpu _ ih => rw [List.map_cons,List.map_cons,ih,hcpu.index]
  have hids : ∀ detail∈details, detail.stableId=logicalCpuId detail.index := by
    intro detail hdetail
    obtain ⟨cpu,_,hcpu⟩ := exists_of_mem_right h hdetail
    rw [hcpu.stableId,hcpu.index]
  have hnodup : (details.map LogicalCpuDetailV4.index).Nodup := by
    rw [hindexes,List.zipIdx_map_snd]
    exact List.nodup_range'
  have hidsNodup : (details.map LogicalCpuDetailV4.stableId).Nodup := by
    have hmap : details.map LogicalCpuDetailV4.stableId=
        (details.map LogicalCpuDetailV4.index).map logicalCpuId := by
      rw [List.map_map]
      exact List.map_congr_left hids
    rw [hmap]
    exact hnodup.map logicalCpuId_injective
  exact ⟨_,validateLogicalCpus_ok.mpr ⟨hids,hidsNodup,hnodup,rfl⟩⟩

theorem mem_kernelPoolTags {tag : KernelPoolTag} (h : tag∈kernelPoolTagsFromRows rows limit) :
    Aggregates rows tag := mem_rankedTags.mp (List.mem_of_mem_take h)

theorem poolTags_valid {k : Catalogs} {memory : Option MetricQualityInfo}
    {details : List KernelPoolTagDetailV4}
    (h : List.Forall₂ (PoolTagRecorded memory interval sampledAtMs k)
      (kernelPoolTagsFromRows rows limit) details) :
    ∃ seen, details.foldlM validatePoolTag []=.ok seen := by
  have hnodup : ((kernelPoolTagsFromRows rows limit).map poolKey).Nodup :=
    (nodup_rankedTags rows).sublist ((List.take_sublist _ _).map _)
  have hids : details.map KernelPoolTagDetailV4.stableId=
      (kernelPoolTagsFromRows rows limit).map
        (fun tag => poolTagId tag.tag (kernelPoolKind tag.kind)) := by
    generalize kernelPoolTagsFromRows rows limit=tags at h
    induction h with
    | nil => rfl
    | cons htag _ ih => rw [List.map_cons,List.map_cons,ih,htag.stableId]
  refine ⟨_,validatePoolTags_ok.mpr ⟨?_,?_,rfl⟩⟩
  · intro detail hdetail
    obtain ⟨tag,htag,hrecorded⟩ := exists_of_mem_right h hdetail
    have haggregates := mem_kernelPoolTags htag
    refine ⟨by rw [hrecorded.stableId,hrecorded.name,hrecorded.kind],?_⟩
    rw [KernelPoolTagDetailV4.texts,hrecorded.name,hrecorded.driverCandidates,
      haggregates.candidates]
    simpa using haggregates.visible
  · rw [hids]
    refine List.pairwise_map.mpr ((List.pairwise_map.mp hnodup).imp_of_mem ?_)
    intro a b ha hb hne hid
    exact hne (poolTagId_inj (mem_kernelPoolTags ha).length (mem_kernelPoolTags hb).length hid)

/-- A section with the tags is accepted. -/
theorem encodeSystem_valid {c c' : CatalogBuilder} {detail : SystemDetailV4}
    (htags : poolTags system=kernelPoolTagsFromRows rows limit)
    (hnew : CatalogBuilder.new interval=.ok c)
    (h : encodeSystem system sampledAtMs c=.ok (detail,c')) : validateSystem detail=.ok () := by
  have hi : interval≠0 := by
    intro hzero
    rw [hzero] at hnew
    cases hnew
  have hinterval : c.sampleIntervalMs=interval := by
    rw [CatalogBuilder.new,if_neg hi] at hnew
    cases hnew
    rfl
  have hrecorded := ((encodeSystem_encodes sampledAtMs hi system).result c detail c'
    (CatalogBuilder.ok_new hnew) hinterval h).2 _ (Catalogs.Within.refl _)
  have hpools := hrecorded.kernelPoolTags
  rw [htags] at hpools
  obtain ⟨seenCpus,hcpus⟩ := logicalCpus_valid hrecorded.logicalCpus
  obtain ⟨seenTags,hseen⟩ := poolTags_valid hpools
  rw [validateSystem,hcpus,hseen,hrecorded.stableId]
  rfl

/-- What a reading was observed at is the time of its quality, or that of the sample. -/
theorem observed_at {unit : MetricUnit} {value : Option Float} {quality : Option MetricQualityInfo}
    {time : Nat} (h : (reading unit value quality sampledAtMs).observedAtMs=some time) :
    quality.bind MetricQualityInfo.updatedAtMs=some time ∨ sampledAtMs=some time := by
  unfold reading at h
  extract_lets read sourced ranged told awaited held last observed at h
  split at h
  · cases h
  · have hobserved : observed=some time := h
    unfold observed at hobserved
    split at hobserved
    · cases hobserved
    · split at hobserved
      · exact .inl hobserved
      · exact (Option.or_eq_some_iff.mp hobserved).imp id (fun hsampled => hsampled.2)

/-- The requests of the machine and of its processors: what is asked for without pool tags. -/
def ownRequests (system : SystemMetricsSnapshot) : List Request :=
  systemRequests system++system.logicalCpuPercent.map (logicalRequest system)

theorem quality_of_mem {r : Request} (hr : r∈allSystemRequests system) :
    ∃ own∈ownRequests system, own.quality=r.quality := by
  rw [allSystemRequests,← List.append_assoc,List.mem_append] at hr
  cases hr with
  | inl hown => exact ⟨r,hown,rfl⟩
  | inr hpool =>
    obtain ⟨tag,_,htag⟩ := List.mem_flatMap.mp hpool
    refine ⟨systemRequest .memoryUsed .bytes (asF64 system.memoryUsedBytes) (memoryQuality system),
      by simp [ownRequests,systemRequests,machineRequests,memoryQuality],?_⟩
    simp only [poolTagRequests,List.mem_cons,List.not_mem_nil,or_false] at htag
    obtain rfl | rfl | rfl := htag <;> rfl

/-- The section is encoded when its processors have numbers and its times are safe. -/
theorem encodeSystem_runs {c : CatalogBuilder} (hnew : CatalogBuilder.new interval=.ok c)
    (hcpus : system.logicalCpuPercent.length ≤ 2^16)
    (hsampled : ∀ time, sampledAtMs=some time → time ≤ jsMaxSafeInteger)
    (hupdated : ∀ r∈ownRequests system, ∀ time,
      r.quality.bind MetricQualityInfo.updatedAtMs=some time → time ≤ jsMaxSafeInteger) :
    ∃ result, encodeSystem system sampledAtMs c=.ok result := by
  have hi : interval≠0 := by
    intro hzero
    rw [hzero] at hnew
    cases hnew
  have hok := CatalogBuilder.ok_new hnew
  rw [CatalogBuilder.new,if_neg hi] at hnew
  cases hnew
  obtain ⟨hdescriptors,hlimitations⟩ := systemRequests_room system interval sampledAtMs
  refine ((encodeSystem_encodes sampledAtMs hi system).runs _ hok rfl).mpr ⟨⟨hcpus,?_⟩,?_⟩
  rotate_left
  · exact ⟨by simpa only [keys,List.map_nil,List.toFinset_nil,Finset.empty_union]
        using hdescriptors,
      by simpa only [keys,List.map_nil,List.toFinset_nil,Finset.empty_union] using hlimitations⟩
  intro r hr
  rw [Reading.observedTooLate]
  cases htime : (r.reading sampledAtMs).observedAtMs with
  | none => rfl
  | some time =>
    have hle : time ≤ jsMaxSafeInteger := by
      cases observed_at htime with
      | inl hquality =>
        obtain ⟨own,hown,heq⟩ := quality_of_mem hr
        exact hupdated own hown time (heq ▸ hquality)
      | inr hsample => exact hsampled time hsample
    rw [Option.any_some,decide_eq_false_iff_not]
    omega

end Encoding

/-- The tags of any rows are merged by key, summed over their rows, ranked and cut, whatever the
order of the rows, and the section that holds them is encoded and accepted. -/
theorem pool_tags_faithful (rows : List SystemPoolTagRaw) (limit : Nat) :
    let tags := kernelPoolTagsFromRows rows limit
    tags.length ≤ limit ∧ (tags.map poolKey).Nodup ∧ (∀ tag∈tags, Aggregates rows tag) ∧
    tags.Pairwise (fun a b => b.bytes ≤ a.bytes) ∧
    (∀ key, rowsOf rows key≠[] → ∃ tag, poolKey tag=key ∧ Aggregates rows tag ∧
      (tag∈tags ∨ (tags.length=limit ∧ ∀ kept∈tags, tag.bytes ≤ kept.bytes))) ∧
    (∀ rows', rows.Perm rows' → kernelPoolTagsFromRows rows' limit=tags) ∧
    ∀ (system : SystemMetricsSnapshot) (sampledAtMs : Option Nat) (interval : Nat)
      (c : CatalogBuilder), poolTags system=tags → CatalogBuilder.new interval=.ok c →
      (∀ detail c', encodeSystem system sampledAtMs c=.ok (detail,c') →
        validateSystem detail=.ok ()) ∧
      (system.logicalCpuPercent.length ≤ 2^16 →
        (∀ time, sampledAtMs=some time → time ≤ jsMaxSafeInteger) →
        (∀ r∈ownRequests system, ∀ time,
          r.quality.bind MetricQualityInfo.updatedAtMs=some time → time ≤ jsMaxSafeInteger) →
        ∃ result, encodeSystem system sampledAtMs c=.ok result) := by
  intro tags
  have hranked : tags=(rankedTags rows).take limit := rfl
  refine ⟨?_,?_,fun tag htag => mem_kernelPoolTags htag,?_,?_,?_,?_⟩
  · exact List.length_take_le _ _
  · exact (nodup_rankedTags rows).sublist ((List.take_sublist _ _).map _)
  · exact ((ranked_pairwise rows).sublist (List.take_sublist _ _)).imp bytes_le_of_compare
  · intro key hkey
    obtain ⟨tag,hentry⟩ := entry_of_rows hkey
    have hsummary := summary_of_entry hentry
    refine ⟨tag,hsummary.key,hsummary.aggregates,?_⟩
    by_cases hmem : tag∈tags
    · exact .inl hmem
    · exact .inr (omitted_le (mem_rankedTags.mpr hsummary.aggregates) hmem)
  · intro rows' hperm
    rw [hranked,rankedTags_perm hperm]
    rfl
  · intro system sampledAtMs interval c htags hnew
    exact ⟨fun detail c' h => encodeSystem_valid htags hnew h,encodeSystem_runs hnew⟩

end BatCave.WindowsSystem
