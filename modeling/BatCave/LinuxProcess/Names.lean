import BatCave.LinuxProcess.Collector
import BatCave.Protocol.ViewReadable

/-! What a process can do to a snapshot through its own name: the text that names it is read back
as it was meant, and a snapshot with its row is refused exactly when the name is blank.
NOT a statement about the rows of other platforms. -/
namespace BatCave.LinuxProcess
open BatCave.Contracts BatCave.Lib BatCave.Lib.Binary64 BatCave.Lib.Interner BatCave.Lib.Result
open BatCave.Lib.Text BatCave.ProcessView BatCave.Protocol CatalogBuilder
open BatCave.WorkloadIdentity (BatCaveWorkloadContext)
open BatCave.WorkloadHistory (RuntimePlatform)

section Quality
variable {sampledAtMs : Option Nat} {publishedAtMs : Nat}

theorem procfs_sound : QualitySound sampledAtMs publishedAtMs (procfs .native) :=
  ⟨rfl,nofun,nofun,fun _ => rfl,nofun⟩

theorem limited_sound {quality : MetricQuality} {code : MetricLimitationCode} {message : String}
    (hallowed : (qualityLimitationPolicy (qualityV4 quality)).allows
      (some (metricLimitationCode code))=true) (hnative : quality≠.native)
    (hmessage : trim message≠"") :
    QualitySound sampledAtMs publishedAtMs ((procfs quality).withLimitation code message) := by
  refine ⟨hallowed,fun _ => rfl,?_,fun h => absurd h hnative,nofun⟩
  intro told htold
  rw [← Option.some.inj htold]
  exact hmessage

theorem direct_sound (accessState : AccessState) :
    QualitySound sampledAtMs publishedAtMs (directQuality accessState) := by
  cases accessState with
  | full => exact procfs_sound
  | partialAccess => exact limited_sound (by decide) (by decide) (by decide)
  | denied => exact limited_sound (by decide) (by decide) (by decide)

/-- Whatever the collector says of its own measurements is accepted. -/
theorem linuxProcessQuality_sound {accessState : AccessState} {hasIo hasPrivateMemory : Bool}
    {cpu : Option MetricQualityInfo} (hcpu : ∀ q∈cpu, QualitySound sampledAtMs publishedAtMs q)
    {process : ProcessSample} (hquality : process.quality=
      some { linuxProcessQuality accessState hasIo hasPrivateMemory with cpu := cpu }) :
    ∀ q∈processQualities process, QualitySound sampledAtMs publishedAtMs q := by
  have hmissing : ∀ code message, code=.accessDenied ∨ code=.unsupportedMetric →
      trim message≠"" → QualitySound sampledAtMs publishedAtMs
        ((procfs .unavailable).withLimitation code message) := by
    intro code message hcode hmessage
    obtain rfl | rfl := hcode <;> exact limited_sound (by decide) (by decide) hmessage
  intro q hq
  obtain ⟨own,hown,rfl⟩ := List.mem_filterMap.mp hq
  rw [hquality] at hown
  simp only [linuxProcessQuality,Option.elim_some,List.mem_cons,List.not_mem_nil,or_false] at hown
  obtain h | h | h | h | h | h | h := hown
  · exact hcpu q h.symm
  · rw [Option.some.inj h]
    split
    · exact direct_sound accessState
    · exact limited_sound (by decide) (by decide) (by decide)
  · rw [Option.some.inj h]
    split
    · exact direct_sound accessState
    · refine hmissing _ _ ?_ (by decide)
      split
      · exact .inl rfl
      · exact .inr rfl
  · rw [Option.some.inj h]
    exact hmissing _ _ (.inr rfl) (by decide)
  · rw [Option.some.inj h]
    exact hmissing _ _ (.inr rfl) (by decide)
  · rw [Option.some.inj h]
    exact direct_sound accessState
  · rw [Option.some.inj h]
    exact direct_sound accessState

end Quality

section Row
variable {stat : ProcessStat} {row : ProcessSample}

theorem Collected.texts (h : Collected stat row) : row.name=stat.name ∧ row.status=stat.status := by
  obtain ⟨m,pid,files,second,raw,previous,cpu,hread,rfl⟩ := h
  obtain ⟨own,_,hown,_,_,_,_,_,rfl⟩ := readProcessWithStatReader_ok.mp hread
  obtain ⟨hname,hstatus,_⟩ := measured_identity previous cpu
  rw [hname,hstatus,Except.ok.inj hown]
  exact ⟨rfl,rfl⟩

/-- Whatever was measured of a process, its metrics are accepted. -/
theorem Collected.metrics (h : Collected stat row) (sampledAtMs : Option Nat)
    (publishedAtMs : Nat) : MetricsSound sampledAtMs publishedAtMs row := by
  obtain ⟨m,pid,files,second,raw,previous,cpu,hread,rfl⟩ := h
  obtain ⟨own,_,_,_,_,_,_,_,rfl⟩ := readProcessWithStatReader_ok.mp hread
  have hheld : ∀ q∈(linuxProcessQuality .full true true).cpu,
      QualitySound sampledAtMs publishedAtMs q := by
    intro q hq
    rw [← Option.some.inj hq]
    exact limited_sound (by decide) (by decide) (by decide)
  have hunmeasured : MetricsSound sampledAtMs publishedAtMs (rawProcess m files own).sample :=
    ⟨linuxProcessQuality_sound hheld rfl,.inl nonNeg_zero,nofun⟩
  unfold measured
  split
  · exact hunmeasured
  · dsimp only
    split
    · have hshare : ∀ delta total factor : Nat, NotBelow (round1 (ofUnsigned delta/ofUnsigned total*
          ofUnsigned factor*100.0)) := by
        intro delta total factor
        have hhundred : (100.0 : Float)=ofUnsigned 100 := by decide
        rw [hhundred]
        exact notBelow_round1 (.inl ((((nonNeg_ofUnsigned delta).div (nonNeg_ofUnsigned total)).mul
          (nonNeg_ofUnsigned factor)).mul (nonNeg_ofUnsigned 100)))
      refine ⟨linuxProcessQuality_sound ?_ rfl,hshare _ _ _,?_⟩
      · intro q hq
        rw [← Option.some.inj hq]
        exact procfs_sound
      · intro kernel hkernel
        rw [← Option.some.inj hkernel]
        exact hshare _ _ _
    · exact hunmeasured

end Row

/-- The name of a process, which ends at the last closing bracket of the text, has a character
that is not white space. -/
def NameSpeaks (content : String) : Prop := ∃ front c back, content.toList=front++c::back ∧
  '('∈front ∧ ')'∈back ∧ isWhitespace c=false

section Name
variable {content : String} {stat : ProcessStat}

/-- What stands behind an opening and before a closing bracket is part of the name. -/
theorem mem_name {before name after front back : List Char} {c : Char} (hbefore : '(' ∉ before)
    (hafter : ')' ∉ after) (hfront : '('∈front) (hback : ')'∈back)
    (h : front++c::back=before++ '('::(name++ ')'::after)) : c∈name := by
  obtain ⟨rest,hrest,_⟩ | ⟨rest,hrest,hbehind⟩ := List.append_eq_append_iff.mp h
  · rw [hrest] at hbefore
    exact absurd (List.mem_append_left _ hfront) hbefore
  · cases rest with
    | nil =>
      rw [hrest,List.append_nil] at hfront
      exact absurd hfront hbefore
    | cons bracket rest =>
      rw [List.cons_append,List.cons.injEq] at hbehind
      obtain ⟨more,_,hmore⟩ | ⟨more,hmore,hlast⟩ := List.append_eq_append_iff.mp hbehind.2
      · cases more with
        | nil => exact absurd ((List.cons.inj hmore).2 ▸ hback) hafter
        | cons d more =>
          rw [(List.cons.inj hmore).2] at hafter
          exact absurd (List.mem_append_right _ (List.mem_cons_of_mem _ hback)) hafter
      · cases more with
        | nil => exact absurd ((List.cons.inj hlast).2 ▸ hback) hafter
        | cons d more =>
          rw [hmore,(List.cons.inj hlast).1]
          exact List.mem_append_right _ List.mem_cons_self

theorem nameSpeaks_iff (h : parseProcessStat content=.ok stat) :
    NameSpeaks content ↔ trim stat.name≠"" := by
  obtain ⟨before,name,after,hcontent,hbefore,hafter,hread⟩ := parseProcessStat_ok h
  rw [(readStat_renders hread (by simpa using hafter)).1,trim_ne_empty_iff,String.toList_ofList]
  constructor
  · intro ⟨front,c,back,hsplit,hfront,hback,hvisible⟩
    exact ⟨c,mem_name hbefore hafter hfront hback (hsplit ▸ hcontent),hvisible⟩
  · intro ⟨c,hc,hvisible⟩
    obtain ⟨front,back,rfl⟩ := List.append_of_mem hc
    refine ⟨before++ '('::front,c,back++ ')'::after,?_,by simp,by simp,hvisible⟩
    rw [hcontent]
    simp

end Name

/-- What the text of a process is read as, it is written as too. -/
def RoundTrips (content : String) (stat : ProcessStat) : Prop :=
  parseProcessStat (renderStat stat (statFields content))=.ok stat

/-- What a snapshot is encoded from. -/
structure Snapshot where
  lower : Lowercase
  sha256 : List UInt8 → List UInt8
  query : RuntimeQuery
  history : RankingHistory
  processes : List ProcessSample
  context : Option BatCaveWorkloadContext
  attention : Finset Generation
  ranking : ValuesByWorkload
  platform : RuntimePlatform
  catalogs : CatalogBuilder
  payload : RuntimeSnapshotPayloadV4

namespace Snapshot
variable (s : Snapshot)

abbrev groups : List ProcessAppGroup :=
  buildProcessGroupsWithContext s.lower s.sha256 s.processes s.history s.context

abbrev view : List ProcessViewRow := emitProcessView s.lower s.groups s.query s.attention

/-- Nothing but what this row is called can be wrong with the snapshot. -/
structure SoundBut (row : ProcessSample) : Prop where
  identified : Identified s.processes
  named : ∀ process∈s.processes, process≠row → trim process.name≠"" ∧ trim process.status≠""
  metrics : ∀ process∈s.processes, process≠row →
    MetricsSound s.payload.sampledAtMs s.payload.publishedAtMs process
  history : HistorySound s.history
  catalogs : s.catalogs.Ok
  interval : s.catalogs.sampleIntervalMs≠0
  time : ∀ sampled, s.payload.sampledAtMs=some sampled → sampled ≤ s.payload.publishedAtMs
  safe : s.payload.publishedAtMs ≤ jsMaxSafeInteger
  codes : s.payload.qualityCodes=qualityCodes
  total : s.processes.length ≤ s.payload.totalProcessCount
  fits : s.payload.totalProcessCount < 2^32

/-- The view and its overview are encoded if the catalogs have room, and the checks of a set of
workloads refuse neither for its workloads. -/
def Encodes : Prop := ∀ rows∈[s.view,shapeOverviewRows s.view s.ranking],
  let shownRows := applyDisplayValues rows (displayByWorkload s.groups)
  let encoded := encodeWorkloads shownRows s.payload.sampleSeq s.payload.sampledAtMs s.platform
    s.catalogs
  ((∃ written, encoded=.ok written) ↔ s.catalogs.Room
    ((rowsRequests s.platform shownRows).map (fun r => r.descriptor s.catalogs.sampleIntervalMs))
    (limitationsOf s.payload.sampledAtMs (rowsRequests s.platform shownRows))) ∧
  ∀ ws c', encoded=.ok (ws,c') → c'.Within s.payload.toCatalogs →
    (validateWorkloadSet ws (processDetails ws).length s.payload=.ok () ↔
      validateSystemObservations s.payload.toPublicationFacts s.payload.system=.ok ())

end Snapshot

/-- No snapshot with a row of this process is refused for what the row is called. -/
def StillEncodes (stat : ProcessStat) : Prop := ∀ row, Collected stat row →
  ∀ s : Snapshot, row∈s.processes → s.SoundBut row → s.Encodes

section Encodes
variable {content : String} {stat : ProcessStat}

theorem stillEncodes_of_named (hname : trim stat.name≠"") (hstatus : trim stat.status≠"") :
    StillEncodes stat := by
  intro row hrow s hmem hbut
  obtain ⟨hown,hshown⟩ := hrow.texts
  have hsample : SampleSound s.processes s.history s.payload.sampledAtMs
      s.payload.publishedAtMs := by
    refine ⟨hbut.identified,?_,?_,?_,hbut.history⟩
    · intro process hprocess
      by_cases hsame : process=row
      · rw [hsame,hown]
        exact hname
      · exact (hbut.named process hprocess hsame).1
    · intro process hprocess
      by_cases hsame : process=row
      · rw [hsame,hshown]
        exact hstatus
      · exact (hbut.named process hprocess hsame).2
    · intro process hprocess
      by_cases hsame : process=row
      · rw [hsame]
        exact hrow.metrics _ _
      · exact hbut.metrics process hprocess hsame
  exact encoded_views_pass s.lower s.query s.sha256 s.history s.processes s.context s.attention
    s.ranking s.platform hbut.catalogs hbut.interval hsample hbut.time hbut.safe hbut.codes
    hbut.total hbut.fits

theorem room_of_few {ds : List MeasurementDescriptor} {ls : List LimitationEntry} (interval : Nat)
    (hds : ds.length ≤ catalogSize) (hls : ls.length ≤ catalogSize) :
    Room ⟨⟨[],[]⟩,interval⟩ ds ls := by
  have hkeys : ∀ {α κ : Type} [DecidableEq κ] (key : α → κ), keys key []=∅ := fun _ => rfl
  refine ⟨?_,?_⟩
  · rw [hkeys,Finset.empty_union]
    exact (List.toFinset_card_le ds).trans hds
  · rw [hkeys,Finset.empty_union]
    exact (List.toFinset_card_le ls).trans hls

theorem length_limitationsOf (sampledAtMs : Option Nat) (requests : List Request) :
    (limitationsOf sampledAtMs requests).length ≤ requests.length := by
  induction requests with
  | nil => exact Nat.le_refl 0
  | cons r requests ih =>
    rw [limitationsOf] at ih ⊢
    rw [List.flatMap_cons,List.length_append,List.length_cons]
    have hone : (r.reading sampledAtMs).limitation.toList.length ≤ 1 := by
      cases (r.reading sampledAtMs).limitation <;> simp
    omega

/-- The row of a process of which only the `stat` can be read. -/
def bareRow (stat : ProcessStat) : ProcessSample :=
  (rawProcess {} ⟨.error "",none,none,none⟩ stat).sample

theorem collected_bareRow (stat : ProcessStat) : Collected stat (bareRow stat) :=
  ⟨{},stat.pid,_,.ok stat,_,none,⟨0,0⟩,
    readProcessWithStatReader_ok.mpr ⟨stat,stat,rfl,rfl,rfl,rfl,rfl,rfl,rfl⟩,rfl⟩

/-- A snapshot of nothing but this process. -/
def bareSnapshot (stat : ProcessStat) (catalogs : Catalogs) : Snapshot where
  lower := .ascii
  sha256 := Crew.digest
  query := {}
  history := ∅
  processes := [bareRow stat]
  context := none
  attention := ∅
  ranking := ∅
  platform := .linux
  catalogs := ⟨⟨[],[]⟩,1000⟩
  payload := Crew.payload catalogs

theorem soundBut_bareSnapshot {words : List String} (h : Renders stat words) (catalogs : Catalogs) :
    (bareSnapshot stat catalogs).SoundBut (bareRow stat) := by
  have hpid : stat.pid ≤ jsMaxSafeInteger := by
    have hlt := h.pid
    have hsafe : 2^32 ≤ jsMaxSafeInteger := by decide
    omega
  obtain ⟨n,_,_,hparent⟩ := h.parent
  refine { identified := ⟨?_,?_,List.nodup_singleton _,?_⟩
           named := ?_
           metrics := ?_
           history := ?_
           catalogs := @ok_new _ 1000 rfl
           interval := (by decide : 1000≠0)
           time := ?_
           safe := (by decide : 10000 ≤ jsMaxSafeInteger)
           codes := rfl
           total := (by decide : 1 ≤ 3)
           fits := (by decide : 3 < 2^32) }
  · exact List.forall_mem_singleton.mpr ⟨stat.pid,hpid,rfl⟩
  · refine List.forall_mem_singleton.mpr (fun pid hown => ?_)
    have hown' : stat.parentPid=some pid := hown
    rw [hparent] at hown'
    split at hown'
    · exact ⟨n,(Option.some.inj hown').symm⟩
    · cases hown'
  · exact List.forall_mem_singleton.mpr (Nat.zero_le _)
  · exact List.forall_mem_singleton.mpr (fun hother => absurd rfl hother)
  · exact List.forall_mem_singleton.mpr (fun hother => absurd rfl hother)
  · intro key ring hring
    cases hring
  · intro sampled hsampled
    cases hsampled
    exact Nat.le_refl _

/-- A snapshot of nothing but a process without a name is encoded and refused. -/
theorem blank_breaks {words : List String} (h : Renders stat words) (hblank : trim stat.name="") :
    ¬StillEncodes stat := by
  intro hall
  obtain ⟨group,hrows⟩ := Crew.rows_lone (bareRow stat) ∅
  have hencodes := fun catalogs => hall _ (collected_bareRow stat) (bareSnapshot stat catalogs)
    List.mem_cons_self (soundBut_bareSnapshot h catalogs) _ List.mem_cons_self
  have hrequests : (rowsRequests .linux (Crew.rows ([bareRow stat],∅))).length=15 := by
    rw [hrows,rowsRequests,List.flatMap_singleton,
      rowRequests_process .linux (rowProcess_shown .ascii _ group (bareRow stat))]
    rfl
  have hroom : Room ⟨⟨[],[]⟩,1000⟩
      ((rowsRequests .linux (Crew.rows ([bareRow stat],∅))).map (fun r => r.descriptor 1000))
      (limitationsOf (some 10000) (rowsRequests .linux (Crew.rows ([bareRow stat],∅)))) := by
    have hlimitations := length_limitationsOf (some 10000)
      (rowsRequests .linux (Crew.rows ([bareRow stat],∅)))
    have hsize : 15 ≤ catalogSize := by decide
    refine room_of_few 1000 ?_ ?_
    · rw [List.length_map]
      omega
    · omega
  obtain ⟨⟨ws,c'⟩,hencoded⟩ := (hencodes ⟨[],[]⟩).1.mpr hroom
  have hvalid := ((hencodes c'.toCatalogs).2 ws c' hencoded (Catalogs.Within.refl _)).mpr rfl
  have hreadable := (validateWorkloadSet_ok.mp hvalid).1
  have hrecorded := ((encodeWorkloads_encodes (some 10000) (by decide : (1000 : Nat)≠0) _ 3
    .linux).result _ ws c' (@ok_new _ 1000 rfl) rfl hencoded).2 _ (Catalogs.Within.refl _)
  have hview : applyDisplayValues (bareSnapshot stat ⟨[],[]⟩).view
      (displayByWorkload (bareSnapshot stat ⟨[],[]⟩).groups)=Crew.rows ([bareRow stat],∅) := rfl
  rw [hview,hrows] at hrecorded
  obtain ⟨w,hw,hrow⟩ := forall₂_left hrecorded List.mem_cons_self
  have hhead := hrow.1
  rw [rowHead_process] at hhead
  cases w with
  | group detail => cases hhead
  | process detail =>
    have htexts := hreadable.texts detail (mem_processDetails.mpr hw)
    rw [texts_of_head (WorkloadHeadV4.process.inj hhead),List.any_cons,
      Bool.or_eq_false_iff] at htexts
    have hspoken : blank stat.name=false := htexts.1
    rw [blank,hblank] at hspoken
    cases hspoken

/-- Every text that is accepted is read as it was written, and its row leaves every snapshot
encodable, exactly if the process has a name that is not blank. -/
theorem unblanked_iff_named (h : parseProcessStat content=.ok stat) :
    (RoundTrips content stat ∧ StillEncodes stat) ↔ NameSpeaks content := by
  have hrenders := renders_of_accepted h
  rw [nameSpeaks_iff h]
  constructor
  · intro ⟨_,hencodes⟩ hblank
    exact blank_breaks hrenders hblank hencodes
  · intro hname
    exact ⟨parse_render hrenders,stillEncodes_of_named hname hrenders.status_visible⟩

end Encodes

/-- A process that calls itself this. -/
def calling (name : String) : ProcessStat where
  pid := 42
  name := name
  status := "sleeping"
  parentPid := some "1"
  userTicks := 100
  kernelTicks := 30
  threads := 8
  startTimeTicks := 12345
  virtualMemoryBytes := 4096
  rssPages := 3

def callingText (name : String) : String :=
  "42 ("++name++") S 1 2 3 4 5 6 7 8 9 10 100 30 14 15 16 17 8 19 12345 4096 3"

/-- A name of brackets, blanks and line ends does no harm. -/
theorem bracketed_process_shown :
    RoundTrips (callingText ") (\n") (calling ") (\n") ∧ StillEncodes (calling ") (\n") :=
  (unblanked_iff_named (by decide)).mpr
    ⟨"42 (".toList,')'," (\n) S 1 2 3 4 5 6 7 8 9 10 100 30 14 15 16 17 8 19 12345 4096 3".toList,
      by decide,by decide,by decide,by decide⟩

/-- A process without a name is read and encoded, and the whole snapshot is refused for it. -/
theorem unnamed_process_refused : parseProcessStat (callingText "")=.ok (calling "") ∧
    (∃ ws c', Crew.encoded ([bareRow (calling "")],∅)=.ok (ws,c') ∧
      validateWorkloadSet ws (processDetails ws).length (Crew.payload c'.toCatalogs)=
        .error "protocol_process_presentation_invalid") ∧
    ¬StillEncodes (calling "") := by
  have hparse : parseProcessStat (callingText "")=.ok (calling "") := by decide
  have horder : Crew.InOrder (Crew.groups ([bareRow (calling "")],∅)) := by decide +kernel
  have herror : (Crew.listed ([bareRow (calling "")],∅)).map (fun written =>
      validateWorkloadSet written.1 (processDetails written.1).length
        (Crew.payload written.2.toCatalogs))=
      .ok (.error "protocol_process_presentation_invalid") := by
    decide +kernel
  rw [← Crew.encoded_listed horder] at herror
  refine ⟨hparse,?_,blank_breaks (renders_of_accepted hparse) (by decide)⟩
  cases hencoded : Crew.encoded ([bareRow (calling "")],∅) with
  | error e =>
    rw [hencoded] at herror
    cases herror
  | ok written =>
    rw [hencoded] at herror
    exact ⟨written.1,written.2,rfl,Except.ok.inj herror⟩

end BatCave.LinuxProcess
