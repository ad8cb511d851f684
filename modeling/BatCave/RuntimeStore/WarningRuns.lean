import BatCave.RuntimeStore.WarningKeys

/-! From the construction of the store through every sequence of its operations: when the
published warnings are valid. -/
namespace BatCave.RuntimeStore.Warnings
open BatCave.Persistence BatCave.Lib.Text BatCave.Lib.Word BatCave.Protocol

section Validation

theorem validateWarnings_go_ok {payload : PublishedWarnings} (warnings : List RuntimeWarning)
    (keys : List String) : validateWarnings.go payload keys warnings=.ok () ↔
      (∀ warning∈warnings, warning.publicationSeq ≤ jsMaxSafeInteger ∧
        warning.occurredAtMs ≤ jsMaxSafeInteger ∧
        WarningOk payload.publicationSeq payload.publishedAtMs warning ∧ warning.key∉keys) ∧
      (warnings.map RuntimeWarning.key).Nodup := by
  induction warnings generalizing keys with
  | nil => simp [validateWarnings.go]
  | cons warning warnings ih =>
    simp only [validateWarnings.go,List.forall_mem_cons,List.map_cons,List.nodup_cons]
    split
    · next hbad =>
      refine ⟨by simp,fun h => ?_⟩
      obtain ⟨⟨⟨hs,ht,hok,hk⟩,_⟩,_⟩ := h
      have h₁ := hok.seq
      have h₂ := hok.time
      have h₃ := hok.key
      have h₄ := hok.category
      have h₅ := hok.message
      exfalso
      simp only [h₃,h₄,h₅,hk,or_false] at hbad
      omega
    · next hgood =>
      simp only [not_or] at hgood
      obtain ⟨hs,ht,hseq,htime,hkey,hcat,hmsg,hfresh⟩ := hgood
      have hok : WarningOk payload.publicationSeq payload.publishedAtMs warning :=
        ⟨by omega,by omega,hkey,hcat,hmsg⟩
      rw [ih]
      constructor
      · intro ⟨hrest,hnodup⟩
        refine ⟨⟨⟨by omega,by omega,hok,hfresh⟩,?_⟩,?_,hnodup⟩
        · intro w hw
          obtain ⟨a,b,c,d⟩ := hrest w hw
          exact ⟨a,b,c,fun hmem => d (List.mem_cons_of_mem _ hmem)⟩
        · intro hmem
          obtain ⟨w,hw,heq⟩ := List.mem_map.mp hmem
          exact (hrest w hw).2.2.2 (by rw [heq]; exact List.mem_cons_self)
      · intro ⟨⟨_,hrest⟩,hnot,hnodup⟩
        refine ⟨?_,hnodup⟩
        intro w hw
        obtain ⟨a,b,c,d⟩ := hrest w hw
        refine ⟨a,b,c,?_⟩
        intro hmem
        rw [List.mem_cons] at hmem
        cases hmem with
        | inl heq => exact hnot (List.mem_map.mpr ⟨w,hw,heq⟩)
        | inr hold => exact d hold

/-- There is one way to refuse them. -/
theorem validateWarnings_go_cases {payload : PublishedWarnings} (warnings : List RuntimeWarning)
    (keys : List String) : validateWarnings.go payload keys warnings=.ok () ∨
      validateWarnings.go payload keys warnings=.error "protocol_warning_invalid" := by
  induction warnings generalizing keys with
  | nil => exact .inl rfl
  | cons warning warnings ih =>
    rw [validateWarnings.go]
    split
    · exact .inr rfl
    · exact ih _

/-- The validator asks for what the claim names, and for distinct keys. -/
theorem validateWarnings_ok {payload : PublishedWarnings} :
    validateWarnings payload=.ok () ↔
      (∀ warning∈payload.warnings, warning.publicationSeq ≤ jsMaxSafeInteger ∧
        warning.occurredAtMs ≤ jsMaxSafeInteger ∧
        WarningOk payload.publicationSeq payload.publishedAtMs warning) ∧
      (payload.warnings.map RuntimeWarning.key).Nodup := by
  rw [validateWarnings,validateWarnings_go_ok]
  simp

end Validation

/-- A publication whose warnings are fit for it and for what the store publishes next. -/
structure PublishedOk (seq t : Nat) (payload : PublishedWarnings) : Prop where
  fit : ListOk payload.publicationSeq payload.publishedAtMs payload.warnings
  past : ListOk seq t payload.warnings
  seq : payload.publicationSeq ≤ u64Max

structure Inv (s : Store) : Prop where
  warnings : ListOk s.publicationSeq s.clock s.warnings
  snapshot : PublishedOk s.publicationSeq s.clock s.snapshot
  published : PublishedOk s.publicationSeq s.clock s.published
  seq : s.publicationSeq ≤ u64Max

def SpokenLegacy (world : World) : Prop :=
  ∀ error, .failed error∈world.legacy → trim error≠""

namespace Inv
variable {base s : Store}

theorem live (h : Inv s) (hl : SpokenLegacy s.world) : Live s s :=
  ⟨rfl,rfl,rfl,Nat.le_refl _,h.warnings,hl⟩

theorem of_live (h : Inv base) (hs : Live base s) : Inv s := by
  have hpast : ∀ payload, PublishedOk base.publicationSeq base.clock payload →
      PublishedOk s.publicationSeq s.clock payload := by
    intro payload hp
    exact ⟨hp.fit,hp.past.mono (Nat.le_of_eq hs.seq.symm) hs.clock,hp.seq⟩
  refine ⟨hs.warnings,?_,?_,by rw [hs.seq]; exact h.seq⟩
  · rw [hs.snapshot]
    exact hpast _ h.snapshot
  · rw [hs.published]
    exact hpast _ h.published

theorem nextPublication (h : Inv s) : Inv s.nextPublication := by
  have hle : s.publicationSeq ≤ satAdd s.publicationSeq 1 := by
    have := h.seq
    simp only [satAdd]
    omega
  have hpast : ∀ payload, PublishedOk s.publicationSeq s.clock payload →
      PublishedOk (satAdd s.publicationSeq 1) s.clock payload :=
    fun payload hp => ⟨hp.fit,hp.past.mono hle (Nat.le_refl _),hp.seq⟩
  exact ⟨h.warnings.mono hle (Nat.le_refl _),hpast _ h.snapshot,hpast _ h.published,
    Nat.min_le_right _ _⟩

theorem buildSnapshot (h : Inv s) (hl : SpokenLegacy s.world) : Inv s.buildSnapshot := by
  have hnow := h.of_live (h.live hl).now
  have hwarnings := hnow.warnings
  rw [← Live.now_eq] at hwarnings
  exact ⟨hnow.warnings,⟨hwarnings,hnow.warnings,hnow.seq⟩,hnow.published,hnow.seq⟩

/-- A publication after work that kept the warnings fit. -/
theorem publish (h : Inv base) (hs : Live base s) : Inv s.now.2.buildSnapshot :=
  (h.of_live hs.now).buildSnapshot hs.now.legacy

theorem publishSnapshotOnly (h : Inv s) (hl : SpokenLegacy s.world)
    {warning : Option (String × String)}
    (hw : ∀ w, warning=some w → trim w.1≠"" ∧ trim w.2≠"") :
    Inv (s.publishSnapshotOnly warning) := by
  have hnext := h.nextPublication
  have hlive : Live s.nextPublication s.nextPublication := hnext.live hl
  cases warning with
  | none => exact hnext.publish hlive
  | some w =>
    obtain ⟨hc,hm⟩ := hw w rfl
    exact hnext.publish (hlive.addWarning hc hm)

theorem publishQuietly (h : Inv base) (hs : Live base s) : Inv (s.publishSnapshotOnly none) :=
  (h.of_live hs).publishSnapshotOnly hs.legacy (by simp)

theorem applyRawSample (h : Inv s) (hl : SpokenLegacy s.world) (status : Option Bool)
    (sourceUnchanged : Bool) {warnings : List String}
    (hw : ∀ message∈warnings, trim message≠"") (completedAtMs : Nat) :
    Inv (s.applyRawSample status sourceUnchanged warnings completedAtMs) := by
  have hstatus : Inv (s.applyCollectorServiceStatus status) ∧
      SpokenLegacy (s.applyCollectorServiceStatus status).world := by
    cases status with
    | none => exact ⟨h,hl⟩
    | some active => exact ⟨⟨h.warnings,h.snapshot,h.published,h.seq⟩,hl⟩
  have hsync := (hstatus.1.live hstatus.2).syncCollectorWarnings hw
  simp only [Store.applyRawSample]
  split
  · exact hstatus.1.publishQuietly hsync
  · have hnext := (hstatus.1.of_live hsync).nextPublication
    have hsample : Inv { (((s.applyCollectorServiceStatus status).syncCollectorWarnings
        warnings).nextPublication) with
          sampleSeq := satAdd ((s.applyCollectorServiceStatus status).syncCollectorWarnings
            warnings).nextPublication.sampleSeq 1
          sampledAtMs := some completedAtMs } :=
      ⟨hnext.warnings,hnext.snapshot,hnext.published,hnext.seq⟩
    split
    · exact hsample.publish (hsample.live hsync.legacy).persistWarmCache
    · exact hsample.publish (hsample.live hsync.legacy)

theorem publishFatalFromLatest (h : Inv s) (hl : SpokenLegacy s.world) :
    Inv s.publishFatalFromLatest := by
  have hnow := h.of_live (h.live hl).now
  refine ⟨hnow.warnings,hnow.snapshot,?_,hnow.seq⟩
  have hpub := hnow.published
  refine ⟨⟨?_,hpub.fit.length,hpub.fit.nodup⟩,hpub.past,Nat.min_le_right _ _⟩
  intro warning hw
  have hfit := hpub.fit.each warning hw
  have hpast := hpub.past.each warning hw
  have hseq := hpub.seq
  have htime := hpast.time
  rw [← Live.now_eq] at htime
  have hnext : warning.publicationSeq ≤ satAdd s.now.2.published.publicationSeq 1 :=
    Nat.le_min.mpr ⟨hfit.seq.trans (Nat.le_succ _),hfit.seq.trans hseq⟩
  exact ⟨hnext,htime.trans (Nat.le_max_left _ _),hfit.key,hfit.category,hfit.message⟩

end Inv

/-- What a run is told has something to say. -/
def Operation.Spoken : Operation → Prop
  | .applyRawSample _ _ warnings _ => ∀ message∈warnings, trim message≠""
  | .publishCollectorUnavailable error => trim error≠""
  | .markEngineFatal message => trim message≠""
  | _ => True

theorem collector_ne_blank : trim "collector"≠"" := by decide

theorem run_inv {s : Store} (h : Inv s) (hl : SpokenLegacy s.world) {operation : Operation}
    (ho : operation.Spoken) : Inv (operation.run s) := by
  have hlive := h.live hl
  cases operation with
  | setPaused => exact h.publishQuietly (hlive.persistSettings true)
  | setQuery userMutation =>
    cases userMutation with
    | true => exact h.publishQuietly (hlive.persistSettings true)
    | false => exact h.publishQuietly hlive
  | setSampleInterval => exact h.publishQuietly (hlive.persistSettings true)
  | setUiPreferences => exact h.publishQuietly (hlive.persistSettings true)
  | publish => exact h.publishQuietly hlive
  | applyRawSample status sourceUnchanged warnings completedAtMs =>
    exact h.applyRawSample hl status sourceUnchanged ho completedAtMs
  | publishCollectorUnavailable error =>
    refine h.publishSnapshotOnly hl ?_
    intro w hw
    cases hw
    exact ⟨collector_ne_blank,ho⟩
  | markEngineFatal message =>
    refine (h.of_live hlive.now).publishSnapshotOnly hlive.now.legacy ?_
    intro w hw
    cases hw
    exact ⟨collector_ne_blank,ho⟩
  | refreshSnapshotHealth => exact h.of_live hlive.retryLegacyHelperMigration
  | shutdownOwnedResources => exact h.of_live hlive.shutdownOwnedResources
  | startWriter => exact ⟨h.warnings,h.snapshot,h.published,h.seq⟩
  | publishStore => exact ⟨h.warnings,h.snapshot,h.snapshot,h.seq⟩
  | publishFatalFromLatest => exact h.publishFatalFromLatest hl

/-- What startup reports so far, and the diagnostics' answers still to come. -/
structure Reports where
  diagnostics : List DiagnosticWriteOutcome
  told : List (String × String) := []

namespace Reports

/-- One warning, and the failure of its diagnostic unless that text was told before. -/
def report (r : Reports) (category message : String) : Reports :=
  let told := r.told++[(category,message)]
  match r.diagnostics with
  | .failed failure::diagnostics =>
    { diagnostics := diagnostics
      told := if told.any (fun report => report.2==failureMessage failure) then told
        else told++[("persistence",failureMessage failure)] }
  | _::diagnostics => { diagnostics := diagnostics, told := told }
  | [] => { diagnostics := [], told := told }

def failure (r : Reports) (failure : PersistenceFailure) : Reports :=
  r.report "persistence" (failureMessage failure)

def settings (r : Reports) : SettingsLoad → Reports
  | .loaded false => r
  | .loaded true =>
    match r.diagnostics with
    | .failed failure::diagnostics => { r with diagnostics := diagnostics }.failure failure
    | _::diagnostics => { r with diagnostics := diagnostics }
    | [] => r
  | .missing none => r
  | .missing (some failure) => r.failure failure
  | .failed failure => r.failure failure

def legacy (r : Reports) (windows : Bool) (legacy : Except String Unit) : Reports :=
  match windows,legacy with
  | true,.error error => r.report "persistence" error
  | _,_ => r

def warmCache (r : Reports) : Except PersistenceFailure (Option Nat) → Reports
  | .error failure => r.failure failure
  | .ok _ => r

end Reports

/-- What a startup reports, as its inputs decide it: category and text, in order. -/
def Startup.reported (startup : Startup) : Reports :=
  let r : Reports := { diagnostics := startup.world.diagnostics }
  let r := startup.privilegeWarning.elim r (r.report "admin_mode")
  let r := r.settings startup.settings
  let r := r.legacy startup.windows startup.legacy
  r.warmCache startup.warmCache

def Startup.reports (startup : Startup) : List (String × String) := startup.reported.told

/-- No two reports of the startup come under one key. -/
def Startup.Distinct (startup : Startup) : Prop :=
  (startup.reports.map (fun report => warningKey report.1 report.2)).Nodup

structure Startup.Spoken (startup : Startup) : Prop where
  privilege : ∀ warning, startup.privilegeWarning=some warning → trim warning≠""
  legacy : ∀ error, startup.legacy=.error error → trim error≠""
  /-- The sequence number read back is a machine word. -/
  seq : ∀ seq, startup.warmCache=.ok (some seq) → seq ≤ u64Max

/-- The store under construction has pushed exactly the reports. -/
structure Started (r : Reports) (s : Store) : Prop where
  diagnostics : s.world.diagnostics=r.diagnostics
  told : s.warnings.map (fun warning => (warning.category,warning.message))=r.told
  keys : ∀ warning∈s.warnings, warning.key=warningKey warning.category warning.message
  each : ∀ warning∈s.warnings, WarningOk 0 s.clock warning
  seq : s.publicationSeq ≤ u64Max

namespace Started
variable {r : Reports} {s : Store}

theorem now (h : Started r s) : Started r s.now.2 := by
  simp only [Store.now]
  split
  · exact h
  · exact ⟨h.diagnostics,h.told,h.keys,
      fun warning hw => (h.each warning hw).mono (Nat.le_refl _) (Nat.le_add_right _ _),h.seq⟩

/-- Room for one more: the push is an append. -/
theorem push (h : Started r s) (hroom : r.told.length < maxWarnings) {at' : Nat}
    (hat : at' ≤ s.clock) {category message : String} (hc : trim category≠"")
    (hm : trim message≠"") :
    Started { r with told := r.told++[(category,message)] }
      { s with warnings := pushWarning s.warnings 0 at' category message } := by
  have hlen : s.warnings.length < maxWarnings := by
    rw [← h.told,List.length_map] at hroom
    exact hroom
  have hpush : pushWarning s.warnings 0 at' category message=s.warnings++
      [{ key := warningKey category message, publicationSeq := 0, occurredAtMs := at',
         category := category, message := message }] := by
    simp only [pushWarning,List.length_append,List.length_singleton]
    rw [Nat.sub_eq_zero_of_le (Nat.succ_le_of_lt hlen),List.drop_zero]
  rw [hpush]
  refine ⟨h.diagnostics,by simp [h.told],?_,?_,h.seq⟩
  · intro warning hw
    rw [List.mem_append,List.mem_singleton] at hw
    cases hw with
    | inl hold => exact h.keys warning hold
    | inr hnew => rw [hnew]
  · intro warning hw
    rw [List.mem_append,List.mem_singleton] at hw
    cases hw with
    | inl hold => exact h.each warning hold
    | inr hnew =>
      rw [hnew]
      exact ⟨Nat.le_refl _,hat,warningKey_ne_blank,hc,hm⟩

theorem recordDiagnostic_nil (h : s.world.diagnostics=[]) :
    s.recordDiagnostic=(.suppressed,s) := by
  simp only [Store.recordDiagnostic,h]

theorem recordDiagnostic_cons {outcome : DiagnosticWriteOutcome}
    {diagnostics : List DiagnosticWriteOutcome} (h : s.world.diagnostics=outcome::diagnostics) :
    s.recordDiagnostic=
      (outcome,{ s with world := { s.world with diagnostics := diagnostics } }) := by
  simp only [Store.recordDiagnostic,h]

/-- The answer to a diagnostic is taken off both. -/
theorem answered (h : Started r s) (diagnostics : List DiagnosticWriteOutcome) :
    Started { r with diagnostics := diagnostics }
      { s with world := { s.world with diagnostics := diagnostics } } :=
  ⟨rfl,h.told,h.keys,h.each,h.seq⟩

theorem any_message (h : Started r s) (message : String) :
    s.warnings.any (fun warning => warning.message==message)=
      r.told.any (fun report => report.2==message) := by
  rw [← h.told,List.any_map]
  rfl

theorem persistence_ne_blank : trim "persistence"≠"" := by decide

theorem pushStartupWarning (h : Started r s) (hroom : r.told.length+2 ≤ maxWarnings)
    {category message : String} (hc : trim category≠"") (hm : trim message≠"") :
    Started (r.report category message) (pushStartupWarning s category message) ∧
      (r.report category message).told.length ≤ r.told.length+2 := by
  have hpushed := h.now.push (by omega) (Nat.le_of_eq (Live.now_eq s)) hc hm
  simp only [Warnings.pushStartupWarning,Reports.report]
  cases hd : r.diagnostics with
  | nil =>
    rw [recordDiagnostic_nil (hpushed.diagnostics.trans hd)]
    exact ⟨⟨hpushed.diagnostics.trans hd,hpushed.told,hpushed.keys,hpushed.each,hpushed.seq⟩,
      by simp⟩
  | cons outcome diagnostics =>
    rw [recordDiagnostic_cons (hpushed.diagnostics.trans hd)]
    cases outcome with
    | written => exact ⟨hpushed.answered diagnostics,by simp⟩
    | suppressed => exact ⟨hpushed.answered diagnostics,by simp⟩
    | failed failure =>
      have hmessage := hpushed.any_message (failureMessage failure)
      simp only at hmessage ⊢
      rw [hmessage]
      split
      · exact ⟨hpushed.answered diagnostics,by simp⟩
      · refine ⟨(hpushed.answered diagnostics).push ?_ (Nat.le_of_eq (Live.now_eq s))
          persistence_ne_blank
          (failureMessage_ne_blank failure),by simp⟩
        simp only [List.length_append,List.length_singleton]
        omega

theorem failure (h : Started r s) (hroom : r.told.length+2 ≤ maxWarnings)
    (failure : PersistenceFailure) :
    Started (r.failure failure) (pushStartupPersistenceFailure s failure) ∧
      (r.failure failure).told.length ≤ r.told.length+2 :=
  h.pushStartupWarning hroom persistence_ne_blank (failureMessage_ne_blank failure)

theorem settings (h : Started r s) (hroom : r.told.length+2 ≤ maxWarnings)
    (load : SettingsLoad) : Started (r.settings load) (startupSettings s load) ∧
      (r.settings load).told.length ≤ r.told.length+2 := by
  cases load with
  | failed failure =>
    obtain ⟨hs,hlen⟩ := h.failure hroom failure
    exact ⟨⟨hs.diagnostics,hs.told,hs.keys,hs.each,hs.seq⟩,hlen⟩
  | missing written =>
    cases written with
    | none => exact ⟨h.now,Nat.le_add_right _ _⟩
    | some failure => exact h.now.failure hroom failure
  | loaded migrated =>
    cases migrated with
    | false => exact ⟨h,Nat.le_add_right _ _⟩
    | true =>
      have hnow := h.now.now
      simp only [startupSettings,Reports.settings]
      cases hd : r.diagnostics with
      | nil =>
        rw [recordDiagnostic_nil (hnow.diagnostics.trans hd)]
        exact ⟨hnow,Nat.le_add_right _ _⟩
      | cons outcome diagnostics =>
        rw [recordDiagnostic_cons (hnow.diagnostics.trans hd)]
        cases outcome with
        | written => exact ⟨hnow.answered diagnostics,Nat.le_add_right _ _⟩
        | suppressed => exact ⟨hnow.answered diagnostics,Nat.le_add_right _ _⟩
        | failed failure => exact (hnow.answered diagnostics).failure hroom failure

theorem legacy (h : Started r s) (hroom : r.told.length+2 ≤ maxWarnings) (windows : Bool)
    {answer : Except String Unit} (ha : ∀ error, answer=.error error → trim error≠"") :
    Started (r.legacy windows answer) (startupLegacy windows answer s) ∧
      (r.legacy windows answer).told.length ≤ r.told.length+2 := by
  cases windows with
  | false => exact ⟨h,Nat.le_add_right _ _⟩
  | true =>
    cases answer with
    | ok _ =>
      have hnow := h.now
      exact ⟨⟨hnow.diagnostics,hnow.told,hnow.keys,hnow.each,hnow.seq⟩,Nat.le_add_right _ _⟩
    | error error => exact h.now.pushStartupWarning hroom persistence_ne_blank (ha error rfl)

theorem warmCache (h : Started r s) (hroom : r.told.length+2 ≤ maxWarnings)
    {answer : Except PersistenceFailure (Option Nat)}
    (ha : ∀ seq, answer=.ok (some seq) → seq ≤ u64Max) :
    Started (r.warmCache answer) (startupWarmCache s answer) ∧
      (r.warmCache answer).told.length ≤ r.told.length+2 := by
  cases answer with
  | error failure => exact h.failure hroom failure
  | ok seq =>
    refine ⟨⟨h.diagnostics,h.told,h.keys,h.each,?_⟩,Nat.le_add_right _ _⟩
    cases seq with
    | none => exact Nat.zero_le _
    | some seq => exact ha seq rfl

end Started

/-- The store under construction ends up with the reports of its inputs as its warnings. -/
theorem startup_started {startup : Startup} (hs : startup.Spoken) :
    Started startup.reported startup.unpublished ∧ startup.reports.length ≤ maxWarnings := by
  have hsixteen : maxWarnings=16 := rfl
  have hadmin : trim "admin_mode"≠"" := by decide
  have hempty : Started { diagnostics := startup.world.diagnostics }
      { clock := startup.clock, publicationSeq := 0, warnings := [],
        snapshot := { publicationSeq := 0, publishedAtMs := 0, warnings := [] },
        published := { publicationSeq := 0, publishedAtMs := 0, warnings := [] },
        world := startup.world, windows := startup.windows, elevated := startup.elevated,
        legacyPending := startup.windows } :=
    ⟨rfl,rfl,by simp,by simp,Nat.zero_le _⟩
  simp only [Startup.reports,Startup.reported,Startup.unpublished]
  cases hp : startup.privilegeWarning with
  | none =>
    obtain ⟨h₁,hl₁⟩ := hempty.now.settings (by simp [hsixteen]) startup.settings
    obtain ⟨h₂,hl₂⟩ := h₁.legacy (by simp at hl₁; omega) startup.windows hs.legacy
    obtain ⟨h₃,hl₃⟩ := h₂.now.warmCache (by simp at hl₁; omega) hs.seq
    exact ⟨h₃,by simp at hl₁ ⊢; omega⟩
  | some warning =>
    obtain ⟨h₀,hl₀⟩ :=
      hempty.pushStartupWarning (by simp [hsixteen]) hadmin (hs.privilege warning hp)
    obtain ⟨h₁,hl₁⟩ := h₀.now.settings (by simp at hl₀; omega) startup.settings
    obtain ⟨h₂,hl₂⟩ := h₁.legacy (by simp at hl₀; omega) startup.windows hs.legacy
    obtain ⟨h₃,hl₃⟩ := h₂.now.warmCache (by simp at hl₀; omega) hs.seq
    exact ⟨h₃,by simp at hl₀ ⊢; omega⟩

theorem Started.keys_eq {r : Reports} {s : Store} (h : Started r s) :
    s.warnings.map RuntimeWarning.key=r.told.map (fun report => warningKey report.1 report.2) := by
  rw [← h.told,List.map_map]
  exact List.map_congr_left h.keys

theorem startup_inv {startup : Startup} (hs : startup.Spoken) (hd : startup.Distinct) :
    Inv startup.store := by
  obtain ⟨hstarted,hlen⟩ := startup_started hs
  have hnow := hstarted.now
  have hwarnings : ListOk 0 startup.unpublished.now.2.clock startup.unpublished.now.2.warnings := by
    refine ⟨hnow.each,?_,?_⟩
    · rw [Startup.reports,← hnow.told,List.length_map] at hlen
      exact hlen
    · rw [hnow.keys_eq]
      exact hd
  have hpast := hwarnings.mono (Nat.zero_le startup.unpublished.now.2.publicationSeq)
    (Nat.le_refl _)
  have hfit := hpast
  rw [← Live.now_eq] at hfit
  exact ⟨hpast,⟨hfit,hpast,hnow.seq⟩,⟨hfit,hpast,hnow.seq⟩,hnow.seq⟩

/-- The store after the operations, each with the answers of its own world. -/
def run (s : Store) (operations : List (World × Operation)) : Store :=
  operations.foldl (fun s operation => operation.2.run { s with world := operation.1 }) s

/-- Every text that the operations are told has something to say. -/
def SpokenRun (operations : List (World × Operation)) : Prop :=
  ∀ operation∈operations, operation.2.Spoken ∧ SpokenLegacy operation.1

theorem run_keeps_inv {s : Store} (h : Inv s) {operations : List (World × Operation)}
    (ho : SpokenRun operations) : Inv (run s operations) := by
  induction operations generalizing s with
  | nil => exact h
  | cons operation operations ih =>
    obtain ⟨hspoken,hlegacy⟩ := ho operation List.mem_cons_self
    have hworld : Inv { s with world := operation.1 } :=
      ⟨h.warnings,h.snapshot,h.published,h.seq⟩
    exact ih (run_inv hworld hlegacy hspoken) (fun o hmem => ho o (List.mem_cons_of_mem _ hmem))

/-- The clock and the publications are within what the protocol can count. -/
def Countable (s : Store) : Prop :=
  s.clock ≤ jsMaxSafeInteger ∧ s.publicationSeq ≤ jsMaxSafeInteger

theorem PublishedOk.valid {s : Store} {payload : PublishedWarnings}
    (h : PublishedOk s.publicationSeq s.clock payload) (hc : Countable s) :
    validateWarnings payload=.ok () ∧ payload.warnings.length ≤ maxWarnings := by
  refine ⟨validateWarnings_ok.mpr ⟨?_,h.fit.nodup⟩,h.fit.length⟩
  intro warning hw
  have hpast := h.past.each warning hw
  exact ⟨hpast.seq.trans hc.2,hpast.time.trans hc.1,h.fit.each warning hw⟩

/-- The warnings of every publication stay valid exactly if no two reports of the startup
come under one key. -/
theorem warnings_stay_valid_iff {startup : Startup} (hs : startup.Spoken)
    (hc : Countable startup.store) :
    (∀ operations, SpokenRun operations → Countable (run startup.store operations) →
      (validateWarnings (run startup.store operations).published=.ok () ∧
        (run startup.store operations).published.warnings.length ≤ maxWarnings) ∧
      validateWarnings (run startup.store operations).snapshot=.ok () ∧
        (run startup.store operations).snapshot.warnings.length ≤ maxWarnings) ↔
    startup.Distinct := by
  constructor
  · intro hvalid
    have hfirst := (hvalid [] (by simp [SpokenRun]) hc).1.1
    have hnodup := (validateWarnings_ok.mp hfirst).2
    have hkeys := (startup_started hs).1.now.keys_eq
    rw [Startup.Distinct,Startup.reports,← hkeys]
    exact hnodup
  · intro hd operations ho hcount
    have hinv := run_keeps_inv (startup_inv hs hd) ho
    exact ⟨hinv.published.valid hcount,hinv.snapshot.valid hcount⟩

section Codes

/-- The key of a failure of the storage. -/
def failureKey : PersistenceFailureCode → String
  | .permissionDenied => "persistence.persistence_permission_denied"
  | .readOnlyFilesystem => "persistence.persistence_read_only_filesystem"
  | .storageFull => "persistence.persistence_storage_full"
  | .corruptData => "persistence.persistence_corrupt_data"
  | .invalidPath => "persistence.persistence_invalid_path"
  | .notFound => "persistence.persistence_not_found"
  | .serializationFailed => "persistence.persistence_serialization"
  | .migrationFailed => "persistence.persistence_migration"
  | .verificationUnavailable => "persistence.persistence_verification_unavailable"
  | .ioFailure => "persistence.persistence_io_failure"

theorem failureKey_injective : Function.Injective failureKey := by
  intro code code' h
  cases code <;> cases code' <;> first | rfl | simp [failureKey] at h

/-- The first piece of a failure's message is its code. -/
theorem failureMessage_toList (failure : PersistenceFailure) : ∃ rest,
    (failureMessage failure).toList=("persistence_"++failureCode failure.code).toList++
      ' '::rest := by
  have hspace : " operation=".toList= ' '::"operation=".toList := by decide
  delta failureMessage
  simp only [String.toList_append,hspace,List.append_assoc,List.cons_append]
  exact ⟨_,rfl⟩

theorem warningKey_failure (failure : PersistenceFailure) :
    warningKey "persistence" (failureMessage failure)=failureKey failure.code := by
  obtain ⟨rest,hmessage⟩ := failureMessage_toList failure
  have hhead : ("persistence_"++failureCode failure.code).toList.head? =some 'p' := by
    cases failure.code <;> decide
  have hnot : ¬("persistence"="persistence" ∧
      "legacy_helper_migration_".toList.isPrefixOf (failureMessage failure).toList=true) := by
    intro h
    have hstarts := h.2
    rw [hmessage] at hstarts
    cases hcode : ("persistence_"++failureCode failure.code).toList with
    | nil =>
      rw [hcode] at hhead
      cases hhead
    | cons c code =>
      rw [hcode] at hhead hstarts
      cases hhead
      exact Bool.false_ne_true hstarts
  have hpiece : firstPiece (failureMessage failure)=
      ("persistence_"++failureCode failure.code).toList := by
    have hcode : ("persistence_"++failureCode failure.code).toList.all
        (fun c => !(c== ':' || c== ';' || c== ' '))=true := by
      cases failure.code <;> decide
    rw [firstPiece,hmessage,List.takeWhile_append_of_pos (List.all_eq_true.mp hcode)]
    exact List.append_nil _
  rw [warningKey,if_neg (by decide),if_neg hnot]
  simp only [hpiece]
  cases failure.code <;> decide

theorem warningKey_privilege (warning : String) : warningKey "admin_mode" warning="admin_mode" :=
  if_pos rfl

theorem warningKey_legacy {error : String}
    (h : "legacy_helper_migration_".toList.isPrefixOf error.toList=true) :
    warningKey "persistence" error="persistence.legacy_helper_migration" := by
  rw [warningKey,if_neg (by decide),if_pos ⟨rfl,h⟩]

/-- The report of a failure of the storage. -/
def failureReport (failure : PersistenceFailure) : String × String :=
  ("persistence",failureMessage failure)

theorem Reports.report_told (r : Reports) (category message : String) :
    ∃ failures : List PersistenceFailure, (r.report category message).told=
      r.told++(category,message)::failures.map failureReport := by
  rw [Reports.report]
  split
  · next failure diagnostics hdiagnostics =>
    split
    · exact ⟨[],rfl⟩
    · exact ⟨[failure],by rw [List.append_assoc]; rfl⟩
  · exact ⟨[],rfl⟩
  · exact ⟨[],rfl⟩

theorem Reports.failure_told (r : Reports) (failure : PersistenceFailure) :
    ∃ failures : List PersistenceFailure, (r.failure failure).told=
      r.told++failures.map failureReport := by
  obtain ⟨failures,htold⟩ := r.report_told "persistence" (failureMessage failure)
  exact ⟨failure::failures,htold⟩

theorem Reports.settings_told (r : Reports) (settings : SettingsLoad) :
    ∃ failures : List PersistenceFailure, (r.settings settings).told=
      r.told++failures.map failureReport := by
  have hnone : r.told=r.told++([] : List PersistenceFailure).map failureReport :=
    (List.append_nil _).symm
  cases settings with
  | loaded migrated =>
    cases migrated with
    | false => exact ⟨[],hnone⟩
    | true =>
      simp only [Reports.settings]
      split
      · exact Reports.failure_told _ _
      · exact ⟨[],hnone⟩
      · exact ⟨[],hnone⟩
  | missing written =>
    cases written with
    | none => exact ⟨[],hnone⟩
    | some failure => exact r.failure_told failure
  | failed failure => exact r.failure_told failure

/-- What the legacy-helper migration has to report. -/
def Startup.legacyError (startup : Startup) : Option String :=
  match startup.windows,startup.legacy with
  | true,.error error => some error
  | _,_ => none

/-- The reports of a startup: the privilege warning, failures, the legacy-helper migration and
more failures. -/
theorem Startup.reports_eq (startup : Startup) : ∃ before after : List PersistenceFailure,
    startup.reports=startup.privilegeWarning.toList.map (fun warning => ("admin_mode",warning))++
      before.map failureReport++
      startup.legacyError.toList.map (fun error => ("persistence",error))++
      after.map failureReport := by
  generalize hfirst : (startup.privilegeWarning.elim
    ({ diagnostics := startup.world.diagnostics } : Reports)
    (Reports.report { diagnostics := startup.world.diagnostics } "admin_mode"))=first
  have hprivilege : ∃ failures : List PersistenceFailure, first.told=
      startup.privilegeWarning.toList.map (fun warning => ("admin_mode",warning))++
        failures.map failureReport := by
    rw [← hfirst]
    cases startup.privilegeWarning with
    | none => exact ⟨[],rfl⟩
    | some warning => exact Reports.report_told _ "admin_mode" warning
  obtain ⟨early,hearly⟩ := hprivilege
  obtain ⟨loading,hloading⟩ := first.settings_told startup.settings
  generalize hsecond : first.settings startup.settings=second at hloading
  have hlegacy : ∃ failures : List PersistenceFailure,
      (second.legacy startup.windows startup.legacy).told=
        second.told++startup.legacyError.toList.map (fun error => ("persistence",error))++
          failures.map failureReport := by
    rw [Startup.legacyError]
    cases startup.windows with
    | false => exact ⟨[],by simp [Reports.legacy]⟩
    | true =>
      cases startup.legacy with
      | ok _ => exact ⟨[],by simp [Reports.legacy]⟩
      | error error =>
        obtain ⟨failures,htold⟩ := second.report_told "persistence" error
        exact ⟨failures,by simpa [Reports.legacy] using htold⟩
  obtain ⟨helping,hhelping⟩ := hlegacy
  have hcache : ∃ failures : List PersistenceFailure,
      ((second.legacy startup.windows startup.legacy).warmCache startup.warmCache).told=
        (second.legacy startup.windows startup.legacy).told++failures.map failureReport := by
    cases startup.warmCache with
    | ok _ => exact ⟨[],by simp [Reports.warmCache]⟩
    | error failure => exact Reports.failure_told _ failure
  obtain ⟨caching,hcaching⟩ := hcache
  refine ⟨early++loading,helping++caching,?_⟩
  have hreports : startup.reports=
      ((second.legacy startup.windows startup.legacy).warmCache startup.warmCache).told := by
    rw [← hsecond,← hfirst]
    rfl
  rw [hreports,hcaching,hhelping,hloading,hearly]
  simp only [List.map_append,List.append_assoc]

/-- No two reports come under one key where no two failures have one code. -/
theorem Startup.distinct_iff {startup : Startup} (hlegacy : ∀ error,
      startup.legacyError=some error →
      "legacy_helper_migration_".toList.isPrefixOf error.toList=true)
    {before after : List PersistenceFailure}
    (hreports : startup.reports=
      startup.privilegeWarning.toList.map (fun warning => ("admin_mode",warning))++
      before.map failureReport++
      startup.legacyError.toList.map (fun error => ("persistence",error))++
      after.map failureReport) :
    startup.Distinct ↔ ((before++after).map PersistenceFailure.code).Nodup := by
  have hkeys : (before++after).map (fun failure => failureKey failure.code)=
      ((before++after).map PersistenceFailure.code).map failureKey := by
    rw [List.map_map]
    rfl
  have hlegacyKeys : startup.legacyError.toList.map (fun error => warningKey "persistence" error)=
      startup.legacyError.toList.map (fun _ => "persistence.legacy_helper_migration") :=
    List.map_congr_left (fun error herror =>
      warningKey_legacy (hlegacy error (Option.mem_toList.mp herror)))
  have hprivilege : ∀ code, failureKey code≠"admin_mode" := by
    intro code
    cases code <;> simp [failureKey]
  have hmigration : ∀ code, failureKey code≠"persistence.legacy_helper_migration" := by
    intro code
    cases code <;> simp [failureKey]
  rw [← List.nodup_map_iff failureKey_injective,← hkeys,Startup.Distinct,hreports]
  simp only [List.map_append,List.map_map,Function.comp_def,failureReport,warningKey_failure,
    warningKey_privilege,hlegacyKeys]
  cases startup.privilegeWarning <;> cases startup.legacyError <;>
    simp [List.nodup_middle,hprivilege,hmigration]

end Codes

section Startups

/-- The data directory is not private. -/
def rootFailure : PersistenceFailure where
  code := .permissionDenied
  operation := .permissions
  path := some "/home/user/.local/share/BatCaveMonitor"
  retryable := true
  writeEffect := .notCommitted
  summary := "current-user data directory is not private"

/-- Both loads meet the failed root; only the first diagnostic is told of it. -/
def lockedStartup : Startup where
  windows := false
  elevated := false
  clock := 1000
  world := { diagnostics := [.failed rootFailure,.suppressed] }
  privilegeWarning := none
  settings := .failed rootFailure
  legacy := .ok ()
  warmCache := .error rootFailure

/-- The same with a warm cache that loads. -/
def unlockedStartup : Startup := { lockedStartup with warmCache := .ok (some 7) }

set_option maxRecDepth 1000 in
theorem unlocked_startup_is_valid : unlockedStartup.Spoken ∧ unlockedStartup.Distinct ∧
    ∀ operations, SpokenRun operations → Countable (run unlockedStartup.store operations) →
      (validateWarnings (run unlockedStartup.store operations).published=.ok () ∧
        (run unlockedStartup.store operations).published.warnings.length ≤ maxWarnings) ∧
      validateWarnings (run unlockedStartup.store operations).snapshot=.ok () ∧
        (run unlockedStartup.store operations).snapshot.warnings.length ≤ maxWarnings := by
  have hspoken : unlockedStartup.Spoken := by
    refine ⟨by simp [unlockedStartup,lockedStartup],by simp [unlockedStartup,lockedStartup],?_⟩
    intro seq hseq
    cases hseq
    decide
  have hdistinct : unlockedStartup.Distinct :=
    (@Startup.distinct_iff unlockedStartup (fun _ h => by cases h) [rootFailure] [] rfl).mpr
      (List.nodup_singleton _)
  exact ⟨hspoken,hdistinct,
    (warnings_stay_valid_iff hspoken (by simp only [Countable]; decide)).mpr hdistinct⟩

set_option maxRecDepth 1000 in
/-- A root that fails for the settings and for the warm cache is reported twice under one
key, and the first publication is refused. -/
theorem locked_startup_is_refused :
    lockedStartup.Spoken ∧ Countable lockedStartup.store ∧
      validateWarnings lockedStartup.store.published=.error "protocol_warning_invalid" := by
  have hspoken : lockedStartup.Spoken := by
    refine ⟨by simp [lockedStartup],by simp [lockedStartup],?_⟩
    intro seq hseq
    cases hseq
  have hcodes : lockedStartup.Distinct ↔
      ([rootFailure,rootFailure].map PersistenceFailure.code).Nodup :=
    @Startup.distinct_iff lockedStartup (fun _ h => by cases h) [rootFailure] [rootFailure] rfl
  have hkeys := (startup_started hspoken).1.now.keys_eq
  refine ⟨hspoken,by simp only [Countable]; decide,?_⟩
  refine (validateWarnings_go_cases _ []).resolve_left (fun hvalid => ?_)
  have hnodup := (validateWarnings_ok.mp hvalid).2
  rw [Startup.Distinct,Startup.reports,← hkeys] at hcodes
  exact absurd (hcodes.mp hnodup) (by decide)

end Startups
end BatCave.RuntimeStore.Warnings
