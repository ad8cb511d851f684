import BatCave.RuntimeStore.WarningRuns
import Mathlib.Data.List.Dedup

/-! The collector's warnings as a keyed set: what one reconciliation leaves of the messages it
is given, and when another with the same messages has nothing to do. -/
namespace BatCave.RuntimeStore.Warnings
open BatCave.Persistence

/-- The categories the store pushes warnings under. -/
def categories : List String := ["collector","persistence","admin_mode"]

def isCollector (warning : RuntimeWarning) : Bool := warning.category=="collector"

/-- The warnings of the collector, as key and message. -/
def collectorEntries (warnings : List RuntimeWarning) : List (String × String) :=
  (warnings.filter isCollector).map (fun warning => (warning.key,warning.message))

/-- The warnings of everything else. -/
def otherWarnings (warnings : List RuntimeWarning) : List RuntimeWarning :=
  warnings.filter (fun warning => !isCollector warning)

/-- What a store's warnings are like in every state: under the key of their message, and one
for each key of the collector. -/
structure Kept (warnings : List RuntimeWarning) : Prop where
  keyed : ∀ warning∈warnings, warning.category∈categories ∧
    warning.key=warningKey warning.category warning.message
  distinct : ((collectorEntries warnings).map (·.1)).Nodup
  short : warnings.length ≤ maxWarnings

section Keys

theorem head_append {a : String} {c : Char} (h : a.toList.head? =some c) (b : String) :
    (a++b).toList.head? =some c := by
  rw [String.toList_append,List.head?_append,h,Option.some_or]

theorem head_collectorKey (message : String) :
    (warningKey "collector" message).toList.head? =some 'c' := by
  have hc : "collector".toList.head? =some 'c' := by decide
  rw [warningKey,if_neg (by decide),if_neg (fun h => absurd h.1 (by decide))]
  exact head_append (head_append hc _) _

theorem head_persistenceKey (message : String) :
    (warningKey "persistence" message).toList.head? ≠some 'c' := by
  have hp : "persistence".toList.head? =some 'p' := by decide
  have hne : some 'p'≠some 'c' := by decide
  rw [warningKey,if_neg (by decide)]
  split
  · decide
  · exact fun h => hne ((head_append (head_append hp _) _).symm.trans h)

/-- A key tells whether its warning is the collector's. -/
theorem isCollector_of_key {warning : RuntimeWarning} (hcategory : warning.category∈categories)
    (hkey : warning.key=warningKey warning.category warning.message) :
    isCollector warning=true ↔ warning.key.toList.head? =some 'c' := by
  rw [hkey,isCollector,beq_iff_eq]
  have hcases : warning.category="collector" ∨ warning.category="persistence" ∨
      warning.category="admin_mode" := by
    simpa [categories] using hcategory
  constructor
  · intro hc
    rw [hc]
    exact head_collectorKey _
  · intro hhead
    cases hcases with
    | inl hc => exact hc
    | inr hrest =>
      exfalso
      cases hrest with
      | inl hp =>
        rw [hp] at hhead
        exact head_persistenceKey _ hhead
      | inr ha =>
        rw [ha,warningKey,if_pos rfl] at hhead
        exact absurd hhead (by decide)

end Keys

section Lists
variable {warnings : List RuntimeWarning} {p q : RuntimeWarning → Bool}

/-- Taking out one that a filter does not keep changes nothing behind the filter. -/
theorem filter_eraseP_of_not (hnot : ∀ warning∈warnings, p warning=true → q warning=false) :
    (warnings.eraseP p).filter q=warnings.filter q := by
  induction warnings with
  | nil => rfl
  | cons warning warnings ih =>
    have hrest := fun w hw => hnot w (List.mem_cons_of_mem warning hw)
    cases hp : p warning with
    | true =>
      rw [List.eraseP_cons_of_pos hp,List.filter_cons_of_neg]
      rw [hnot warning List.mem_cons_self hp]
      exact Bool.false_ne_true
    | false =>
      rw [List.eraseP_cons_of_neg (by rw [hp]; exact Bool.false_ne_true),List.filter_cons,
        List.filter_cons,ih hrest]

/-- Taking out one that the filter keeps is taking it out behind the filter. -/
theorem filter_eraseP_of_imp (himp : ∀ warning∈warnings, p warning=true → q warning=true) :
    (warnings.eraseP p).filter q=(warnings.filter q).eraseP p := by
  induction warnings with
  | nil => rfl
  | cons warning warnings ih =>
    have hrest := fun w hw => himp w (List.mem_cons_of_mem warning hw)
    cases hp : p warning with
    | true =>
      have hq := himp warning List.mem_cons_self hp
      rw [List.eraseP_cons_of_pos hp,List.filter_cons_of_pos hq,List.eraseP_cons_of_pos hp]
    | false =>
      have hneg : ¬p warning=true := by
        rw [hp]
        exact Bool.false_ne_true
      cases hq : q warning with
      | true =>
        rw [List.eraseP_cons_of_neg hneg,List.filter_cons_of_pos hq,List.filter_cons_of_pos hq,
          List.eraseP_cons_of_neg hneg,ih hrest]
      | false =>
        have hq' : ¬q warning=true := by
          rw [hq]
          exact Bool.false_ne_true
        rw [List.eraseP_cons_of_neg hneg,List.filter_cons_of_neg hq',List.filter_cons_of_neg hq',
          ih hrest]

end Lists

section Edits
variable {warnings : List RuntimeWarning} {category message : String}

/-- The warnings without the first of a key. -/
abbrev withoutKey (warnings : List RuntimeWarning) (key : String) : List RuntimeWarning :=
  warnings.eraseP (fun warning => warning.key==key)

theorem Kept.sublist (hk : Kept warnings) {kept : List RuntimeWarning}
    (hsub : kept.Sublist warnings) : Kept kept := by
  refine ⟨fun w hw => hk.keyed w (hsub.subset hw),?_,hsub.length_le.trans hk.short⟩
  exact hk.distinct.sublist (((hsub.filter _).map _).map _)

theorem Kept.isCollector_iff (hk : Kept warnings) {warning : RuntimeWarning}
    (hw : warning∈warnings) : isCollector warning=true ↔ warning.key.toList.head? =some 'c' :=
  isCollector_of_key (hk.keyed warning hw).1 (hk.keyed warning hw).2

/-- The key of a collector's message goes with the collector's warning of it. -/
theorem Kept.collectorEntries_withoutKey (hk : Kept warnings) (message : String) :
    collectorEntries (withoutKey warnings (warningKey "collector" message))=
        (collectorEntries warnings).eraseP (fun e => e.1==warningKey "collector" message) ∧
      otherWarnings (withoutKey warnings (warningKey "collector" message))=
        otherWarnings warnings := by
  have himp : ∀ w∈warnings, (w.key==warningKey "collector" message)=true → isCollector w=true := by
    intro w hw hkey
    rw [beq_iff_eq] at hkey
    rw [hk.isCollector_iff hw,hkey]
    exact head_collectorKey message
  refine ⟨?_,?_⟩
  · rw [collectorEntries,filter_eraseP_of_imp himp,collectorEntries,List.eraseP_map]
    rfl
  · refine filter_eraseP_of_not ?_
    intro w hw hkey
    rw [himp w hw hkey]
    rfl

/-- The key of any other message leaves the collector's warnings alone. -/
theorem Kept.collectorEntries_withoutOther (hk : Kept warnings) (message : String) :
    collectorEntries (withoutKey warnings (warningKey "persistence" message))=
        collectorEntries warnings ∧
      otherWarnings (withoutKey warnings (warningKey "persistence" message))=
        withoutKey (otherWarnings warnings) (warningKey "persistence" message) := by
  have hnot : ∀ w∈warnings, (w.key==warningKey "persistence" message)=true →
      isCollector w=false := by
    intro w hw hkey
    rw [beq_iff_eq] at hkey
    rw [Bool.eq_false_iff]
    intro hc
    rw [hk.isCollector_iff hw,hkey] at hc
    exact head_persistenceKey message hc
  refine ⟨?_,?_⟩
  · rw [collectorEntries,filter_eraseP_of_not hnot,collectorEntries]
  · refine filter_eraseP_of_imp ?_
    intro w hw hkey
    rw [hnot w hw hkey]
    rfl

theorem collectorEntries_append (warnings : List RuntimeWarning) (warning : RuntimeWarning) :
    collectorEntries (warnings++[warning])=collectorEntries warnings++
      if isCollector warning then [(warning.key,warning.message)] else [] := by
  rw [collectorEntries,List.filter_append,List.map_append,collectorEntries]
  cases hc : isCollector warning with
  | true => simp [hc]
  | false => simp [hc]

theorem otherWarnings_append (warnings : List RuntimeWarning) (warning : RuntimeWarning) :
    otherWarnings (warnings++[warning])=otherWarnings warnings++
      if isCollector warning then [] else [warning] := by
  rw [otherWarnings,List.filter_append,otherWarnings]
  cases hc : isCollector warning with
  | true => simp [hc]
  | false => simp [hc]

/-- A push, without the cut at the limit. -/
theorem Kept.push (hk : Kept warnings) (hcategory : category∈categories)
    (hfresh : category="collector" →
      warningKey category message∉(collectorEntries warnings).map (·.1)) (seq time : Nat) :
    Kept (pushWarning warnings seq time category message) := by
  simp only [pushWarning]
  refine ⟨?_,?_,?_⟩
  · intro w hw
    have hmem := List.mem_of_mem_drop hw
    rw [List.mem_append,List.mem_singleton] at hmem
    cases hmem with
    | inl hold => exact hk.keyed w hold
    | inr hnew =>
      rw [hnew]
      exact ⟨hcategory,rfl⟩
  · refine List.Nodup.sublist (((((List.drop_sublist _ _).filter _).map _).map _)) ?_
    change ((collectorEntries (warnings++[_])).map (·.1)).Nodup
    rw [collectorEntries_append,List.map_append,List.nodup_append]
    refine ⟨hk.distinct,?_,?_⟩
    · split <;> simp
    · intro x hx y hy hxy
      split at hy
      · next hc =>
        simp only [List.map_cons,List.map_nil,List.mem_singleton] at hy
        rw [hxy,hy] at hx
        exact hfresh (beq_iff_eq.1 hc) hx
      · cases hy
  · rw [List.length_drop]
    omega

theorem notMem_eraseP_of_nodup {entries : List (String × String)}
    (hnodup : (entries.map (·.1)).Nodup) (key : String) :
    key∉(entries.eraseP (fun e => e.1==key)).map (·.1) := by
  have hmap : (entries.eraseP (fun e => e.1==key)).map (·.1)=(entries.map (·.1)).erase key := by
    rw [List.erase_eq_eraseP',List.eraseP_map]
    rfl
  rw [hmap]
  exact hnodup.not_mem_erase

/-- A replacement under the key of the message. -/
theorem Kept.upsert (hk : Kept warnings) (hcategory : category∈categories) (seq time : Nat) :
    Kept (pushWarning (withoutKey warnings (warningKey category message)) seq time category
      message) := by
  refine (hk.sublist List.eraseP_sublist).push hcategory ?_ seq time
  intro hc
  rw [hc,(hk.collectorEntries_withoutKey message).1]
  exact notMem_eraseP_of_nodup hk.distinct _

end Edits

section Answers
variable (s : Store)

theorem recordDiagnostic_warnings : s.recordDiagnostic.2.warnings=s.warnings := by
  unfold Store.recordDiagnostic
  split <;> rfl

theorem write_warnings : s.write.2.warnings=s.warnings := by
  unfold Store.write
  split <;> rfl

theorem isHealthy_warnings : s.isHealthy.2.warnings=s.warnings := by
  unfold Store.isHealthy
  split <;> rfl

theorem legacyAnswer_warnings : s.legacyAnswer.2.warnings=s.warnings := by
  unfold Store.legacyAnswer
  split <;> rfl

end Answers

/-- The store's warnings are kept in order. -/
def InOrder (s : Store) : Prop := Kept s.warnings

namespace InOrder
variable {s : Store}

theorem same (h : InOrder s) {s' : Store} (heq : s'.warnings=s.warnings) : InOrder s' := by
  rw [InOrder,heq]
  exact h

theorem now (h : InOrder s) : InOrder s.now.2 := h.same (Live.now_warnings s)

theorem upsertWarning (h : InOrder s) {category : String} (hcategory : category∈categories)
    (message : String) : InOrder (s.upsertWarning category message).2 := by
  unfold Store.upsertWarning
  simp only
  split
  · exact h
  · exact Kept.upsert h.now hcategory _ _

theorem appendDiagnostic (h : InOrder s) : InOrder s.appendDiagnostic := by
  have hdiag : InOrder s.now.2.now.2.recordDiagnostic.2 :=
    h.now.now.same (recordDiagnostic_warnings _)
  unfold Store.appendDiagnostic
  simp only
  split
  · next failure s' heq =>
    rw [heq] at hdiag
    exact hdiag.upsertWarning (by decide) _
  · next outcome s' _ heq =>
    rw [heq] at hdiag
    exact hdiag

theorem addWarning (h : InOrder s) {category : String} (hcategory : category∈categories)
    (message : String) : InOrder (s.addWarning category message) := by
  have hupsert := h.upsertWarning hcategory message
  unfold Store.addWarning
  split
  · next s' heq =>
    rw [heq] at hupsert
    exact hupsert.appendDiagnostic
  · next s' heq =>
    rw [heq] at hupsert
    exact hupsert

theorem clearWarning (h : InOrder s) (key : String) : InOrder (s.clearWarning key) := by
  unfold Store.clearWarning
  split
  · have hcleared : InOrder {s with warnings := withoutKey s.warnings key} :=
      Kept.sublist h List.eraseP_sublist
    exact hcleared.appendDiagnostic
  · exact h

theorem clearWarnings (h : InOrder s) (keys : List String) :
    InOrder (keys.foldl Store.clearWarning s) := by
  induction keys generalizing s with
  | nil => exact h
  | cons key keys ih => exact ih (h.clearWarning key)

theorem addWarnings (h : InOrder s) (messages : List String) :
    InOrder (messages.foldl (fun s message => s.addWarning "collector" message) s) := by
  induction messages generalizing s with
  | nil => exact h
  | cons message messages ih => exact ih (h.addWarning (by decide) message)

theorem syncCollectorWarnings (h : InOrder s) (messages : List String) :
    InOrder (s.syncCollectorWarnings messages) :=
  (h.clearWarnings _).addWarnings _

theorem retryLegacyHelperMigration (h : InOrder s) : InOrder s.retryLegacyHelperMigration := by
  have hanswer : InOrder s.legacyAnswer.2 := h.same (legacyAnswer_warnings s)
  unfold Store.retryLegacyHelperMigration
  split
  · split
    · next s' heq =>
      rw [heq] at hanswer
      exact hanswer
    · next s' heq =>
      rw [heq] at hanswer
      have hdone : InOrder {s' with legacyPending := false} := hanswer
      exact hdone.clearWarnings _
    · next error s' heq =>
      rw [heq] at hanswer
      exact hanswer.addWarning (by decide) error
  · exact h

theorem clearPersistenceWarningsIfHealthy (h : InOrder s) :
    InOrder s.clearPersistenceWarningsIfHealthy := by
  have hfirst : InOrder s.isHealthy.2 := h.same (isHealthy_warnings s)
  unfold Store.clearPersistenceWarningsIfHealthy
  split
  · next s' heq =>
    rw [heq] at hfirst
    exact hfirst
  · next s' heq =>
    rw [heq] at hfirst
    have hsecond : InOrder s'.retryLegacyHelperMigration.isHealthy.2 :=
      hfirst.retryLegacyHelperMigration.same (isHealthy_warnings _)
    split
    · next s'' heq' =>
      rw [heq'] at hsecond
      exact hsecond
    · next s'' heq' =>
      rw [heq'] at hsecond
      exact hsecond.clearWarnings _

theorem afterWrite (h : InOrder s) {succeeded : Store → Store}
    (hs : ∀ s, InOrder s → InOrder (succeeded s)) : InOrder (s.afterWrite succeeded) := by
  have hwrite : InOrder s.now.2.write.2 := h.now.same (write_warnings _)
  unfold Store.afterWrite
  split
  · next s' heq =>
    rw [heq] at hwrite
    exact (hs s' hwrite).clearPersistenceWarningsIfHealthy
  · next failure s' heq =>
    rw [heq] at hwrite
    exact hwrite.addWarning (by decide) _

theorem persistSettings (h : InOrder s) (userMutation : Bool) :
    InOrder (s.persistSettings userMutation) := by
  have hrecord : ∀ s', InOrder s' →
      InOrder (if s'.background then s' else s'.now.2.now.2.recordDiagnostic.2) := by
    intro s' hs'
    split
    · exact hs'
    · exact hs'.now.now.same (recordDiagnostic_warnings _)
  have hunblocked : InOrder {s with settingsRewriteBlocked := false} := h
  cases userMutation with
  | true => exact hunblocked.afterWrite hrecord
  | false =>
    simp only [Store.persistSettings,Bool.false_eq_true,if_false]
    split
    · exact h
    · exact h.afterWrite hrecord

theorem persistWarmCache (h : InOrder s) : InOrder s.persistWarmCache := by
  unfold Store.persistWarmCache
  split
  · exact h
  · exact h.afterWrite (fun _ hs => hs)

theorem buildSnapshot (h : InOrder s) : InOrder s.buildSnapshot := h.now

theorem publishSnapshotOnly (h : InOrder s) {warning : Option (String × String)}
    (hcategory : ∀ w, warning=some w → w.1∈categories) :
    InOrder (s.publishSnapshotOnly warning) := by
  have hnext : InOrder s.nextPublication := h
  cases warning with
  | none => exact hnext.now.buildSnapshot
  | some w => exact (hnext.addWarning (hcategory w rfl) w.2).now.buildSnapshot

theorem publishQuietly (h : InOrder s) : InOrder (s.publishSnapshotOnly none) :=
  h.publishSnapshotOnly (by simp)

theorem applyRawSample (h : InOrder s) (status : Option Bool) (sourceUnchanged : Bool)
    (warnings : List String) (completedAtMs : Nat) :
    InOrder (s.applyRawSample status sourceUnchanged warnings completedAtMs) := by
  have hstatus : InOrder (s.applyCollectorServiceStatus status) := by
    cases status with
    | none => exact h
    | some active => exact h
  have hsync := hstatus.syncCollectorWarnings warnings
  unfold Store.applyRawSample
  simp only
  split
  · exact hsync.publishQuietly
  · have hsample : InOrder {((s.applyCollectorServiceStatus status).syncCollectorWarnings
        warnings).nextPublication with
          sampleSeq := Lib.Word.satAdd ((s.applyCollectorServiceStatus status).syncCollectorWarnings
            warnings).nextPublication.sampleSeq 1
          sampledAtMs := some completedAtMs} := hsync
    split
    · exact hsample.persistWarmCache.now.buildSnapshot
    · exact hsample.now.buildSnapshot

theorem shutdownOwnedResources (h : InOrder s) : InOrder s.shutdownOwnedResources := by
  unfold Store.shutdownOwnedResources
  split
  · exact h
  · have hstart : InOrder {s with persistenceFlushed := true} := h
    have hflushed := hstart.persistSettings false
    simp only
    split
    · exact hflushed.afterWrite (fun _ hs => hs)
    · exact hflushed.persistWarmCache

theorem operation (h : InOrder s) (operation : Operation) : InOrder (operation.run s) := by
  have hcollector (message : String) (w : String × String)
      (hw : some ("collector",message)=some w) : w.1∈categories := by
    cases hw
    exact List.mem_cons_self
  cases operation with
  | setPaused => exact (h.persistSettings true).publishQuietly
  | setQuery userMutation =>
    cases userMutation with
    | true => exact (h.persistSettings true).publishQuietly
    | false => exact h.publishQuietly
  | setSampleInterval => exact (h.persistSettings true).publishQuietly
  | setUiPreferences => exact (h.persistSettings true).publishQuietly
  | publish => exact h.publishQuietly
  | applyRawSample status sourceUnchanged warnings completedAtMs =>
    exact h.applyRawSample status sourceUnchanged warnings completedAtMs
  | publishCollectorUnavailable error => exact h.publishSnapshotOnly (hcollector error)
  | markEngineFatal message => exact h.now.publishSnapshotOnly (hcollector message)
  | refreshSnapshotHealth => exact h.retryLegacyHelperMigration
  | shutdownOwnedResources => exact h.shutdownOwnedResources
  | startWriter => exact h
  | publishStore => exact h
  | publishFatalFromLatest => exact h.same (Live.now_warnings s)

theorem run (h : InOrder s) (operations : List (World × Operation)) :
    InOrder (run s operations) := by
  induction operations generalizing s with
  | nil => exact h
  | cons operation operations ih =>
    have hworld : InOrder {s with world := operation.1} := h
    exact ih (hworld.operation operation.2)

/-- Nothing at startup is the collector's. -/
theorem pushStartupWarning (h : InOrder s) {category : String} (hcategory : category∈categories)
    (hother : category≠"collector") (message : String) :
    InOrder (pushStartupWarning s category message) := by
  have hpushed : ∀ time, InOrder {s.now.2 with
      warnings := pushWarning s.now.2.warnings 0 time category message} :=
    fun time => Kept.push h.now hcategory (fun hc => absurd hc hother) 0 time
  unfold Warnings.pushStartupWarning
  simp only
  have hdiag := (hpushed s.now.1).same (recordDiagnostic_warnings _)
  split
  · next failure s' heq =>
    rw [heq] at hdiag
    split
    · exact hdiag
    · exact Kept.push hdiag (by decide) (fun hc => absurd hc (by decide)) 0 _
  · next outcome s' _ heq =>
    rw [heq] at hdiag
    exact hdiag

theorem failure (h : InOrder s) (failure : PersistenceFailure) :
    InOrder (pushStartupPersistenceFailure s failure) :=
  h.pushStartupWarning (by decide) (by decide) _

theorem startupSettings (h : InOrder s) (settings : SettingsLoad) :
    InOrder (startupSettings s settings) := by
  cases settings with
  | loaded migrated =>
    cases migrated with
    | false => exact h
    | true =>
      have hdiag : InOrder s.now.2.now.2.recordDiagnostic.2 :=
        h.now.now.same (recordDiagnostic_warnings _)
      simp only [Warnings.startupSettings]
      split
      · next failure s' heq =>
        rw [heq] at hdiag
        exact hdiag.failure failure
      · next outcome s' _ heq =>
        rw [heq] at hdiag
        exact hdiag
  | missing written =>
    cases written with
    | none => exact h.now
    | some failure => exact h.now.failure failure
  | failed failure => exact h.failure failure

theorem startupLegacy (h : InOrder s) (windows : Bool) (legacy : Except String Unit) :
    InOrder (startupLegacy windows legacy s) := by
  cases windows with
  | false => exact h
  | true =>
    cases legacy with
    | ok done => exact h.now
    | error e => exact h.now.pushStartupWarning (by decide) (by decide) e

theorem startupWarmCache (h : InOrder s) (warmCache : Except PersistenceFailure (Option Nat)) :
    InOrder (startupWarmCache s warmCache) := by
  cases warmCache with
  | ok seq => exact h
  | error failure => exact h.failure failure

theorem startup (startup : Startup) : InOrder startup.store := by
  unfold Startup.store Startup.unpublished
  simp only
  refine InOrder.buildSnapshot (InOrder.startupWarmCache (InOrder.now ?_) _)
  refine InOrder.startupLegacy (InOrder.startupSettings (InOrder.now ?_) _) _ _
  cases startup.privilegeWarning with
  | none => exact ⟨by simp,by simp [collectorEntries],by simp⟩
  | some warning =>
    refine InOrder.pushStartupWarning ?_ (by decide) (by decide) _
    exact ⟨by simp,by simp [collectorEntries],by simp⟩

end InOrder

section Sync

/-- What the storage may report as failed in the course of an operation, by key. -/
def failureKeys (world : World) : List String :=
  world.diagnostics.filterMap (fun outcome =>
    match outcome with
    | .failed failure => some (warningKey "persistence" (failureMessage failure))
    | _ => none)

/-- The messages a reconciliation goes by: those given, and the guidance for a desktop that
runs elevated. -/
def syncedMessages (s : Store) (messages : List String) : List String :=
  if s.windows ∧ s.elevated ∧ s.collectorService≠some true then
    messages++[Store.desktopElevatedMessage] else messages

def syncedKeys (s : Store) (messages : List String) : List String :=
  (syncedMessages s messages).map (warningKey "collector")

/-- Failures under keys that no warning has yet. -/
def newFailureKeys (s : Store) : List String :=
  (failureKeys s.world).dedup.filter (fun key => key∉(otherWarnings s.warnings).map (·.key))

/-- The warnings that are active in a reconciliation. -/
def activeWarnings (s : Store) (messages : List String) : Nat :=
  (otherWarnings s.warnings).length+(newFailureKeys s).length+
    (syncedKeys s messages).dedup.length

/-- A store in the middle of a reconciliation that began at `base`: the other warnings are
those there were, and those of failed diagnostics. -/
structure Syncing (base s : Store) : Prop where
  kept : Kept s.warnings
  failures : ∀ key∈failureKeys s.world, key∈failureKeys base.world
  others : ∀ key∈(otherWarnings base.warnings).map (·.key),
    key∈(otherWarnings s.warnings).map (·.key)
  count : (otherWarnings s.warnings).length ≤ (otherWarnings base.warnings).length+
    ((newFailureKeys base).filter (fun key => key∈(otherWarnings s.warnings).map (·.key))).length
  windows : s.windows=base.windows
  elevated : s.elevated=base.elevated
  service : s.collectorService=base.collectorService

variable {base s : Store}

theorem Syncing.start (hk : Kept s.warnings) : Syncing s s :=
  ⟨hk,fun _ h => h,fun _ h => h,by omega,rfl,rfl,rfl⟩

theorem Syncing.others_le (h : Syncing base s) : (otherWarnings s.warnings).length ≤
    (otherWarnings base.warnings).length+(newFailureKeys base).length := by
  have hcount := h.count
  have hfilter := List.length_filter_le
    (fun key => key∈(otherWarnings s.warnings).map (·.key)) (newFailureKeys base)
  omega

theorem length_warnings (warnings : List RuntimeWarning) : warnings.length=
    (otherWarnings warnings).length+(collectorEntries warnings).length := by
  rw [collectorEntries,List.length_map,otherWarnings]
  have hsplit := List.length_eq_length_filter_add (l := warnings) isCollector
  omega

theorem pushWarning_room {warnings : List RuntimeWarning} {category message : String}
    (hroom : warnings.length < maxWarnings) (seq time : Nat) :
    pushWarning warnings seq time category message=
      warnings++[⟨warningKey category message,seq,time,category,message⟩] := by
  simp only [pushWarning,List.length_append,List.length_singleton]
  rw [Nat.sub_eq_zero_of_le (by omega),List.drop_zero]

theorem now_frame (s : Store) : s.now.2.warnings=s.warnings ∧
    s.now.2.world.diagnostics=s.world.diagnostics ∧ s.now.2.windows=s.windows ∧
    s.now.2.elevated=s.elevated ∧ s.now.2.collectorService=s.collectorService := by
  unfold Store.now
  split <;> exact ⟨rfl,rfl,rfl,rfl,rfl⟩

theorem failureKeys_congr {w w' : World} (heq : w.diagnostics=w'.diagnostics) :
    failureKeys w=failureKeys w' := by
  rw [failureKeys,heq,failureKeys]

theorem Syncing.now (h : Syncing base s) : Syncing base s.now.2 := by
  obtain ⟨hwarnings,hdiagnostics,hwindows,helevated,hservice⟩ := now_frame s
  refine ⟨by rw [hwarnings]; exact h.kept,?_,by rw [hwarnings]; exact h.others,
    by rw [hwarnings]; exact h.count,hwindows.trans h.windows,helevated.trans h.elevated,
    hservice.trans h.service⟩
  rw [failureKeys_congr hdiagnostics]
  exact h.failures

/-- One warning in place of any of its key, under the other warnings. -/
theorem upsert_other {warnings : List RuntimeWarning} (hk : Kept warnings) {message : String}
    (hroom : warningKey "persistence" message∉(otherWarnings warnings).map (·.key) →
      warnings.length < maxWarnings) (seq time : Nat) :
    let next := pushWarning (withoutKey warnings (warningKey "persistence" message)) seq time
      "persistence" message
    collectorEntries next=collectorEntries warnings ∧
    (∀ key, key∈(otherWarnings next).map (·.key) ↔
      key=warningKey "persistence" message ∨ key∈(otherWarnings warnings).map (·.key)) ∧
    (otherWarnings next).length=(otherWarnings warnings).length+
      if warningKey "persistence" message∈(otherWarnings warnings).map (·.key) then 0 else 1 := by
  intro next
  obtain ⟨hcollector,hothers⟩ := hk.collectorEntries_withoutOther message
  have hnot : isCollector ⟨warningKey "persistence" message,seq,time,"persistence",message⟩=false :=
    rfl
  by_cases hknown : warningKey "persistence" message∈(otherWarnings warnings).map (·.key)
  · obtain ⟨w,hw,hkey⟩ := List.mem_map.1 hknown
    have hpos : (w.key==warningKey "persistence" message)=true := beq_iff_eq.2 hkey
    have hlength : (withoutKey warnings (warningKey "persistence" message)).length=
        warnings.length-1 := by
      rw [List.length_eraseP_of_mem (List.mem_of_mem_filter hw) hpos]
    have hne : 0 < warnings.length := List.length_pos_of_mem (List.mem_of_mem_filter hw)
    have hshort := hk.short
    have hnext : next=withoutKey warnings (warningKey "persistence" message)++
        [⟨warningKey "persistence" message,seq,time,"persistence",message⟩] :=
      pushWarning_room (by omega) seq time
    rw [hnext,collectorEntries_append,otherWarnings_append,hnot,hcollector,hothers]
    refine ⟨by simp,?_,?_⟩
    · intro key
      simp only [Bool.false_eq_true,if_false,List.map_append,List.map_cons,List.map_nil,
        List.mem_append,List.mem_singleton]
      constructor
      · intro hmem
        cases hmem with
        | inl hold => exact .inr ((List.eraseP_sublist.map _).subset hold)
        | inr hnew => exact .inl hnew
      · intro hmem
        by_cases heq : key=warningKey "persistence" message
        · exact .inr heq
        · obtain ⟨w',hw',hkey'⟩ := List.mem_map.1 (hmem.resolve_left heq)
          refine .inl (List.mem_map.2 ⟨w',(List.mem_eraseP_of_neg ?_).2 hw',hkey'⟩)
          rw [hkey']
          simpa using heq
    · have hpos' := List.length_pos_of_mem hw
      have herased : (withoutKey (otherWarnings warnings)
          (warningKey "persistence" message)).length=(otherWarnings warnings).length-1 :=
        List.length_eraseP_of_mem hw hpos
      simp only [Bool.false_eq_true,if_false,List.length_append,List.length_singleton,if_pos hknown]
      omega
  · have hnone : ∀ w∈warnings, ¬(w.key==warningKey "persistence" message)=true := by
      intro w hw hkey
      rw [beq_iff_eq] at hkey
      refine hknown (List.mem_map.2 ⟨w,List.mem_filter.2 ⟨hw,?_⟩,hkey⟩)
      rw [Bool.not_eq_true',Bool.eq_false_iff]
      intro hc
      rw [hk.isCollector_iff hw,hkey] at hc
      exact head_persistenceKey message hc
    have hsame : withoutKey warnings (warningKey "persistence" message)=warnings :=
      List.eraseP_of_forall_not hnone
    have hnext : next=warnings++
        [⟨warningKey "persistence" message,seq,time,"persistence",message⟩] := by
      rw [← hsame]
      simp only [next,hsame]
      exact pushWarning_room (hroom hknown) seq time
    rw [hnext,collectorEntries_append,otherWarnings_append,hnot]
    refine ⟨by simp,?_,by simp [hknown]⟩
    intro key
    simp only [Bool.false_eq_true,if_false,List.map_append,List.map_cons,List.map_nil,
      List.mem_append,List.mem_singleton]
    exact or_comm

theorem filter_length_lt {keys : List String} {p q : String → Bool}
    (himp : ∀ key∈keys, p key=true → q key=true) {key : String} (hmem : key∈keys)
    (hq : q key=true) (hp : p key=false) : (keys.filter p).length < (keys.filter q).length := by
  have hsame : (keys.filter q).filter p=keys.filter p := by
    rw [List.filter_filter]
    refine List.filter_congr ?_
    intro x hx
    cases hpx : p x with
    | false => rfl
    | true => simp [himp x hx hpx]
  rw [← hsame]
  refine List.length_filter_lt_length_iff_exists.2 ⟨key,List.mem_filter.2 ⟨hmem,hq⟩,?_⟩
  rw [hp]
  exact Bool.false_ne_true

theorem Syncing.mem_new (h : Syncing base s) {key : String} (hkey : key∈failureKeys base.world)
    (hfresh : key∉(otherWarnings s.warnings).map (·.key)) : key∈newFailureKeys base := by
  refine List.mem_filter.2 ⟨List.mem_dedup.2 hkey,decide_eq_true ?_⟩
  exact fun hold => hfresh (h.others key hold)

/-- A failure under a key of its own is one of the new ones. -/
theorem count_upsert (h : Syncing base s) {key : String} (hkey : key∈failureKeys base.world)
    {next : List RuntimeWarning}
    (hothers : ∀ key', key'∈(otherWarnings next).map (·.key) ↔
      key'=key ∨ key'∈(otherWarnings s.warnings).map (·.key))
    (hlength : (otherWarnings next).length=(otherWarnings s.warnings).length+
      if key∈(otherWarnings s.warnings).map (·.key) then 0 else 1) :
    (otherWarnings next).length ≤ (otherWarnings base.warnings).length+
      ((newFailureKeys base).filter
        (fun key => key∈(otherWarnings next).map (·.key))).length := by
  have hcount := h.count
  have himp : ∀ key', decide (key'∈(otherWarnings s.warnings).map (·.key))=true →
      decide (key'∈(otherWarnings next).map (·.key))=true := by
    intro key' hmem
    exact decide_eq_true ((hothers key').2 (.inr (of_decide_eq_true hmem)))
  by_cases hold : key∈(otherWarnings s.warnings).map (·.key)
  · rw [if_pos hold] at hlength
    have hmono := (List.monotone_filter_right (newFailureKeys base) himp).length_le
    omega
  · rw [if_neg hold] at hlength
    have hgrown := filter_length_lt (fun key' _ => himp key') (h.mem_new hkey hold)
      (decide_eq_true ((hothers key).2 (.inl rfl))) (decide_eq_false hold)
    omega

theorem Syncing.upsertOther (h : Syncing base s) {message : String}
    (hkey : warningKey "persistence" message∈failureKeys base.world)
    (hroom : warningKey "persistence" message∉(otherWarnings s.warnings).map (·.key) →
      s.warnings.length < maxWarnings) :
    Syncing base (s.upsertWarning "persistence" message).2 ∧
      collectorEntries (s.upsertWarning "persistence" message).2.warnings=
        collectorEntries s.warnings := by
  have hnow := h.now
  obtain ⟨hwarnings,_⟩ := now_frame s
  unfold Store.upsertWarning
  simp only
  split
  · exact ⟨h,rfl⟩
  · rw [hwarnings]
    obtain ⟨hcollector,hothers,hlength⟩ :=
      upsert_other h.kept hroom s.now.2.publicationSeq s.now.1
    refine ⟨⟨h.kept.upsert (by decide) _ _,hnow.failures,?_,?_,hnow.windows,hnow.elevated,
      hnow.service⟩,hcollector⟩
    · intro key hmem
      exact (hothers key).2 (.inr (h.others key hmem))
    · exact count_upsert h hkey hothers hlength

theorem recordDiagnostic_cases (s : Store) :
    (s.world.diagnostics=[] ∧ s.recordDiagnostic=(.suppressed,s)) ∨
    ∃ outcome rest, s.world.diagnostics=outcome::rest ∧ s.recordDiagnostic=
      (outcome,{s with world := {s.world with diagnostics := rest}}) := by
  unfold Store.recordDiagnostic
  split
  · next hnil => exact .inl ⟨hnil,rfl⟩
  · next outcome rest hcons => exact .inr ⟨outcome,rest,hcons,rfl⟩

/-- A diagnostic changes nothing of the collector's warnings as long as its failure finds
room. -/
theorem Syncing.appendDiagnostic (h : Syncing base s)
    (hroom : ∀ key∈failureKeys base.world, key∉(otherWarnings s.warnings).map (·.key) →
      s.warnings.length < maxWarnings) :
    Syncing base s.appendDiagnostic ∧
      collectorEntries s.appendDiagnostic.warnings=collectorEntries s.warnings := by
  have hnow := h.now.now
  have hwarnings : s.now.2.now.2.warnings=s.warnings :=
    (now_frame s.now.2).1.trans (now_frame s).1
  unfold Store.appendDiagnostic
  simp only
  cases recordDiagnostic_cases s.now.2.now.2 with
  | inl hnone =>
    rw [hnone.2]
    exact ⟨hnow,by rw [hwarnings]⟩
  | inr hsome =>
    obtain ⟨outcome,rest,hdiagnostics,heq⟩ := hsome
    rw [heq]
    have htaken : Syncing base {s.now.2.now.2 with
        world := {s.now.2.now.2.world with diagnostics := rest}} := by
      refine ⟨hnow.kept,?_,hnow.others,hnow.count,hnow.windows,hnow.elevated,hnow.service⟩
      intro key hkey
      refine hnow.failures key ?_
      rw [failureKeys,hdiagnostics]
      exact List.Sublist.subset (List.Sublist.filterMap _ (List.sublist_cons_self _ _)) hkey
    cases outcome with
    | failed failure =>
      have hkey : warningKey "persistence" (failureMessage failure)∈failureKeys base.world := by
        refine hnow.failures _ ?_
        rw [failureKeys,hdiagnostics]
        exact List.mem_filterMap.2 ⟨_,List.mem_cons_self,rfl⟩
      rw [← hwarnings] at hroom ⊢
      exact htaken.upsertOther hkey (hroom _ hkey)
    | _ => exact ⟨htaken,by rw [← hwarnings]⟩

/-- Clearing a warning of the collector makes the room that its diagnostic may need. -/
theorem Syncing.clearWarning (h : Syncing base s) (message : String) :
    Syncing base (s.clearWarning (warningKey "collector" message)) ∧
      collectorEntries (s.clearWarning (warningKey "collector" message)).warnings=
        (collectorEntries s.warnings).eraseP (fun e => e.1==warningKey "collector" message) := by
  obtain ⟨hcollector,hothers⟩ := h.kept.collectorEntries_withoutKey message
  unfold Store.clearWarning
  split
  · next hany =>
    obtain ⟨w,hw,hkey⟩ := List.any_eq_true.1 hany
    have hcleared : Syncing base {s with
        warnings := withoutKey s.warnings (warningKey "collector" message)} := by
      refine ⟨h.kept.sublist List.eraseP_sublist,h.failures,?_,?_,h.windows,h.elevated,h.service⟩
      · rw [hothers]
        exact h.others
      · rw [hothers]
        exact h.count
    have hlength : (withoutKey s.warnings (warningKey "collector" message)).length=
        s.warnings.length-1 := List.length_eraseP_of_mem hw hkey
    have hshort := h.kept.short
    have hpos := List.length_pos_of_mem hw
    obtain ⟨hsynced,hsame⟩ := hcleared.appendDiagnostic (fun _ _ _ => by
      change (withoutKey s.warnings (warningKey "collector" message)).length < maxWarnings
      omega)
    exact ⟨hsynced,hsame.trans hcollector⟩
  · next hnone =>
    refine ⟨h,?_⟩
    rw [List.eraseP_of_forall_not]
    intro e he hkey
    obtain ⟨w,hw,rfl⟩ := List.mem_map.1 he
    exact hnone (List.any_eq_true.2 ⟨w,List.mem_of_mem_filter hw,hkey⟩)

/-- The collector's warnings under keys of the messages leave room for what is active. -/
theorem length_entries_le {entries : List (String × String)} {keys : List String}
    (hnodup : (entries.map (·.1)).Nodup) (hin : ∀ e∈entries, e.1∈keys) :
    entries.length ≤ keys.dedup.length := by
  have hsub : entries.map (·.1) ⊆ keys.dedup := by
    intro key hkey
    obtain ⟨e,he,rfl⟩ := List.mem_map.1 hkey
    exact List.mem_dedup.2 (hin e he)
  have hle := (List.subperm_of_subset hnodup hsub).length_le
  rwa [List.length_map] at hle

theorem Syncing.room (h : Syncing base s) {keys : List String}
    (hbound : (otherWarnings base.warnings).length+(newFailureKeys base).length+
      keys.dedup.length ≤ maxWarnings) (hin : ∀ e∈collectorEntries s.warnings, e.1∈keys) :
    ∀ key∈failureKeys base.world, key∉(otherWarnings s.warnings).map (·.key) →
      s.warnings.length < maxWarnings := by
  intro key hkey hfresh
  have hentries := length_entries_le h.kept.distinct hin
  have hcount := h.count
  have hless : ((newFailureKeys base).filter
      (fun key => key∈(otherWarnings s.warnings).map (·.key))).length <
        (newFailureKeys base).length :=
    List.length_filter_lt_length_iff_exists.2 ⟨key,h.mem_new hkey hfresh,by simpa using hfresh⟩
  rw [length_warnings]
  omega

/-- Whether a message stands under its key. -/
def present (s : Store) (message : String) : Bool :=
  s.warnings.any (fun warning =>
    warning.key==warningKey "collector" message && warning.message==message)

theorem present_iff (hk : Kept s.warnings) (message : String) : present s message=true ↔
    (warningKey "collector" message,message)∈collectorEntries s.warnings := by
  rw [present,List.any_eq_true,collectorEntries,List.mem_map]
  constructor
  · intro hany
    obtain ⟨w,hw,heq⟩ := hany
    rw [Bool.and_eq_true,beq_iff_eq,beq_iff_eq] at heq
    refine ⟨w,List.mem_filter.2 ⟨hw,?_⟩,by rw [heq.1,heq.2]⟩
    rw [hk.isCollector_iff hw,heq.1]
    exact head_collectorKey message
  · intro hmem
    obtain ⟨w,hw,heq⟩ := hmem
    rw [Prod.mk.injEq] at heq
    refine ⟨w,List.mem_of_mem_filter hw,?_⟩
    rw [Bool.and_eq_true,beq_iff_eq,beq_iff_eq]
    exact heq

theorem addWarning_present {message : String} (hpresent : present s message=true) :
    s.addWarning "collector" message=s := by
  unfold Store.addWarning Store.upsertWarning
  unfold present at hpresent
  simp only [hpresent,if_true]

/-- The store with a message pushed under its key. -/
def replaced (s : Store) (message : String) : Store :=
  { s.now.2 with
    warnings := pushWarning (withoutKey s.warnings (warningKey "collector" message))
      s.now.2.publicationSeq s.now.1 "collector" message }

theorem addWarning_absent {message : String} (habsent : present s message=false) :
    s.addWarning "collector" message=(replaced s message).appendDiagnostic := by
  unfold Store.addWarning Store.upsertWarning
  unfold present at habsent
  simp only [habsent,Bool.false_eq_true,if_false,(now_frame s).1,replaced]

theorem eq_of_mem_of_nodup {entries : List (String × String)} (hnodup : (entries.map (·.1)).Nodup)
    {key x y : String} (hx : (key,x)∈entries) (hy : (key,y)∈entries) : x=y := by
  have heq := List.inj_on_of_nodup_map hnodup hx hy rfl
  exact congrArg Prod.snd heq

theorem mem_eraseP_entries {entries : List (String × String)}
    (hnodup : (entries.map (·.1)).Nodup) {key k x : String} :
    (k,x)∈entries.eraseP (fun e => e.1==key) ↔ k≠key ∧ (k,x)∈entries := by
  constructor
  · intro hmem
    refine ⟨?_,List.mem_of_mem_eraseP hmem⟩
    intro heq
    exact notMem_eraseP_of_nodup hnodup key (List.mem_map.2 ⟨(k,x),hmem,heq⟩)
  · intro hmem
    refine (List.mem_eraseP_of_neg ?_).2 hmem.2
    simpa using hmem.1

/-- A message takes the place of whatever stood under its key. -/
theorem Syncing.addWarning (h : Syncing base s) {keys : List String}
    (hbound : (otherWarnings base.warnings).length+(newFailureKeys base).length+
      keys.dedup.length ≤ maxWarnings) (hin : ∀ e∈collectorEntries s.warnings, e.1∈keys)
    {message : String} (hmessage : warningKey "collector" message∈keys) :
    Syncing base (s.addWarning "collector" message) ∧
    (∀ e∈collectorEntries (s.addWarning "collector" message).warnings, e.1∈keys) ∧
    ∀ k x, (k,x)∈collectorEntries (s.addWarning "collector" message).warnings ↔
      (k=warningKey "collector" message ∧ x=message) ∨
      (k≠warningKey "collector" message ∧ (k,x)∈collectorEntries s.warnings) := by
  cases hpresent : present s message with
  | true =>
    rw [addWarning_present hpresent]
    rw [present_iff h.kept] at hpresent
    refine ⟨h,hin,?_⟩
    intro k x
    by_cases hk : k=warningKey "collector" message
    · subst hk
      simp only [true_and,ne_eq,not_true,false_and,or_false]
      constructor
      · exact fun hx => eq_of_mem_of_nodup h.kept.distinct hx hpresent
      · intro hx
        rw [hx]
        exact hpresent
    · simp [hk]
  | false =>
    rw [addWarning_absent hpresent]
    obtain ⟨hcollector,hothers⟩ := h.kept.collectorEntries_withoutKey message
    have herased := notMem_eraseP_of_nodup h.kept.distinct (warningKey "collector" message)
    have hentries : (((collectorEntries s.warnings).eraseP
        (fun e => e.1==warningKey "collector" message))++
          [(warningKey "collector" message,message)]).length ≤ keys.dedup.length := by
      refine length_entries_le ?_ ?_
      · rw [List.map_append,List.nodup_append]
        refine ⟨h.kept.distinct.sublist (List.eraseP_sublist.map _),by simp,?_⟩
        intro a ha b hb hab
        rw [List.map_singleton,List.mem_singleton] at hb
        rw [hab,hb] at ha
        exact herased ha
      · intro e he
        rw [List.mem_append,List.mem_singleton] at he
        cases he with
        | inl hold => exact hin e (List.mem_of_mem_eraseP hold)
        | inr hnew =>
          rw [hnew]
          exact hmessage
    rw [List.length_append,List.length_singleton] at hentries
    have hroom : (withoutKey s.warnings (warningKey "collector" message)).length < maxWarnings := by
      have hle := h.others_le
      rw [length_warnings,hcollector,hothers]
      omega
    have hnow := h.now
    have hwarnings : (replaced s message).warnings=
        withoutKey s.warnings (warningKey "collector" message)++
          [⟨warningKey "collector" message,s.now.2.publicationSeq,s.now.1,"collector",message⟩] :=
      pushWarning_room hroom _ _
    have hall : collectorEntries (replaced s message).warnings=((collectorEntries s.warnings).eraseP
        (fun e => e.1==warningKey "collector" message))++
          [(warningKey "collector" message,message)] := by
      rw [hwarnings,collectorEntries_append,hcollector]
      rfl
    have hrest : otherWarnings (replaced s message).warnings=otherWarnings s.warnings := by
      rw [hwarnings,otherWarnings_append,hothers]
      exact List.append_nil _
    have hsynced : Syncing base (replaced s message) := by
      refine ⟨h.kept.upsert (by decide) _ _,hnow.failures,?_,?_,hnow.windows,hnow.elevated,
        hnow.service⟩
      · rw [hrest]
        exact h.others
      · rw [hrest]
        exact h.count
    have hin' : ∀ e∈collectorEntries (replaced s message).warnings, e.1∈keys := by
      intro e he
      rw [hall,List.mem_append,List.mem_singleton] at he
      cases he with
      | inl hold => exact hin e (List.mem_of_mem_eraseP hold)
      | inr hnew =>
        rw [hnew]
        exact hmessage
    obtain ⟨hdone,hsame⟩ := hsynced.appendDiagnostic (hsynced.room hbound hin')
    refine ⟨hdone,by rw [hsame]; exact hin',?_⟩
    intro k x
    rw [hsame,hall,List.mem_append,List.mem_singleton,mem_eraseP_entries h.kept.distinct,
      Prod.mk.injEq]
    exact or_comm

theorem Syncing.clearWarnings (h : Syncing base s) {stale : List String}
    (hstale : ∀ key∈stale, ∃ message, key=warningKey "collector" message) :
    Syncing base (stale.foldl Store.clearWarning s) ∧
    ∀ k x, (k,x)∈collectorEntries (stale.foldl Store.clearWarning s).warnings ↔
      k∉stale ∧ (k,x)∈collectorEntries s.warnings := by
  induction stale generalizing s with
  | nil => simp [h]
  | cons key stale ih =>
    obtain ⟨message,rfl⟩ := hstale key List.mem_cons_self
    obtain ⟨hcleared,hentries⟩ := h.clearWarning message
    obtain ⟨hdone,hmem⟩ :=
      ih hcleared (fun key' hkey' => hstale key' (List.mem_cons_of_mem _ hkey'))
    refine ⟨hdone,?_⟩
    intro k x
    rw [List.foldl_cons,hmem,hentries,mem_eraseP_entries h.kept.distinct,List.mem_cons,not_or]
    constructor
    · exact fun hk => ⟨⟨hk.2.1,hk.1⟩,hk.2.2⟩
    · exact fun hk => ⟨hk.1.2,hk.1.1,hk.2⟩

/-- The last of the messages that come under a key. -/
def latest (messages : List String) (key : String) : Option String :=
  (messages.filter (fun message => warningKey "collector" message==key)).getLast?

theorem latest_cons (message : String) (messages : List String) (key : String) :
    latest (message::messages) key=(latest messages key).or
      (if warningKey "collector" message=key then some message else none) := by
  unfold latest
  by_cases hkey : warningKey "collector" message=key
  · rw [List.filter_cons_of_pos (by simpa using hkey),List.getLast?_cons,if_pos hkey]
    cases (messages.filter (fun message => warningKey "collector" message==key)).getLast? <;> rfl
  · rw [List.filter_cons_of_neg (by simpa using hkey),if_neg hkey,Option.or_none]

theorem latest_eq_none {messages : List String} {key : String} :
    latest messages key=none ↔ key∉messages.map (warningKey "collector") := by
  rw [latest,List.getLast?_eq_none_iff,List.filter_eq_nil_iff,List.mem_map]
  constructor
  · intro hnone hex
    obtain ⟨message,hmem,heq⟩ := hex
    exact hnone message hmem (beq_iff_eq.2 heq)
  · intro hnot message hmem heq
    exact hnot ⟨message,hmem,beq_iff_eq.1 heq⟩

/-- Of each key the latest message stands; the keys that do not come are left alone. -/
theorem Syncing.addWarnings (h : Syncing base s) {keys : List String}
    (hbound : (otherWarnings base.warnings).length+(newFailureKeys base).length+
      keys.dedup.length ≤ maxWarnings) (hin : ∀ e∈collectorEntries s.warnings, e.1∈keys)
    {messages : List String} (hmessages : ∀ message∈messages, warningKey "collector" message∈keys) :
    Syncing base (messages.foldl (fun s message => s.addWarning "collector" message) s) ∧
    ∀ k x, (k,x)∈collectorEntries
        (messages.foldl (fun s message => s.addWarning "collector" message) s).warnings ↔
      latest messages k=some x ∨ (latest messages k=none ∧ (k,x)∈collectorEntries s.warnings) := by
  induction messages generalizing s with
  | nil => simp [h,latest]
  | cons message messages ih =>
    obtain ⟨hadded,hin',hmem'⟩ := h.addWarning hbound hin (hmessages message List.mem_cons_self)
    obtain ⟨hdone,hmem⟩ := ih hadded hin'
      (fun m hm => hmessages m (List.mem_cons_of_mem message hm))
    refine ⟨hdone,?_⟩
    intro k x
    rw [List.foldl_cons,hmem,hmem',latest_cons]
    cases hlatest : latest messages k with
    | some y => simp
    | none =>
      by_cases hkey : warningKey "collector" message=k
      · simp [hkey,eq_comm]
      · simp [hkey,Ne.symm hkey]

/-- The collector's warnings are the latest of the messages under each key. -/
def CollectorSet (s : Store) (messages : List String) : Prop :=
  ((collectorEntries s.warnings).map (·.1)).Nodup ∧
    ∀ key message, (key,message)∈collectorEntries s.warnings ↔
      latest (syncedMessages s messages) key=some message

/-- Whatever the clock and the storage would answer, a reconciliation asks neither and leaves
the store as it is. -/
def SyncsQuietly (s : Store) (messages : List String) : Prop :=
  ∀ world, Store.syncCollectorWarnings { s with world := world } messages={ s with world := world }

/-- No two of the messages come under one key. -/
def OneEach (messages : List String) : Prop :=
  ∀ m∈messages, ∀ m'∈messages, warningKey "collector" m=warningKey "collector" m' → m=m'

theorem sync_collectorSet (hk : InOrder s) {messages : List String}
    (hactive : activeWarnings s messages ≤ maxWarnings) :
    CollectorSet (s.syncCollectorWarnings messages) messages ∧
      syncedMessages (s.syncCollectorWarnings messages) messages=syncedMessages s messages := by
  have hstale : ∀ key∈(s.warnings.filter (fun warning => warning.category=="collector" &&
      !(syncedKeys s messages).contains warning.key)).map RuntimeWarning.key,
      ∃ message, key=warningKey "collector" message := by
    intro key hkey
    obtain ⟨w,hw,rfl⟩ := List.mem_map.1 hkey
    rw [List.mem_filter,Bool.and_eq_true,beq_iff_eq] at hw
    refine ⟨w.message,?_⟩
    rw [(hk.keyed w hw.1).2,hw.2.1]
  obtain ⟨hcleared,hmem⟩ := (Syncing.start hk).clearWarnings hstale
  -- what is left of the collector's is under a key of the messages
  have hleft : ∀ k x, (k,x)∈collectorEntries s.warnings →
      k∉(s.warnings.filter (fun warning => warning.category=="collector" &&
        !(syncedKeys s messages).contains warning.key)).map RuntimeWarning.key →
      k∈syncedKeys s messages := by
    intro k x hentry hnot
    obtain ⟨w,hw,heq⟩ := List.mem_map.1 hentry
    rw [Prod.mk.injEq] at heq
    by_contra hout
    refine hnot (List.mem_map.2 ⟨w,List.mem_filter.2 ⟨List.mem_of_mem_filter hw,?_⟩,heq.1⟩)
    rw [Bool.and_eq_true]
    refine ⟨(List.mem_filter.1 hw).2,?_⟩
    rw [heq.1]
    simpa using hout
  have hin : ∀ e∈collectorEntries
      ((s.warnings.filter (fun warning => warning.category=="collector" &&
      !(syncedKeys s messages).contains warning.key)).map RuntimeWarning.key |>.foldl
        Store.clearWarning s).warnings, e.1∈syncedKeys s messages := by
    intro e he
    obtain ⟨hnot,hentry⟩ := (hmem e.1 e.2).1 he
    exact hleft e.1 e.2 hentry hnot
  obtain ⟨hdone,hfinal⟩ := hcleared.addWarnings hactive hin
    (fun message hm => List.mem_map_of_mem hm)
  change Syncing s (s.syncCollectorWarnings messages) at hdone
  have hmessages : syncedMessages (s.syncCollectorWarnings messages) messages=
      syncedMessages s messages := by
    unfold syncedMessages
    rw [hdone.windows,hdone.elevated,hdone.service]
  refine ⟨⟨hdone.kept.distinct,?_⟩,hmessages⟩
  intro key message
  rw [hmessages]
  refine (hfinal key message).trans ?_
  constructor
  · intro hcases
    cases hcases with
    | inl hlatest => exact hlatest
    | inr hnone =>
      exfalso
      obtain ⟨hnot,hentry⟩ := (hmem key message).1 hnone.2
      exact latest_eq_none.1 hnone.1 (hleft key message hentry hnot)
  · exact .inl

/-- A second reconciliation finds each message where it stands. -/
theorem sync_quiet (hk : InOrder s) {messages : List String} (hset : CollectorSet s messages)
    (hone : OneEach (syncedMessages s messages)) : SyncsQuietly s messages := by
  intro world
  have hpresent : ∀ message∈syncedMessages s messages,
      present { s with world := world } message=true := by
    intro message hmem
    refine (present_iff hk message).2 ((hset.2 _ _).2 ?_)
    cases hlatest : latest (syncedMessages s messages) (warningKey "collector" message) with
    | none => exact absurd (List.mem_map_of_mem hmem) (latest_eq_none.1 hlatest)
    | some other =>
      have hother := List.mem_filter.1 (List.mem_of_getLast? hlatest)
      rw [hone other hother.1 message hmem (beq_iff_eq.1 hother.2)]
  have hstale : s.warnings.filter (fun warning => warning.category=="collector" &&
      !(syncedKeys s messages).contains warning.key)=[] := by
    rw [List.filter_eq_nil_iff]
    intro w hw hcond
    rw [Bool.and_eq_true,Bool.not_eq_true'] at hcond
    have hentry : (w.key,w.message)∈collectorEntries s.warnings :=
      List.mem_map.2 ⟨w,List.mem_filter.2 ⟨hw,hcond.1⟩,rfl⟩
    have hin : w.key∈syncedKeys s messages := by
      by_contra hout
      have hnone := latest_eq_none.2 hout
      rw [(hset.2 _ _).1 hentry] at hnone
      cases hnone
    rw [List.contains_iff_mem.2 hin] at hcond
    cases hcond.2
  have hsync : Store.syncCollectorWarnings { s with world := world } messages=
      (syncedMessages s messages).foldl (fun s message => s.addWarning "collector" message)
        (((s.warnings.filter (fun warning => warning.category=="collector" &&
          !(syncedKeys s messages).contains warning.key)).map RuntimeWarning.key).foldl
            Store.clearWarning { s with world := world }) := rfl
  rw [hsync,hstale,List.map_nil,List.foldl_nil]
  generalize syncedMessages s messages=list at hpresent
  induction list with
  | nil => rfl
  | cons message list ih =>
    rw [List.foldl_cons,addWarning_present (hpresent message List.mem_cons_self)]
    exact ih (fun m hm => hpresent m (List.mem_cons_of_mem message hm))

theorem upsertWarning_diagnostics (s : Store) (category message : String) :
    (s.upsertWarning category message).2.world.diagnostics=s.world.diagnostics := by
  unfold Store.upsertWarning
  simp only
  split
  · rfl
  · exact (now_frame s).2.1

/-- Every diagnostic takes an answer of the storage. -/
theorem appendDiagnostic_diagnostics (s : Store) :
    s.appendDiagnostic.world.diagnostics=s.world.diagnostics.drop 1 := by
  have hsame : s.now.2.now.2.world.diagnostics=s.world.diagnostics :=
    (now_frame s.now.2).2.1.trans (now_frame s).2.1
  unfold Store.appendDiagnostic
  simp only
  cases recordDiagnostic_cases s.now.2.now.2 with
  | inl hnone =>
    rw [hnone.2]
    rw [hsame] at hnone
    simp only [hsame,hnone.1,List.drop_nil]
  | inr hsome =>
    obtain ⟨outcome,rest,hdiagnostics,heq⟩ := hsome
    rw [heq]
    rw [hsame] at hdiagnostics
    rw [hdiagnostics]
    cases outcome with
    | failed failure => exact upsertWarning_diagnostics _ _ _
    | _ => rfl

theorem clearWarnings_diagnostics (stale : List String) (s : Store) :
    (stale.foldl Store.clearWarning s).world.diagnostics.length ≤ s.world.diagnostics.length := by
  induction stale generalizing s with
  | nil => exact Nat.le_refl _
  | cons key stale ih =>
    refine (ih _).trans ?_
    unfold Store.clearWarning
    split
    · rw [appendDiagnostic_diagnostics,List.length_drop]
      exact Nat.sub_le _ _
    · exact Nat.le_refl _

theorem addWarning_diagnostics (s : Store) (message : String) :
    (s.addWarning "collector" message).world.diagnostics=
      if present s message then s.world.diagnostics else s.world.diagnostics.drop 1 := by
  cases hpresent : present s message with
  | true =>
    rw [addWarning_present hpresent]
    rfl
  | false =>
    rw [addWarning_absent hpresent,appendDiagnostic_diagnostics,replaced,(now_frame s).2.1]
    rfl

theorem addWarnings_diagnostics (messages : List String) (s : Store) :
    (messages.foldl
      (fun s message => s.addWarning "collector" message) s).world.diagnostics.length ≤
      s.world.diagnostics.length := by
  induction messages generalizing s with
  | nil => exact Nat.le_refl _
  | cons message messages ih =>
    refine (ih _).trans ?_
    rw [addWarning_diagnostics]
    split
    · exact Nat.le_refl _
    · rw [List.length_drop]
      exact Nat.sub_le _ _

/-- Where no answer of the storage is taken, every message stood there before. -/
theorem present_of_quiet {messages : List String} {s : Store}
    (hsome : 0 < s.world.diagnostics.length)
    (hquiet : s.world.diagnostics.length ≤ (messages.foldl (fun s message =>
      s.addWarning "collector" message) s).world.diagnostics.length) :
    ∀ message∈messages, present s message=true := by
  induction messages with
  | nil => simp
  | cons message messages ih =>
    rw [List.foldl_cons] at hquiet
    have hpresent : present s message=true := by
      by_contra habsent
      rw [Bool.not_eq_true] at habsent
      have hless := addWarnings_diagnostics messages (s.addWarning "collector" message)
      rw [addWarning_diagnostics,habsent,if_neg Bool.false_ne_true,List.length_drop] at hless
      omega
    rw [addWarning_present hpresent] at hquiet
    rw [List.forall_mem_cons]
    exact ⟨hpresent,ih hquiet⟩

theorem oneEach_of_quiet (hk : InOrder s) {messages : List String}
    (hquiet : SyncsQuietly s messages) : OneEach (syncedMessages s messages) := by
  have hsame := hquiet { diagnostics := [.suppressed] }
  generalize hs : ({ s with world := { diagnostics := [.suppressed] } } : Store)=s' at hsame
  have hk' : InOrder s' := by
    rw [← hs]
    exact hk
  have hone : s'.world.diagnostics.length=1 := by
    rw [← hs]
    rfl
  have hmessages : syncedMessages s' messages=syncedMessages s messages := by
    rw [← hs]
    rfl
  generalize hcleared : (((s'.warnings.filter (fun warning => warning.category=="collector" &&
    !(syncedKeys s' messages).contains warning.key)).map RuntimeWarning.key).foldl
      Store.clearWarning s')=cleared
  have hsync : (syncedMessages s' messages).foldl (fun s message =>
      s.addWarning "collector" message) cleared=s' := by
    rw [← hcleared]
    exact hsame
  have hkept : InOrder cleared := by
    rw [← hcleared]
    exact hk'.clearWarnings _
  have hcleared_le : cleared.world.diagnostics.length ≤ 1 := by
    rw [← hcleared,← hone]
    exact clearWarnings_diagnostics _ s'
  have hle := addWarnings_diagnostics (syncedMessages s' messages) cleared
  rw [hsync,hone] at hle
  have hpresent : ∀ message∈syncedMessages s' messages, present cleared message=true := by
    refine present_of_quiet hle ?_
    rw [hsync,hone]
    exact hcleared_le
  rw [hmessages] at hpresent
  intro m hm m' hm' hkey
  have hentry := (present_iff hkept m).1 (hpresent m hm)
  have hentry' := (present_iff hkept m').1 (hpresent m' hm')
  rw [← hkey] at hentry'
  exact eq_of_mem_of_nodup hkept.distinct hentry hentry'

end Sync

/-- A store that has run, before an operation that meets this world. -/
def reached (startup : Startup) (operations : List (World × Operation)) (world : World) : Store :=
  { run startup.store operations with world := world }

/-- In every state of the store, and as long as there is room for what is active, a
reconciliation leaves the latest message of each key. The same again has nothing to do exactly
if no two different messages come under one key. -/
theorem sync_collector_warnings_iff (startup : Startup) (operations : List (World × Operation))
    (world : World) (messages : List String)
    (hactive : activeWarnings (reached startup operations world) messages ≤ maxWarnings) :
    (CollectorSet ((reached startup operations world).syncCollectorWarnings messages) messages ∧
      SyncsQuietly ((reached startup operations world).syncCollectorWarnings messages) messages) ↔
    OneEach (syncedMessages (reached startup operations world) messages) := by
  have hk : InOrder (reached startup operations world) := (InOrder.startup startup).run operations
  have hk' := hk.syncCollectorWarnings messages
  obtain ⟨hset,hmessages⟩ := sync_collectorSet hk hactive
  rw [← hmessages]
  constructor
  · exact fun hboth => oneEach_of_quiet hk' hboth.2
  · exact fun hone => ⟨hset,sync_quiet hk' hset hone⟩

namespace TwoReports

/-- A first start without anything to report. -/
def startup : Startup where
  windows := false
  elevated := false
  clock := 1000
  world := {}
  privilegeWarning := none
  settings := .loaded false
  legacy := .ok ()
  warmCache := .ok none

/-- Two reports of one sample under one key. -/
def messages : List String := ["native_disk_failed: access denied","native_disk_failed: busy"]

/-- A start on Windows that could not take the legacy helper away. -/
def troubled : Startup :=
  { startup with
    windows := true
    legacy := .error "legacy_helper_migration_failed: access denied" }

/-- A sample with a report of its processors and one of its disks. -/
def reported : List (World × Operation) :=
  [({},.applyRawSample none false
    ["native_cpu_failed: no counters","native_disk_failed: access denied"] 2000)]

/-- The processors are back, the disks have another fault and the network fails too. -/
def changed : List String := ["native_disk_failed: busy","native_network_failed: timed out"]

end TwoReports

open TwoReports in
theorem changed_reports_are_quiet :
    (reached troubled reported {}).warnings.map RuntimeWarning.message=
      ["legacy_helper_migration_failed: access denied","native_cpu_failed: no counters",
        "native_disk_failed: access denied"] ∧
    activeWarnings (reached troubled reported {}) changed ≤ maxWarnings ∧
    CollectorSet ((reached troubled reported {}).syncCollectorWarnings changed) changed ∧
    SyncsQuietly ((reached troubled reported {}).syncCollectorWarnings changed) changed := by
  have hactive : activeWarnings (reached troubled reported {}) changed ≤ maxWarnings := by decide
  have hmessages : syncedMessages (reached troubled reported {}) changed=changed := by decide
  have hone : ∀ m∈changed, ∀ m'∈changed,
      warningKey "collector" m=warningKey "collector" m' → m=m' := by
    decide
  refine ⟨by decide,hactive,
    (sync_collector_warnings_iff troubled reported {} changed hactive).2 ?_⟩
  rw [hmessages]
  exact hone

open TwoReports in
/-- The two replace each other at every reconciliation, each time with a diagnostic. -/
theorem two_reports_churn :
    activeWarnings (reached startup [] {}) messages ≤ maxWarnings ∧
    ¬SyncsQuietly ((reached startup [] {}).syncCollectorWarnings messages) messages := by
  refine ⟨by decide,?_⟩
  intro hquiet
  have hsame := congrArg (fun s => s.world.diagnostics.length)
    (hquiet { diagnostics := [.suppressed,.suppressed] })
  revert hsame
  decide

end BatCave.RuntimeStore.Warnings
