import BatCave.RuntimeStore.Warnings
import Mathlib.Data.List.Nodup

/-! Keys of warnings: no operation of a running store gives two warnings one key, so the
published warnings are valid whenever the startup's are. -/
namespace BatCave.RuntimeStore.Warnings
open BatCave.Persistence BatCave.Lib.Text BatCave.Lib.Word BatCave.Protocol

/-- A warning that is fit for a publication of this number and time, or a later one. -/
structure WarningOk (seq t : Nat) (warning : RuntimeWarning) : Prop where
  seq : warning.publicationSeq ≤ seq
  time : warning.occurredAtMs ≤ t
  key : trim warning.key≠""
  category : trim warning.category≠""
  message : trim warning.message≠""

structure ListOk (seq t : Nat) (warnings : List RuntimeWarning) : Prop where
  each : ∀ warning∈warnings, WarningOk seq t warning
  length : warnings.length ≤ maxWarnings
  nodup : (warnings.map RuntimeWarning.key).Nodup

section Lists
variable {seq t : Nat} {warnings : List RuntimeWarning} {category message : String}

theorem WarningOk.mono {warning : RuntimeWarning} (h : WarningOk seq t warning) {seq' t' : Nat}
    (hseq : seq ≤ seq') (ht : t ≤ t') : WarningOk seq' t' warning :=
  ⟨h.seq.trans hseq,h.time.trans ht,h.key,h.category,h.message⟩

theorem ListOk.mono (h : ListOk seq t warnings) {seq' t' : Nat} (hseq : seq ≤ seq')
    (ht : t ≤ t') : ListOk seq' t' warnings :=
  ⟨fun warning hw => (h.each warning hw).mono hseq ht,h.length,h.nodup⟩

theorem ListOk.sublist (h : ListOk seq t warnings) {kept : List RuntimeWarning}
    (hk : kept.Sublist warnings) : ListOk seq t kept :=
  ⟨fun warning hw => h.each warning (hk.subset hw),hk.length_le.trans h.length,
    h.nodup.sublist (hk.map _)⟩

theorem warningKey_ne_blank : trim (warningKey category message)≠"" := by
  simp only [warningKey]
  split
  · decide
  · split
    · decide
    · have hdot : '.'∈".".toList := by decide
      refine trim_ne_empty (c:= '.') ?_ (by decide)
      rw [String.toList_append,String.toList_append]
      exact List.mem_append_left _ (List.mem_append_right _ hdot)

/-- A push of a fresh key; the oldest warnings may leave. -/
theorem pushWarning_ok (h : ListOk seq t warnings) {at' seq' : Nat} (hseq : seq' ≤ seq)
    (hat : at' ≤ t) (hc : trim category≠"") (hm : trim message≠"")
    (hkey : warningKey category message∉warnings.map RuntimeWarning.key) :
    ListOk seq t (pushWarning warnings seq' at' category message) := by
  simp only [pushWarning]
  refine ⟨?_,?_,?_⟩
  · intro warning hw
    have hmem := List.mem_of_mem_drop hw
    rw [List.mem_append,List.mem_singleton] at hmem
    cases hmem with
    | inl hold => exact h.each warning hold
    | inr hnew =>
      rw [hnew]
      exact ⟨hseq,hat,warningKey_ne_blank,hc,hm⟩
  · rw [List.length_drop]
    omega
  · refine List.Nodup.sublist ((List.drop_sublist _ _).map _) ?_
    rw [List.map_append,List.nodup_append]
    refine ⟨h.nodup,by simp,?_⟩
    intro a ha b hb
    simp only [List.map_cons,List.map_nil,List.mem_singleton] at hb
    rw [hb]
    intro hab
    rw [hab] at ha
    exact hkey ha

/-- Erasing the warning of a key leaves none of that key. -/
theorem key_not_mem_eraseP (hn : (warnings.map RuntimeWarning.key).Nodup) (key : String) :
    key∉(warnings.eraseP (fun warning => warning.key==key)).map RuntimeWarning.key := by
  have hmap : (warnings.eraseP (fun warning => warning.key==key)).map RuntimeWarning.key=
      (warnings.map RuntimeWarning.key).erase key := by
    rw [List.erase_eq_eraseP',List.eraseP_map]
    rfl
  rw [hmap]
  exact hn.not_mem_erase

end Lists

theorem failureMessage_ne_blank (failure : PersistenceFailure) :
    trim (failureMessage failure)≠"" := by
  have hp : 'p'∈"persistence_".toList := by decide
  refine trim_ne_empty (c:= 'p') ?_ (by decide)
  delta failureMessage
  simp only [String.toList_append,List.mem_append]
  exact .inl (.inl (.inl (.inl (.inl (.inl hp)))))

theorem desktopElevatedMessage_ne_blank : trim Store.desktopElevatedMessage≠"" := by
  refine trim_ne_empty (c:= 'c') ?_ (by decide)
  rw [Store.desktopElevatedMessage,String.toList_ofList]
  exact List.mem_cons_self

/-- `s` comes from `base` without a publication, with warnings fit for the next one. -/
structure Live (base s : Store) : Prop where
  seq : s.publicationSeq=base.publicationSeq
  snapshot : s.snapshot=base.snapshot
  published : s.published=base.published
  clock : base.clock ≤ s.clock
  warnings : ListOk s.publicationSeq s.clock s.warnings
  legacy : ∀ error, .failed error∈s.world.legacy → trim error≠""

namespace Live
variable {base s : Store}

theorem now (h : Live base s) : Live base s.now.2 := by
  simp only [Store.now]
  split
  · exact h
  · exact ⟨h.seq,h.snapshot,h.published,h.clock.trans (Nat.le_add_right _ _),
      h.warnings.mono (Nat.le_refl _) (Nat.le_add_right _ _),h.legacy⟩

theorem now_eq (s : Store) : s.now.1=s.now.2.clock := by
  simp only [Store.now]
  split <;> rfl

theorem now_warnings (s : Store) : s.now.2.warnings=s.warnings := by
  simp only [Store.now]
  split <;> rfl

theorem recordDiagnostic (h : Live base s) : Live base s.recordDiagnostic.2 := by
  simp only [Store.recordDiagnostic]
  split
  · exact h
  · exact ⟨h.seq,h.snapshot,h.published,h.clock,h.warnings,h.legacy⟩

theorem write (h : Live base s) : Live base s.write.2 := by
  simp only [Store.write]
  split
  · exact h
  · exact ⟨h.seq,h.snapshot,h.published,h.clock,h.warnings,h.legacy⟩

theorem isHealthy (h : Live base s) : Live base s.isHealthy.2 := by
  simp only [Store.isHealthy]
  split
  · exact h
  · exact ⟨h.seq,h.snapshot,h.published,h.clock,h.warnings,h.legacy⟩

theorem legacyAnswer (h : Live base s) : Live base s.legacyAnswer.2 ∧
    ∀ error, s.legacyAnswer.1=.failed error → trim error≠"" := by
  simp only [Store.legacyAnswer]
  split
  · exact ⟨h,by simp⟩
  · next answer legacy hl =>
    refine ⟨⟨h.seq,h.snapshot,h.published,h.clock,h.warnings,?_⟩,?_⟩
    · intro error he
      exact h.legacy error (by rw [hl]; exact List.mem_cons_of_mem _ he)
    · intro error he
      exact h.legacy error (by rw [hl,← he]; exact List.mem_cons_self)

theorem upsertWarning (h : Live base s) {category message : String} (hc : trim category≠"")
    (hm : trim message≠"") : Live base (s.upsertWarning category message).2 := by
  simp only [Store.upsertWarning]
  split
  · exact h
  · have hnow := h.now
    refine ⟨hnow.seq,hnow.snapshot,hnow.published,hnow.clock,?_,hnow.legacy⟩
    refine pushWarning_ok (hnow.warnings.sublist List.eraseP_sublist) (Nat.le_refl _) ?_ hc hm ?_
    · rw [now_eq]
    · exact key_not_mem_eraseP hnow.warnings.nodup _

theorem appendDiagnostic (h : Live base s) : Live base s.appendDiagnostic := by
  have hdiag := h.now.now.recordDiagnostic
  simp only [Store.appendDiagnostic]
  split
  · next failure s' heq =>
    rw [heq] at hdiag
    exact hdiag.upsertWarning (by decide) (failureMessage_ne_blank failure)
  · next outcome s' _ heq =>
    rw [heq] at hdiag
    exact hdiag

theorem addWarning (h : Live base s) {category message : String} (hc : trim category≠"")
    (hm : trim message≠"") : Live base (s.addWarning category message) := by
  have hupsert := h.upsertWarning hc hm
  simp only [Store.addWarning]
  split
  · next s' heq =>
    rw [heq] at hupsert
    exact hupsert.appendDiagnostic
  · next s' heq =>
    rw [heq] at hupsert
    exact hupsert

theorem clearWarning (h : Live base s) (key : String) : Live base (s.clearWarning key) := by
  simp only [Store.clearWarning]
  split
  · refine appendDiagnostic ⟨h.seq,h.snapshot,h.published,h.clock,?_,h.legacy⟩
    exact h.warnings.sublist List.eraseP_sublist
  · exact h

theorem clearWarnings (h : Live base s) (keys : List String) :
    Live base (keys.foldl Store.clearWarning s) := by
  induction keys generalizing s with
  | nil => exact h
  | cons key keys ih => exact ih (h.clearWarning key)

theorem addWarnings (h : Live base s) {messages : List String}
    (hm : ∀ message∈messages, trim message≠"") :
    Live base (messages.foldl (fun s message => s.addWarning "collector" message) s) := by
  induction messages generalizing s with
  | nil => exact h
  | cons message messages ih =>
    exact ih (h.addWarning (by decide) (hm message List.mem_cons_self))
      (fun m hmem => hm m (List.mem_cons_of_mem _ hmem))

theorem syncCollectorWarnings (h : Live base s) {messages : List String}
    (hm : ∀ message∈messages, trim message≠"") : Live base (s.syncCollectorWarnings messages) := by
  simp only [Store.syncCollectorWarnings]
  refine (h.clearWarnings _).addWarnings ?_
  intro message hmem
  split at hmem
  · rw [List.mem_append,List.mem_singleton] at hmem
    cases hmem with
    | inl hold => exact hm message hold
    | inr hnew =>
      rw [hnew]
      exact desktopElevatedMessage_ne_blank
  · exact hm message hmem

theorem retryLegacyHelperMigration (h : Live base s) :
    Live base s.retryLegacyHelperMigration := by
  obtain ⟨hlive,hspoken⟩ := h.legacyAnswer
  simp only [Store.retryLegacyHelperMigration]
  split
  · split
    · next s' heq =>
      rw [heq] at hlive
      exact hlive
    · next s' heq =>
      rw [heq] at hlive
      refine clearWarnings ?_ _
      exact ⟨hlive.seq,hlive.snapshot,hlive.published,hlive.clock,hlive.warnings,hlive.legacy⟩
    · next error s' heq =>
      rw [heq] at hlive hspoken
      exact hlive.addWarning (by decide) (hspoken error rfl)
  · exact h

theorem clearPersistenceWarningsIfHealthy (h : Live base s) :
    Live base s.clearPersistenceWarningsIfHealthy := by
  have hfirst := h.isHealthy
  simp only [Store.clearPersistenceWarningsIfHealthy]
  split
  · next s' heq =>
    rw [heq] at hfirst
    exact hfirst
  · next s' heq =>
    rw [heq] at hfirst
    have hsecond := hfirst.retryLegacyHelperMigration.isHealthy
    split
    · next s'' heq' =>
      rw [heq'] at hsecond
      exact hsecond
    · next s'' heq' =>
      rw [heq'] at hsecond
      exact hsecond.clearWarnings _

theorem afterWrite (h : Live base s) {succeeded : Store → Store}
    (hs : ∀ s, Live base s → Live base (succeeded s)) : Live base (s.afterWrite succeeded) := by
  have hwrite := h.now.write
  simp only [Store.afterWrite]
  split
  · next s' heq =>
    rw [heq] at hwrite
    exact (hs s' hwrite).clearPersistenceWarningsIfHealthy
  · next failure s' heq =>
    rw [heq] at hwrite
    exact hwrite.addWarning (by decide) (failureMessage_ne_blank failure)

theorem persistSettings (h : Live base s) (userMutation : Bool) :
    Live base (s.persistSettings userMutation) := by
  have hunblocked : Live base { s with settingsRewriteBlocked := false } :=
    ⟨h.seq,h.snapshot,h.published,h.clock,h.warnings,h.legacy⟩
  have hrecord : ∀ s', Live base s' →
      Live base (if s'.background then s' else s'.now.2.now.2.recordDiagnostic.2) := by
    intro s' hs'
    split
    · exact hs'
    · exact hs'.now.now.recordDiagnostic
  cases userMutation with
  | true => exact hunblocked.afterWrite hrecord
  | false =>
    simp only [Store.persistSettings,Bool.false_eq_true,if_false]
    split
    · exact h
    · exact h.afterWrite hrecord

theorem persistWarmCache (h : Live base s) : Live base s.persistWarmCache := by
  simp only [Store.persistWarmCache]
  split
  · exact h
  · exact h.afterWrite (fun _ hs => hs)

theorem shutdownOwnedResources (h : Live base s) : Live base s.shutdownOwnedResources := by
  simp only [Store.shutdownOwnedResources]
  split
  · exact h
  · have hstart : Live base { s with persistenceFlushed := true } :=
      ⟨h.seq,h.snapshot,h.published,h.clock,h.warnings,h.legacy⟩
    have hflushed := hstart.persistSettings false
    split
    · exact hflushed.afterWrite (fun _ hs => hs)
    · exact hflushed.persistWarmCache

end Live
end BatCave.RuntimeStore.Warnings
