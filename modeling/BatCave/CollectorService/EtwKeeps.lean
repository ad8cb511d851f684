import BatCave.CollectorService.EtwOwnership

/-! What every program of the service keeps, wherever it is cut off and however its calls are
answered. -/
namespace BatCave.CollectorService.EtwLease
open BatCave.Lib.Result BatCave.Lib.Effects
namespace Service

variable (c : Service)

/-- What a process was answered so far. -/
abbrev Log := List (Lib.Effects.Event (Op c.platform) (Op.Res c.platform))

/-- What a process must have seen to take a session down that it has not started. -/
structure Evidence (answered : c.Log)
    (lease : EtwLeaseV1) : Prop where
  session : lease.session=c.session
  leased : ∃ snapshot : EtwLeaseSnapshot c.platform, ⟨.observeLease,.ok snapshot⟩∈answered ∧
    snapshot.observation=.trusted lease
  controller : ∃ observed, ⟨.observeController lease.controller,observed⟩∈answered ∧
    NotRunning lease.controller observed

/-- A session is taken down by its handle only with the evidence for its lease, right after it
was seen to be the session of the lease. -/
def Allowed (answered : c.Log) : Op c.platform → Prop
  | .stopTraceByHandle traceHandle => ∃ lease, c.Evidence answered lease ∧
      answered.getLast?=some ⟨.queryServiceSession,.ok (some (lease.session,traceHandle))⟩
  | _ => True

abbrev Keeps {α : Type} (self : EtwControllerIdentityV1)
    (Post : α → c.Log → World → Prop) (p : c.Call α)
    (answered : c.Log) (w : World) : Prop :=
  Safe World.Drifts (c.Answers self) c.Owned c.Allowed Post p answered w

variable {c} {self : EtwControllerIdentityV1} {w w' : World} {α : Type}
variable {answered : c.Log}

theorem Evidence.append {lease : EtwLeaseV1} (h : c.Evidence answered lease)
    (later : c.Log) :
    c.Evidence (answered++later) lease := by
  obtain ⟨snapshot,hsnapshot,hlease⟩ := h.leased
  obtain ⟨observed,hobserved,hcontroller⟩ := h.controller
  exact ⟨h.session,⟨snapshot,List.mem_append_left _ hsnapshot,hlease⟩,
    ⟨observed,List.mem_append_left _ hobserved,hcontroller⟩⟩

/-- The same boot, and no process more. -/
structure Later (w w' : World) : Prop where
  bootIdentity : w'.bootIdentity=w.bootIdentity
  running : ∀ controller∈w'.running, controller∈w.running

theorem Later.refl (w : World) : Later w w := ⟨rfl,fun _ h => h⟩

theorem Later.trans {w w₁ w' : World} (h : Later w w₁) (h' : Later w₁ w') : Later w w' :=
  ⟨h'.bootIdentity.trans h.bootIdentity,
    fun controller hc => h.running controller (h'.running controller hc)⟩

theorem Later.of_drift (h : World.Drifts w w') : Later w w' := ⟨h.bootIdentity,h.running⟩

/-- A call that only looks. -/
theorem keeps_query {op : Op c.platform} {next : op.Res → c.Call α}
    {Post : α → c.Log → World → Prop}
    (howned : c.Owned w) (hallowed : c.Allowed answered op)
    (hsame : ∀ w₁ r w', c.Answers self op w₁ r w' → w'=w₁)
    (hnext : ∀ r w', World.Drifts w w' → c.Owned w' → c.Answers self op w' r w' →
      c.Keeps self Post (next r) (answered++[⟨op,r⟩]) w') :
    c.Keeps self Post (.call op next) answered w := by
  refine ⟨hallowed,?_⟩
  intro w₁ r w' hdrift hanswer
  have hw := hsame w₁ r w' hanswer
  rw [hw] at hanswer ⊢
  exact ⟨howned.drift hdrift,hnext r w₁ hdrift (howned.drift hdrift) hanswer⟩

theorem askSession_keeps (howned : c.Owned w) :
    c.Keeps self (fun found answered' w' => World.Drifts w w' ∧ c.Owned w' ∧
      (∀ session, found=.ok session → session.map Prod.fst=w'.session) ∧
      answered'=answered++[⟨.queryServiceSession,found⟩]) c.askSession answered w := by
  refine keeps_query howned trivial (fun w₁ r w' h => h.1) ?_
  intro found w' hdrift howned' hanswer
  exact ⟨hdrift,howned',hanswer.2,rfl⟩

/-- What a look at the session tells of it. -/
structure Sees (w : World) (session : EtwSessionObservation) : Prop where
  absent : session=.absent → w.session=none
  present : ∀ present, session=.present present → w.session=some present

theorem observeSession_keeps (howned : c.Owned w) :
    c.Keeps self (fun session answered' w' => World.Drifts w w' ∧ c.Owned w' ∧ Sees w' session ∧
      ∃ later, answered'=answered++later) c.observeSession answered w := by
  rw [observeSession]
  refine Safe.bind ((askSession_keeps howned).mono ?_)
  intro found answered' w' ⟨hdrift,howned',hfound,hanswered⟩
  have hlater : ∃ later, answered'=answered++later := ⟨_,hanswered⟩
  split
  · next identity traceHandle =>
    refine ⟨hdrift,howned',⟨?_,?_⟩,hlater⟩
    · intro h
      cases h
    · intro present h
      cases h
      exact (hfound _ rfl).symm
  · refine ⟨hdrift,howned',⟨fun _ => (hfound _ rfl).symm,?_⟩,hlater⟩
    intro present h
    cases h
  · refine ⟨hdrift,howned',⟨?_,?_⟩,hlater⟩
    · intro h
      cases h
    · intro present h
      cases h

theorem askLease_keeps (howned : c.Owned w) :
    c.Keeps self (fun r answered' w' => World.Drifts w w' ∧ c.Owned w' ∧
      (∀ snapshot, r=.ok snapshot → snapshot.observation=observation c.platform w'.leaf) ∧
      answered'=answered++[⟨.observeLease,r⟩]) c.askLease answered w := by
  refine keeps_query howned trivial (fun w₁ r w' h => h.1) ?_
  intro r w' hdrift howned' hanswer
  refine ⟨hdrift,howned',?_,rfl⟩
  intro snapshot hsnapshot
  obtain ⟨-,io,hr⟩ := hanswer
  rw [hsnapshot,observe] at hr
  have hobserved := unit_bind_ok.mp hr.symm
  rw [captureSnapshot] at hobserved
  split at hobserved
  · cases hobserved.2
  · cases hobserved.2
    rfl

theorem askController_keeps (howned : c.Owned w) (expected : EtwControllerIdentityV1) :
    c.Keeps self (fun observed answered' w' => World.Drifts w w' ∧ c.Owned w' ∧
      (observed=.present expected → expected∈w'.running) ∧
      answered'=answered++[⟨.observeController expected,observed⟩])
      (c.askController expected) answered w := by
  refine keeps_query howned trivial (fun w₁ r w' h => h.1) ?_
  intro observed w' hdrift howned' hanswer
  refine ⟨hdrift,howned',?_,rfl⟩
  intro hpresent
  have htruth := hanswer.2
  rw [hpresent] at htruth
  exact htruth.2 rfl

theorem askRemove_keeps (howned : c.Owned w) (hnone : w.session=none)
    (prior : EtwLeaseSnapshot c.platform) :
    c.Keeps self (fun _ _ w' => c.Owned w' ∧ Later w w') (c.askRemove prior) answered w := by
  refine ⟨trivial,?_⟩
  intro w₁ r w' hdrift hanswer
  have howned' : c.Owned w' := (howned.drift hdrift).remove (hdrift.none hnone) hanswer
  refine ⟨howned',howned',?_⟩
  obtain ⟨io,-,hworld⟩ := hanswer
  rw [hworld]
  exact ⟨hdrift.bootIdentity,hdrift.running⟩

variable (hcodec : ∀ lease bytes, c.platform.toVec lease=some bytes →
  c.platform.fromSlice bytes=some lease)

include hcodec in
theorem askReplace_keeps {prior : EtwLeaseSnapshot c.platform} {lease : EtwLeaseV1}
    (howned : c.Owned w) (hrenews : Renews c w prior lease) :
    c.Keeps self (fun r answered' w' => c.Owned w' ∧ Later w w' ∧
      (r=.ok () → observation c.platform w'.leaf=.trusted lease) ∧
      ∃ later, answered'=answered++later) (c.askReplace prior lease) answered w := by
  refine ⟨trivial,?_⟩
  intro w₁ r w' hdrift hanswer
  have hrenews' : Renews c w₁ prior lease := by
    rw [Renews,hdrift.bootIdentity]
    exact hrenews
  have howned' : c.Owned w' := (howned.drift hdrift).replace hcodec hrenews' hanswer
  refine ⟨howned',howned',?_,?_,_,rfl⟩
  · obtain ⟨io,-,hworld⟩ := hanswer
    rw [hworld]
    exact ⟨hdrift.bootIdentity,hdrift.running⟩
  · intro hok
    rw [hok] at hanswer
    exact replaced hcodec hanswer

theorem stopTrace_keeps (howned : c.Owned w) (traceHandle : Nat) :
    c.Keeps self (fun _ _ w' => World.Drifts w w') (c.stopTrace traceHandle) answered w := by
  rw [stopTrace]
  split
  · exact World.Drifts.refl w
  · refine ⟨trivial,?_⟩
    intro w₁ r w' hdrift hanswer
    have hdrift' := hdrift.trans (Stops.drifts hanswer)
    exact ⟨howned.drift hdrift',hdrift'⟩

/-- The file holds a lease of this boot. -/
def Leased (c : Service) (w : World) : Prop := ∃ lease,
  observation c.platform w.leaf=.trusted lease ∧ c.Ours lease ∧ lease.bootIdentity=w.bootIdentity

theorem Leased.drift (h : Leased c w) (hdrift : World.Drifts w w') : Leased c w' := by
  rw [Leased,hdrift.leaf,hdrift.bootIdentity]
  exact h

/-- A look whose answer does not matter. -/
theorem keeps_still (op : Op c.platform) (howned : c.Owned w) (hallowed : c.Allowed answered op)
    (hsame : ∀ w₁ r w', c.Answers self op w₁ r w' → w'=w₁) :
    c.Keeps self (fun _ _ w' => World.Drifts w w') (.call op .ret) answered w := by
  refine keeps_query howned hallowed hsame ?_
  intro r w' hdrift _ _
  exact hdrift

theorem shutdownMonitor_keeps (howned : c.Owned w) (traceHandle : Nat) :
    c.Keeps self (fun _ _ w' => World.Drifts w w') (c.shutdownMonitor traceHandle) answered w := by
  rw [shutdownMonitor]
  refine Safe.bind ((stopTrace_keeps howned traceHandle).mono ?_)
  intro stopped answered₁ w₁ hdrift₁
  have howned₁ := howned.drift hdrift₁
  refine Safe.bind ((keeps_still .closeTrace howned₁ trivial (fun _ _ _ h => h)).mono ?_)
  intro closed answered₂ w₂ hdrift₂
  have howned₂ := howned₁.drift hdrift₂
  refine Safe.bind ((keeps_still .joinConsumer howned₂ trivial (fun _ _ _ h => h)).mono ?_)
  intro joined answered₃ w₃ hdrift₃
  exact hdrift₁.trans (hdrift₂.trans hdrift₃)

/-- A session is started under a lease. -/
theorem askStart_keeps (howned : c.Owned w) (hleased : Leased c w) :
    c.Keeps self (fun _ _ w' => c.Owned w' ∧ Later w w') c.askStart answered w := by
  refine ⟨trivial,?_⟩
  intro w₁ r w' hdrift hanswer
  obtain ⟨lease,htrusted,hours,hboot⟩ := hleased.drift hdrift
  have howned₁ := howned.drift hdrift
  cases r with
  | error error =>
    have hw : w'=w₁ := hanswer
    rw [hw]
    exact ⟨howned₁,howned₁,.of_drift hdrift⟩
  | ok traceHandle =>
    have hw : w'={ w₁ with session := some c.session } := hanswer.2
    have howned' : c.Owned w' := by
      rw [hw]
      refine ⟨howned₁.leaf,?_⟩
      intro session hsession
      cases hsession
      exact ⟨rfl,lease,htrusted,hours,hboot⟩
    refine ⟨howned',howned',?_⟩
    rw [hw]
    exact ⟨hdrift.bootIdentity,hdrift.running⟩

theorem startMonitor_keeps (howned : c.Owned w) (hleased : Leased c w) :
    c.Keeps self (fun _ _ w' => c.Owned w' ∧ Later w w') c.startMonitor answered w := by
  rw [startMonitor]
  refine Safe.bind ((askStart_keeps howned hleased).mono ?_)
  intro started answered₁ w₁ ⟨howned₁,hlater₁⟩
  have hdone : ∀ w', World.Drifts w₁ w' → c.Owned w' ∧ Later w w' := by
    intro w' hdrift
    exact ⟨howned₁.drift hdrift,hlater₁.trans (.of_drift hdrift)⟩
  split
  · exact ⟨howned₁,hlater₁⟩
  · next traceHandle =>
    refine Safe.bind ((keeps_still .openTrace howned₁ trivial (fun _ _ _ h => h)).mono ?_)
    intro opened answered₂ w₂ hdrift₂
    have howned₂ := howned₁.drift hdrift₂
    split
    · refine Safe.bind ((stopTrace_keeps howned₂ traceHandle).mono ?_)
      intro _ _ w₃ hdrift₃
      exact hdone w₃ (hdrift₂.trans hdrift₃)
    · refine Safe.bind ((keeps_still .spawnConsumer howned₂ trivial (fun _ _ _ h => h)).mono ?_)
      intro spawned answered₃ w₃ hdrift₃
      have hdrift₃ := hdrift₂.trans hdrift₃
      split
      · refine Safe.bind ((stopTrace_keeps (howned₁.drift hdrift₃) traceHandle).mono ?_)
        intro _ answered₄ w₄ hdrift₄
        have hdrift₄ := hdrift₃.trans hdrift₄
        refine Safe.bind ((keeps_still .closeTrace (howned₁.drift hdrift₄) trivial
          (fun _ _ _ h => h)).mono ?_)
        intro _ _ w₅ hdrift₅
        exact hdone w₅ (hdrift₄.trans hdrift₅)
      · exact hdone w₃ hdrift₃

/-- The session is only taken down with the evidence for it. -/
theorem stopSessionIfExact_keeps {lease : EtwLeaseV1} (howned : c.Owned w)
    (hevidence : c.Evidence answered lease) :
    c.Keeps self (fun _ _ w' => World.Drifts w w') (c.stopSessionIfExact lease.session)
      answered w := by
  rw [stopSessionIfExact]
  split
  · exact World.Drifts.refl w
  · refine Safe.bind ((askSession_keeps howned).mono ?_)
    intro found answered₁ w₁ ⟨hdrift₁,howned₁,hfound,hanswered⟩
    split
    · exact hdrift₁
    · exact hdrift₁
    · next observed traceHandle =>
      split
      · exact hdrift₁
      · next hexact =>
        split
        · exact hdrift₁
        · have hallowed : c.Allowed answered₁ (.stopTraceByHandle traceHandle) := by
            refine ⟨lease,?_,?_⟩
            · rw [hanswered]
              exact hevidence.append _
            · rw [hanswered,List.getLast?_concat,not_not.mp hexact]
          refine ⟨hallowed,?_⟩
          intro w₂ r w₃ hdrift₂ hanswer
          have hdrift₃ := hdrift₂.trans (Stops.drifts hanswer)
          exact ⟨howned₁.drift hdrift₃,hdrift₁.trans hdrift₃⟩

section Recovery
variable {expected : EtwExpectedOwnerV1} {calm : Prop}

/-- A failure, if there is one, is no conflict. -/
def Quiet (r : Except Failure α) : Prop := ∀ error, r=.error error → error.isConflict=false

/-- A failure of the program is no conflict, as long as things are calm. -/
structure Settles (c : Service) (calm : Prop) (w : World) (r : Except Failure α) (w' : World) :
    Prop where
  owned : c.Owned w'
  later : Later w w'
  peace : calm → Quiet r

theorem Settles.of_ok {value : α} (howned : c.Owned w') (hlater : Later w w') :
    Settles c calm w (.ok value) w' :=
  ⟨howned,hlater,fun _ _ h => by cases h⟩

theorem Settles.of_error {error : Failure} (howned : c.Owned w') (hlater : Later w w')
    (hpeace : calm → error.isConflict=false) :
    Settles c calm w (.error error : Except Failure α) w' := by
  refine ⟨howned,hlater,?_⟩
  intro hcalm error' herror
  cases herror
  exact hpeace hcalm

theorem settles_later {w₁ : World} {p : c.Call (Except Failure α)}
    (h : c.Keeps self (fun r _ w' => Settles c calm w₁ r w') p answered w₁)
    (hlater : Later w w₁) : c.Keeps self (fun r _ w' => Settles c calm w r w') p answered w₁ := by
  refine h.mono ?_
  intro r _ w' hsettles
  exact ⟨hsettles.owned,hlater.trans hsettles.later,hsettles.peace⟩

/-- The lease goes only after the session was seen to be gone. -/
theorem removeStaleLease_keeps (howned : c.Owned w) (snapshot : EtwLeaseSnapshot c.platform) :
    c.Keeps self (fun r _ w' => Settles c calm w r w') (c.removeStaleLease snapshot).run
      answered w := by
  rw [removeStaleLease]
  refine Safe.alwaysThen ((observeSession_keeps howned).mono ?_)
  intro session answered₁ w₁ ⟨hdrift₁,howned₁,hsees,_⟩
  split
  · exact .of_error howned₁ (.of_drift hdrift₁) (fun _ => rfl)
  · next habsent =>
    refine Safe.attemptThen ((askRemove_keeps howned₁ (hsees.absent (not_not.mp habsent))
      snapshot).mono ?_)
    intro removed answered₂ w₂ ⟨howned₂,hlater₂⟩
    have hlater₂ := (Later.of_drift hdrift₁).trans hlater₂
    cases removed with
    | error error => exact .of_error howned₂ hlater₂ (fun _ => rfl)
    | ok removed =>
      refine Safe.attempt ((askLease_keeps howned₂).mono ?_)
      intro observed answered₃ w₃ ⟨hdrift₃,howned₃,_,_⟩
      have hlater₃ := hlater₂.trans (.of_drift hdrift₃)
      cases observed with
      | error error => exact .of_error howned₃ hlater₃ (fun _ => rfl)
      | ok observed => exact .of_ok howned₃ hlater₃

/-- What the service expects to own, in this boot. -/
structure Expects (c : Service) (bootIdentity : Vector UInt8 16) (expected : EtwExpectedOwnerV1) :
    Prop where
  installId : expected.installId=c.installId
  serviceGeneration : expected.serviceGeneration=c.serviceGeneration
  bootIdentity : expected.bootIdentity=bootIdentity
  session : expected.session=c.session

/-- What is observed in a world that is owned fits together, once the lease's controller was
not seen. -/
theorem Expects.fits {seen : EtwLeaseObservation} {session : EtwSessionObservation}
    {controller : EtwControllerObservation} {w₁ : World} (h : Expects c w.bootIdentity expected)
    (howned : c.Owned w₁) (hboot : w₁.bootIdentity=w.bootIdentity) (hsees : Sees w₁ session)
    (hseen : seen=observation c.platform w₁.leaf)
    (hcontroller : ∀ lease, seen=.trusted lease → controller≠.present lease.controller) :
    Fits c expected seen session controller := by
  refine ⟨h.installId,h.serviceGeneration,h.session,?_,?_,hcontroller⟩
  · cases howned.leaf with
    | inl habsent =>
      rw [habsent] at hseen
      exact .inl hseen
    | inr hleaf =>
      obtain ⟨lease,htrusted,hours⟩ := hleaf
      exact .inr ⟨lease,hseen.trans htrusted,hours⟩
  · intro present hpresent
    obtain ⟨hsame,lease,htrusted,-,hcurrent⟩ :=
      howned.session present (hsees.present present hpresent)
    exact ⟨hsame,lease,hseen.trans htrusted,hcurrent.trans (hboot.trans h.bootIdentity.symm)⟩

theorem Expects.later (h : Expects c w.bootIdentity expected) (hlater : Later w w') :
    Expects c w'.bootIdentity expected :=
  ⟨h.installId,h.serviceGeneration,h.bootIdentity.trans hlater.bootIdentity.symm,h.session⟩

theorem not_conflict {decision : EtwRecoveryDecision}
    (h : ∀ conflict, decision≠.conflict conflict) (error : String) :
    (Failure.etwRecoveryStopFailed error decision).isConflict=false ∧
      (Failure.etwRecoveryIncomplete decision).isConflict=false ∧
      (Failure.etwRecoveryBlocked decision).isConflict=false := by
  cases decision with
  | conflict conflict => exact absurd rfl (h conflict)
  | startFresh discard => exact ⟨rfl,rfl,rfl⟩
  | reclaimExact phase => exact ⟨rfl,rfl,rfl⟩
  | retain hold => exact ⟨rfl,rfl,rfl⟩

/-- Two looks, at the session and at the lease's controller: nothing that they show is a
conflict. -/
theorem looks_keep (lease : EtwLeaseV1) {f : EtwSessionObservation → EtwControllerObservation →
      c.Action α} {Post : Except Failure α → c.Log → World → Prop}
    (howned : c.Owned w) (hexpects : Expects c w.bootIdentity expected)
    (hlease : observation c.platform w.leaf=.trusted lease)
    (hcalm : calm → lease.controller∉w.running)
    (hnext : ∀ session observed answered' w', World.Drifts w w' →
      (calm → ∀ attempt conflict, decideEtwRecovery expected (.trusted lease) session observed
        attempt≠.conflict conflict) → c.Keeps self Post (f session observed).run answered' w') :
    c.Keeps self Post (always c.observeSession >>= fun session =>
      always (c.askController lease.controller) >>= fun observed => f session observed).run
      answered w := by
  refine Safe.alwaysThen ((observeSession_keeps howned).mono ?_)
  intro session answered₁ w₁ ⟨hdrift₁,howned₁,hsees,_⟩
  refine Safe.alwaysThen ((askController_keeps howned₁ lease.controller).mono ?_)
  intro observed answered₂ w₂ ⟨hdrift₂,_,htrue,_⟩
  have hdrift := hdrift₁.trans hdrift₂
  refine hnext session observed answered₂ w₂ hdrift ?_
  intro hquiet
  have hnot : observed≠.present lease.controller := by
    intro hpresent
    exact hcalm hquiet (hdrift.running _ (htrue hpresent))
  have hfits : Fits c expected (.trusted lease) session observed := by
    refine hexpects.fits howned₁ hdrift₁.bootIdentity hsees ?_ ?_
    · rw [hdrift₁.leaf,hlease]
    · intro other hother
      cases hother
      exact hnot
  exact hfits.decide

theorem settleReclaim_keeps {lease : EtwLeaseV1} {stopping : EtwLeaseSnapshot c.platform}
    (howned : c.Owned w) (hexpects : Expects c w.bootIdentity expected)
    (hlease : observation c.platform w.leaf=.trusted lease)
    (hstopping : stopping.observation=.trusted lease)
    (hcalm : calm → lease.controller∉w.running) :
    c.Keeps self (fun r _ w' => Settles c calm w r w')
      (c.settleReclaim expected stopping lease).run answered w := by
  rw [settleReclaim]
  refine looks_keep lease howned hexpects hlease hcalm ?_
  intro session observed answered' w' hdrift hpeace
  rw [hstopping]
  dsimp only
  split
  · refine .of_error (howned.drift hdrift) (.of_drift hdrift) ?_
    intro hquiet
    exact (not_conflict (hpeace hquiet .notAttempted) "").2.1
  · exact settles_later (removeStaleLease_keeps (howned.drift hdrift) stopping)
      (.of_drift hdrift)

include hcodec in
theorem reclaim_keeps {lease : EtwLeaseV1} {snapshot : EtwLeaseSnapshot c.platform}
    (howned : c.Owned w) (hexpects : Expects c w.bootIdentity expected)
    (hsnapshot : snapshot.observation=.trusted lease) (hevidence : c.Evidence answered lease)
    (hcalm : calm → lease.controller∉w.running) :
    c.Keeps self (fun r _ w' => Settles c calm w r w') (c.reclaim expected snapshot lease).run
      answered w := by
  rw [reclaim]
  dsimp only
  have hrenews : Renews c w snapshot { lease with phase := .stopping } :=
    .inr ⟨lease,.stopping,hsnapshot,rfl⟩
  refine Safe.attemptThen ((askReplace_keeps hcodec howned hrenews).mono ?_)
  intro written answered₁ w₁ ⟨howned₁,hlater₁,hwritten,happended⟩
  cases written with
  | error error => exact .of_error howned₁ hlater₁ (fun _ => rfl)
  | ok written =>
    refine Safe.attemptThen ((askLease_keeps howned₁).mono ?_)
    intro observed answered₂ w₂ ⟨hdrift₂,howned₂,hobserved,hanswered₂⟩
    have hlater₂ := hlater₁.trans (.of_drift hdrift₂)
    cases observed with
    | error error => exact .of_error howned₂ hlater₂ (fun _ => rfl)
    | ok stopping =>
      have hlease : observation c.platform w₂.leaf=.trusted { lease with phase := .stopping } := by
        rw [hdrift₂.leaf]
        exact hwritten rfl
      have hstopping := (hobserved stopping rfl).trans hlease
      have hevidence₂ : c.Evidence answered₂ lease := by
        obtain ⟨later,happended⟩ := happended
        rw [hanswered₂,happended,List.append_assoc]
        exact hevidence.append _
      refine Safe.alwaysThen ((stopSessionIfExact_keeps howned₂ hevidence₂).mono ?_)
      intro stopped answered₃ w₃ hdrift₃
      have howned₃ := howned₂.drift hdrift₃
      have hlater₃ := hlater₂.trans (.of_drift hdrift₃)
      have hlease₃ : observation c.platform w₃.leaf=.trusted { lease with phase := .stopping } := by
        rw [hdrift₃.leaf,hlease]
      have hcalm₃ : calm → lease.controller∉w₃.running := by
        intro hquiet hrunning
        exact hcalm hquiet (hlater₃.running _ hrunning)
      cases stopped with
      | ok stopped =>
        exact settles_later (settleReclaim_keeps howned₃ (hexpects.later hlater₃) hlease₃ hstopping
          hcalm₃) hlater₃
      | error error =>
        refine looks_keep { lease with phase := .stopping } howned₃ (hexpects.later hlater₃) hlease₃
          hcalm₃ ?_
        intro session controller _ w' hdrift hpeace
        refine .of_error (howned₃.drift hdrift) (hlater₃.trans (.of_drift hdrift)) ?_
        intro hquiet
        rw [hstopping]
        exact (not_conflict (hpeace hquiet .stopFailed) error).1

theorem observeLeaseController_keeps (howned : c.Owned w) (seen : EtwLeaseObservation) :
    c.Keeps self (fun observed answered' w' => World.Drifts w w' ∧
      (∃ later, answered'=answered++later) ∧
      ∀ lease, seen=.trusted lease →
        (observed=.present lease.controller → lease.controller∈w'.running) ∧
        (lease.bootIdentity=expected.bootIdentity →
          ⟨.observeController lease.controller,observed⟩∈answered'))
      (c.observeLeaseController expected seen) answered w := by
  have hnothing : ∃ later, answered=answered++later := ⟨[],(List.append_nil _).symm⟩
  cases seen with
  | absent => exact ⟨.refl w,hnothing,fun _ h => by cases h⟩
  | corrupt => exact ⟨.refl w,hnothing,fun _ h => by cases h⟩
  | untrusted => exact ⟨.refl w,hnothing,fun _ h => by cases h⟩
  | trusted lease =>
    simp only [observeLeaseController]
    split
    · refine (askController_keeps howned lease.controller).mono ?_
      intro observed answered' w' ⟨hdrift,_,htrue,hanswered⟩
      refine ⟨hdrift,⟨_,hanswered⟩,?_⟩
      intro other hother
      cases hother
      rw [hanswered]
      exact ⟨htrue,fun _ => List.mem_append_right _ List.mem_cons_self⟩
    · next hother =>
      refine ⟨.refl w,hnothing,?_⟩
      intro other hsame
      cases hsame
      exact ⟨fun h => (by cases h),fun hboot => absurd hboot hother⟩

theorem controllerWithExclusiveOwner_present {session : EtwSessionObservation}
    {observed : EtwControllerObservation} {controller : EtwControllerIdentityV1}
    (h : controllerWithExclusiveOwner session observed=.present controller) :
    observed=.present controller := by
  rw [controllerWithExclusiveOwner] at h
  split at h
  · cases h
  · exact h

theorem controllerWithExclusiveOwner_of_present (present : EtwSessionIdentityV1)
    (observed : EtwControllerObservation) :
    controllerWithExclusiveOwner (.present present) observed=observed := by
  rw [controllerWithExclusiveOwner,if_neg]
  intro h
  cases h.1

include hcodec in
/-- A start takes over what it finds, and is refused by a conflict only when the lease's own
process runs. -/
theorem recoverEtwStart_keeps {snapshot : EtwLeaseSnapshot c.platform}
    (howned : c.Owned w) (hexpects : Expects c w.bootIdentity expected)
    (hsnapshot : snapshot.observation=observation c.platform w.leaf)
    (hanswered : ⟨.observeLease,.ok snapshot⟩∈answered)
    (hcalm : calm → ∀ lease, observation c.platform w.leaf=.trusted lease →
      lease.controller∉w.running) :
    c.Keeps self (fun r _ w' => Settles c calm w r w') (c.recoverEtwStart expected snapshot).run
      answered w := by
  rw [recoverEtwStart]
  refine Safe.alwaysThen ((observeSession_keeps howned).mono ?_)
  intro session answered₁ w₁ ⟨hdrift₁,howned₁,hsees,happended₁⟩
  refine Safe.alwaysThen ((observeLeaseController_keeps howned₁ snapshot.observation).mono ?_)
  intro observed answered₂ w₂ ⟨hdrift₂,happended₂,hobserved⟩
  have hdrift := hdrift₁.trans hdrift₂
  have howned₂ := howned.drift hdrift
  have hseen : snapshot.observation=observation c.platform w₁.leaf := by
    rw [hsnapshot,hdrift₁.leaf]
  have hmember : ⟨.observeLease,.ok snapshot⟩∈answered₂ := by
    obtain ⟨later₁,happended₁⟩ := happended₁
    obtain ⟨later₂,happended₂⟩ := happended₂
    rw [happended₂,happended₁]
    exact List.mem_append_left _ (List.mem_append_left _ hanswered)
  have hpeace : calm → ∀ conflict, decideEtwRecovery expected snapshot.observation session
      (controllerWithExclusiveOwner session observed) .notAttempted≠.conflict conflict := by
    intro hquiet
    have hfits : Fits c expected snapshot.observation session
        (controllerWithExclusiveOwner session observed) := by
      refine hexpects.fits howned₁ hdrift₁.bootIdentity hsees hseen ?_
      intro lease htrusted hpresent
      have hrunning := (hobserved lease htrusted).1 (controllerWithExclusiveOwner_present hpresent)
      exact hcalm hquiet lease (hsnapshot.symm.trans htrusted) (hdrift.running _ hrunning)
    exact hfits.decide .notAttempted
  have hstale : c.Keeps self (fun r _ w' => Settles c calm w r w')
      (c.removeStaleLease snapshot).run answered₂ w₂ :=
    settles_later (removeStaleLease_keeps howned₂ snapshot) (.of_drift hdrift)
  extract_lets controller stale decision
  split
  · exact hstale
  · split
    · exact .of_ok howned₂ (.of_drift hdrift)
    · exact hstale
    · next phase lease hdecision htrusted =>
      obtain ⟨named,hnamed,hsession,hboot,hpresent,hcontroller⟩ :=
        decideEtwRecovery_reclaim hdecision
      rw [htrusted] at hnamed
      cases hnamed
      have howner : controller=observed := by
        rw [← controllerWithExclusiveOwner_of_present lease.session observed,← hpresent]
      rw [howner] at hcontroller
      have hevidence : c.Evidence answered₂ lease :=
        ⟨hsession.trans hexpects.session,⟨snapshot,hmember,htrusted⟩,
          ⟨observed,(hobserved lease htrusted).2 hboot,hcontroller⟩⟩
      have hquiet : calm → lease.controller∉w₂.running := by
        intro hcalm' hrunning
        exact hcalm hcalm' lease (hsnapshot.symm.trans htrusted) (hdrift.running _ hrunning)
      exact settles_later (reclaim_keeps hcodec howned₂ (hexpects.later (.of_drift hdrift)) htrusted
        hevidence hquiet) (.of_drift hdrift)
    · refine .of_error howned₂ (.of_drift hdrift) ?_
      intro hquiet
      exact (not_conflict (hpeace hquiet) "").2.2

end Recovery

section Start
variable {expected : EtwExpectedOwnerV1} {calm : Prop}

theorem combineResults_quiet {first second : Except Failure Unit} (hfirst : Quiet first)
    (hsecond : Quiet second) : (combineResults first second).isConflict=false := by
  cases first with
  | error first =>
    cases second with
    | error second =>
      rw [combineResults,Failure.isConflict,hfirst first rfl,hsecond second rfl]
      rfl
    | ok second => exact hfirst first rfl
  | ok first =>
    cases second with
    | error second => exact hsecond second rfl
    | ok second => rfl

theorem combineUnitResults_quiet {first second : Except Failure Unit} (hfirst : Quiet first)
    (hsecond : Quiet second) : Quiet (combineUnitResults first second) := by
  intro error herror
  unfold combineUnitResults at herror
  split at herror
  · cases herror
  · cases herror
    exact combineResults_quiet hfirst hsecond

theorem networkAttribution_quiet (settled : Except String α) :
    Quiet (settled.mapError Failure.networkAttribution) := by
  intro error herror
  cases settled with
  | error settled =>
    cases herror
    rfl
  | ok value => cases herror

theorem removeExactLeaseIfSessionAbsent_keeps (howned : c.Owned w)
    (snapshot : EtwLeaseSnapshot c.platform) :
    c.Keeps self (fun r _ w' => Settles c True w r w')
      (c.removeExactLeaseIfSessionAbsent snapshot).run answered w := by
  rw [removeExactLeaseIfSessionAbsent]
  refine Safe.alwaysThen ((observeSession_keeps howned).mono ?_)
  intro session answered₁ w₁ ⟨hdrift₁,howned₁,hsees,_⟩
  split
  · exact .of_error howned₁ (.of_drift hdrift₁) (fun _ => rfl)
  · next habsent =>
    refine Safe.attemptThen ((askRemove_keeps howned₁ (hsees.absent (not_not.mp habsent))
      snapshot).mono ?_)
    intro removed answered₂ w₂ ⟨howned₂,hlater₂⟩
    have hlater₂ := (Later.of_drift hdrift₁).trans hlater₂
    cases removed with
    | error error => exact .of_error howned₂ hlater₂ (fun _ => rfl)
    | ok removed => exact .of_ok howned₂ hlater₂

theorem removeExactLeaseAfterCleanSettlement_keeps (howned : c.Owned w)
    (snapshot : EtwLeaseSnapshot c.platform) (settlement : Option (Except String Unit)) :
    c.Keeps self (fun r _ w' => Settles c True w r w')
      (c.removeExactLeaseAfterCleanSettlement snapshot settlement).run answered w := by
  rw [removeExactLeaseAfterCleanSettlement]
  split
  · exact .of_error howned (.refl w) (fun _ => rfl)
  · exact removeExactLeaseIfSessionAbsent_keeps howned snapshot

theorem expectedEtwOwner_keeps (howned : c.Owned w) :
    c.Keeps self (fun r _ w' => World.Drifts w w' ∧ Quiet r ∧
      ∀ expected, r=.ok expected → Expects c w.bootIdentity expected) c.expectedEtwOwner.run
      answered w := by
  rw [expectedEtwOwner]
  have hfailed : ∀ error, Quiet (.error (.etwExpectedOwnerUnavailable error) :
      Except Failure EtwExpectedOwnerV1) := by
    intro error failure hfailure
    cases hfailure
    rfl
  refine Safe.attemptThen (keeps_query howned trivial (fun _ _ _ h => h.1) ?_)
  intro generation w₁ hdrift₁ howned₁ hgeneration
  cases generation with
  | error error => exact ⟨hdrift₁,hfailed error,fun _ h => by cases h⟩
  | ok generation =>
    refine Safe.attemptThen (keeps_query howned₁ trivial (fun _ _ _ h => h.1) ?_)
    intro boot w₂ hdrift₂ howned₂ hboot
    have hdrift := hdrift₁.trans hdrift₂
    cases boot with
    | error error => exact ⟨hdrift,hfailed error,fun _ h => by cases h⟩
    | ok boot =>
      refine ⟨hdrift,fun _ h => (by cases h),?_⟩
      intro expected hexpected
      cases hexpected
      exact ⟨rfl,hgeneration.2 _ rfl,(hboot.2 _ rfl).trans hdrift.bootIdentity,rfl⟩

/-- A start ends with a lifecycle whose lease is drafted for this boot. -/
structure Starts (c : Service) (calm : Prop) (w : World) (r : Except Failure (Lifecycle c.platform))
    (w' : World) : Prop extends Settles c calm w r w' where
  drafted : ∀ lifecycle, r=.ok lifecycle → Drafted c w'.bootIdentity lifecycle.lease

theorem Starts.of_error {error : Failure} (howned : c.Owned w') (hlater : Later w w')
    (hpeace : calm → error.isConflict=false) : Starts c calm w (.error error) w' :=
  ⟨.of_error howned hlater hpeace,fun _ h => by cases h⟩

theorem starts_later {w₁ : World} {p : c.Call (Except Failure (Lifecycle c.platform))}
    (h : c.Keeps self (fun r _ w' => Starts c calm w₁ r w') p answered w₁) (hlater : Later w w₁) :
    c.Keeps self (fun r _ w' => Starts c calm w r w') p answered w₁ := by
  refine h.mono ?_
  intro r _ w' hstarts
  exact ⟨⟨hstarts.owned,hlater.trans hstarts.later,hstarts.peace⟩,hstarts.drafted⟩

theorem Drafted.later {lease : EtwLeaseV1} (h : Drafted c w.bootIdentity lease)
    (hlater : Later w w') : Drafted c w'.bootIdentity lease := by
  rw [hlater.bootIdentity]
  exact h

include hcodec in
theorem activate_keeps {lease : EtwLeaseV1} (howned : c.Owned w)
    (hdraft : Drafted c w.bootIdentity lease) (intent : EtwLeaseSnapshot c.platform)
    (traceHandle : Nat) :
    c.Keeps self (fun r _ w' => Starts c calm w r w') (c.activate intent lease traceHandle).run
      answered w := by
  rw [activate]
  refine Safe.alwaysThen ((askReplace_keeps hcodec howned (.inl (hdraft.phase .active))).mono ?_)
  intro written answered₁ w₁ ⟨howned₁,hlater₁,_,_⟩
  cases written with
  | error error =>
    refine Safe.alwaysThen ((shutdownMonitor_keeps howned₁ traceHandle).mono ?_)
    intro settled answered₂ w₂ hdrift₂
    refine Safe.outcomeThen ((removeExactLeaseAfterCleanSettlement_keeps
      (howned₁.drift hdrift₂) intent (some settled)).mono ?_)
    intro cleanup answered₃ w₃ hcleanup
    refine .of_error hcleanup.owned (hlater₁.trans ((Later.of_drift hdrift₂).trans hcleanup.later))
      (fun _ => ?_)
    refine combineResults_quiet ?_ (combineUnitResults_quiet (networkAttribution_quiet settled)
      (hcleanup.peace trivial))
    intro failure hfailure
    cases hfailure
    rfl
  | ok written =>
    refine Safe.alwaysThen ((askLease_keeps howned₁).mono ?_)
    intro observed answered₂ w₂ ⟨hdrift₂,howned₂,_,_⟩
    have hlater₂ := hlater₁.trans (.of_drift hdrift₂)
    cases observed with
    | error error =>
      refine Safe.alwaysThen ((shutdownMonitor_keeps howned₂ traceHandle).mono ?_)
      intro _ _ w₃ hdrift₃
      exact .of_error (howned₂.drift hdrift₃) (hlater₂.trans (.of_drift hdrift₃)) (fun _ => rfl)
    | ok active =>
      refine ⟨.of_ok howned₂ hlater₂,?_⟩
      intro lifecycle hlifecycle
      cases hlifecycle
      exact (hdraft.phase .active).later hlater₂

include hcodec in
theorem bringUp_keeps {snapshot : EtwLeaseSnapshot c.platform} (howned : c.Owned w)
    (hexpects : Expects c w.bootIdentity expected) (serviceInstanceId : Vector UInt8 16) :
    c.Keeps self (fun r _ w' => Starts c calm w r w')
      (c.bringUp expected snapshot serviceInstanceId).run answered w := by
  rw [bringUp]
  refine Safe.attemptThen (keeps_query howned trivial (fun _ _ _ h => h.1) ?_)
  intro controller w₁ hdrift₁ howned₁ _
  cases controller with
  | error error => exact .of_error howned₁ (.of_drift hdrift₁) (fun _ => rfl)
  | ok controller =>
    let lease : EtwLeaseV1 := ⟨etwLeaseSchemaVersion,.intent,expected.installId,
      expected.serviceGeneration,serviceInstanceId,expected.bootIdentity,controller,
      expected.session⟩
    have hdraft : Drafted c w₁.bootIdentity lease :=
      ⟨rfl,hexpects.installId,hexpects.serviceGeneration,hexpects.session,
        hexpects.bootIdentity.trans hdrift₁.bootIdentity.symm⟩
    refine Safe.attemptThen ((askReplace_keeps hcodec howned₁ (.inl hdraft)).mono ?_)
    intro written answered₂ w₂ ⟨howned₂,hlater₂,hwritten,_⟩
    have hdraft₂ := hdraft.later hlater₂
    have hlater₂ := (Later.of_drift hdrift₁).trans hlater₂
    cases written with
    | error error => exact .of_error howned₂ hlater₂ (fun _ => rfl)
    | ok written =>
      have hleased : Leased c w₂ :=
        ⟨lease,hwritten rfl,howned₂.lease (hwritten rfl),hdraft₂.bootIdentity⟩
      refine Safe.attemptThen ((askLease_keeps howned₂).mono ?_)
      intro observed answered₃ w₃ ⟨hdrift₃,howned₃,_,_⟩
      have hlater₃ := hlater₂.trans (.of_drift hdrift₃)
      cases observed with
      | error error => exact .of_error howned₃ hlater₃ (fun _ => rfl)
      | ok intent =>
        refine Safe.alwaysThen ((startMonitor_keeps howned₃ (hleased.drift hdrift₃)).mono ?_)
        intro started answered₄ w₄ ⟨howned₄,hlater₄⟩
        have hdraft₄ := (hdraft₂.later (.of_drift hdrift₃)).later hlater₄
        have hlater₄ := hlater₃.trans hlater₄
        cases started with
        | error error =>
          refine Safe.outcomeThen ((removeExactLeaseIfSessionAbsent_keeps howned₄ intent).mono ?_)
          intro cleanup answered₅ w₅ hcleanup
          refine .of_error hcleanup.owned (hlater₄.trans hcleanup.later) (fun _ => ?_)
          refine combineResults_quiet ?_ (hcleanup.peace trivial)
          intro failure hfailure
          cases hfailure
          rfl
        | ok traceHandle =>
          exact starts_later (activate_keeps hcodec howned₄ hdraft₄ intent traceHandle) hlater₄

include hcodec in
/-- However a start ends, every session there is has its lease; and unless the process of the
lease it found is still there, the start is not refused by a conflict. -/
theorem start_keeps (howned : c.Owned w) (serviceInstanceId : Vector UInt8 16)
    (hcalm : calm → ∀ lease, observation c.platform w.leaf=.trusted lease →
      lease.controller∉w.running) :
    c.Keeps self (fun r _ w' => Starts c calm w r w') (c.start serviceInstanceId).run
      answered w := by
  rw [start]
  refine Safe.attemptThen (keeps_query howned trivial (fun _ _ _ h => h) ?_)
  intro acquired w₁ hdrift₁ howned₁ _
  cases acquired with
  | error error => exact .of_error howned₁ (.of_drift hdrift₁) (fun _ => rfl)
  | ok acquired =>
    cases acquired with
    | false => exact .of_error howned₁ (.of_drift hdrift₁) (fun _ => rfl)
    | true =>
      refine Safe.andThen ((expectedEtwOwner_keeps howned₁).mono ?_)
      intro expected answered₂ w₂ ⟨hdrift₂,hquiet,hexpects⟩
      have hdrift₂ := hdrift₁.trans hdrift₂
      cases expected with
      | error error =>
        exact .of_error (howned.drift hdrift₂) (.of_drift hdrift₂) (fun _ => hquiet _ rfl)
      | ok expected =>
        refine Safe.attemptThen ((askLease_keeps (howned.drift hdrift₂)).mono ?_)
        intro observed answered₃ w₃ ⟨hdrift₃,howned₃,hobserved,hanswered⟩
        have hdrift₃ := hdrift₂.trans hdrift₃
        cases observed with
        | error error => exact .of_error howned₃ (.of_drift hdrift₃) (fun _ => rfl)
        | ok snapshot =>
          have hexpects₃ : Expects c w₃.bootIdentity expected := by
            rw [hdrift₃.bootIdentity,← hdrift₁.bootIdentity]
            exact hexpects expected rfl
          have hmember : ⟨.observeLease,.ok snapshot⟩∈answered₃ := by
            rw [hanswered]
            exact List.mem_append_right _ List.mem_cons_self
          have hcalm₃ : calm → ∀ lease, observation c.platform w₃.leaf=.trusted lease →
              lease.controller∉w₃.running := by
            intro hquiet lease htrusted hrunning
            rw [hdrift₃.leaf] at htrusted
            exact hcalm hquiet lease htrusted (hdrift₃.running _ hrunning)
          refine Safe.andThen ((recoverEtwStart_keeps hcodec howned₃ hexpects₃ (hobserved _ rfl)
            hmember hcalm₃).mono ?_)
          intro recovered answered₄ w₄ hsettles
          have hlater₄ := (Later.of_drift hdrift₃).trans hsettles.later
          cases recovered with
          | error error =>
            exact .of_error hsettles.owned hlater₄ (fun hquiet => hsettles.peace hquiet _ rfl)
          | ok recovered =>
            exact starts_later (bringUp_keeps hcodec hsettles.owned
              (hexpects₃.later hsettles.later) serviceInstanceId) hlater₄

end Start

section Shutdown

include hcodec in
theorem markStopping_keeps {lifecycle : Lifecycle c.platform} (howned : c.Owned w)
    (hdraft : Drafted c w.bootIdentity lifecycle.lease) :
    c.Keeps self (fun _ _ w' => c.Owned w' ∧ Later w w') (c.markStopping lifecycle).run
      answered w := by
  rw [markStopping]
  refine Safe.attemptThen ((askReplace_keeps hcodec howned (.inl (hdraft.phase .stopping))).mono ?_)
  intro written answered₁ w₁ ⟨howned₁,hlater₁,_,_⟩
  cases written with
  | error error => exact ⟨howned₁,hlater₁⟩
  | ok written =>
    refine Safe.attemptThen ((askLease_keeps howned₁).mono ?_)
    intro observed answered₂ w₂ ⟨hdrift₂,howned₂,_,_⟩
    have hlater₂ := hlater₁.trans (.of_drift hdrift₂)
    cases observed with
    | error error => exact ⟨howned₂,hlater₂⟩
    | ok snapshot => exact ⟨howned₂,hlater₂⟩

theorem removeAfterAbsence_keeps (howned : c.Owned w) (snapshot : EtwLeaseSnapshot c.platform)
    (settlement : Option (Except String Unit)) :
    c.Keeps self (fun _ _ w' => c.Owned w') (c.removeAfterAbsence snapshot settlement).run
      answered w := by
  rw [removeAfterAbsence]
  split
  · exact howned
  · refine Safe.alwaysThen ((observeSession_keeps howned).mono ?_)
    intro session answered₁ w₁ ⟨_,howned₁,hsees,_⟩
    split
    · exact howned₁
    · next habsent =>
      refine Safe.attemptThen ((askRemove_keeps howned₁ (hsees.absent (not_not.mp habsent))
        snapshot).mono ?_)
      intro removed answered₂ w₂ ⟨howned₂,_⟩
      cases removed with
      | error error => exact howned₂
      | ok removed => exact howned₂

theorem stopEngine_keeps (howned : c.Owned w) (traceHandle : Nat) :
    c.Keeps self (fun _ _ w' => World.Drifts w w') (c.stopEngine traceHandle) answered w := by
  rw [stopEngine]
  refine Safe.bind ((keeps_still .stopEngine howned trivial (fun _ _ _ h => h)).mono ?_)
  intro shutdown answered₁ w₁ hdrift₁
  split
  · refine Safe.bind ((shutdownMonitor_keeps (howned.drift hdrift₁) traceHandle).mono ?_)
    intro settled answered₂ w₂ hdrift₂
    exact hdrift₁.trans hdrift₂
  · exact hdrift₁

include hcodec in
theorem shutdownEngine_keeps {lifecycle : Lifecycle c.platform} (howned : c.Owned w)
    (hdraft : Drafted c w.bootIdentity lifecycle.lease) :
    c.Keeps self (fun _ _ w' => c.Owned w') (c.shutdownEngine lifecycle).run answered w := by
  rw [shutdownEngine]
  refine Safe.outcomeThen ((markStopping_keeps hcodec howned hdraft).mono ?_)
  intro stopping answered₁ w₁ ⟨howned₁,_⟩
  refine Safe.alwaysThen ((stopEngine_keeps howned₁ lifecycle.traceHandle).mono ?_)
  intro (shutdown,settlement) answered₂ w₂ hdrift₂
  have howned₂ := howned₁.drift hdrift₂
  dsimp only
  split
  · next lifecycle => exact removeAfterAbsence_keeps howned₂ lifecycle.snapshot settlement
  · exact howned₂

include hcodec in
theorem finishAfterMonitorDrop_keeps {lifecycle : Lifecycle c.platform} (howned : c.Owned w)
    (hdraft : Drafted c w.bootIdentity lifecycle.lease)
    (settlement : Option (Except String Unit)) :
    c.Keeps self (fun _ _ w' => c.Owned w') (c.finishAfterMonitorDrop lifecycle settlement).run
      answered w := by
  rw [finishAfterMonitorDrop]
  refine Safe.andThen ((markStopping_keeps hcodec howned hdraft).mono ?_)
  intro stopping answered₁ w₁ ⟨howned₁,_⟩
  cases stopping with
  | error error => exact howned₁
  | ok stopping => exact removeAfterAbsence_keeps howned₁ stopping.snapshot settlement

include hcodec in
theorem runStarted_keeps {lifecycle : Lifecycle c.platform} (howned : c.Owned w)
    (hdraft : Drafted c w.bootIdentity lifecycle.lease) :
    c.Keeps self (fun _ _ w' => c.Owned w') (c.runStarted lifecycle).run answered w := by
  rw [runStarted]
  refine Safe.alwaysThen ((keeps_still .startEngine howned trivial (fun _ _ _ h => h)).mono ?_)
  intro engine answered₁ w₁ hdrift₁
  have howned₁ := howned.drift hdrift₁
  have hdraft₁ := hdraft.later (.of_drift hdrift₁)
  cases engine with
  | error error =>
    refine Safe.alwaysThen ((shutdownMonitor_keeps howned₁ lifecycle.traceHandle).mono ?_)
    intro settled answered₂ w₂ hdrift₂
    refine Safe.outcomeThen ((finishAfterMonitorDrop_keeps hcodec (howned₁.drift hdrift₂)
      (hdraft₁.later (.of_drift hdrift₂)) (some settled)).mono ?_)
    intro _ _ _ howned₃
    exact howned₃
  | ok engine =>
    refine Safe.alwaysThen ((keeps_still .serve howned₁ trivial (fun _ _ _ h => h)).mono ?_)
    intro transport answered₂ w₂ hdrift₂
    refine Safe.outcomeThen ((shutdownEngine_keeps hcodec (howned₁.drift hdrift₂)
      (hdraft₁.later (.of_drift hdrift₂))).mono ?_)
    intro shutdown answered₃ w₃ howned₃
    split
    · exact howned₃
    · exact howned₃

include hcodec in
/-- From its start to its end, a process keeps the session owned. -/
theorem runServiceBody_keeps (howned : c.Owned w) (serviceInstanceId : Vector UInt8 16) :
    c.Keeps self (fun _ _ w' => c.Owned w') (c.runServiceBody serviceInstanceId).run
      answered w := by
  rw [runServiceBody]
  have hstart : c.Keeps self (fun r _ w' => Starts c False w r w') (c.start serviceInstanceId).run
      answered w := start_keeps hcodec howned serviceInstanceId False.elim
  refine Safe.andThen (hstart.mono ?_)
  intro lifecycle answered₁ w₁ hstarts
  cases lifecycle with
  | error error => exact hstarts.owned
  | ok lifecycle => exact runStarted_keeps hcodec hstarts.owned (hstarts.drafted lifecycle rfl)

end Shutdown
end Service
end BatCave.CollectorService.EtwLease
