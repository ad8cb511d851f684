import BatCave.CollectorService.EtwKeeps

/-! Service processes one after the other, each of which may crash at any call, with reboots
in between. -/
namespace BatCave.CollectorService.EtwLease
open BatCave.Lib.Result BatCave.Lib.Effects
namespace Service
variable (c : Service)

/-- A process that holds the owner guard: what it still has to do, and what it was answered. -/
structure Process where
  controller : EtwControllerIdentityV1
  program : c.Call (Except Failure Unit)
  answered : c.Log

/-- A process that does not get the guard touches nothing and is left out. -/
structure Machine where
  world : World
  owner : Option c.Process

namespace Machine

inductive Step : c.Machine → c.Machine → Prop
  | begin (w : World) (controller : EtwControllerIdentityV1) (serviceInstanceId : Vector UInt8 16)
      (hown : ∀ lease, observation c.platform w.leaf=.trusted lease → lease.controller≠controller) :
    Step ⟨w,none⟩ ⟨{ w with running := controller::w.running },
      some ⟨controller,(c.runServiceBody serviceInstanceId).run,[]⟩⟩
  | call {w w' : World} {controller : EtwControllerIdentityV1}
      {program program' : c.Call (Except Failure Unit)} {answered answered' : c.Log}
      (hstep : Lib.Effects.Step World.Drifts (c.Answers controller) ⟨program,answered,w⟩
        ⟨program',answered',w'⟩) :
    Step ⟨w,some ⟨controller,program,answered⟩⟩ ⟨w',some ⟨controller,program',answered'⟩⟩
  -- The process is done with the session. It may take a while to exit.
  | leave (w : World) (controller : EtwControllerIdentityV1) (r : Except Failure Unit)
      (answered : c.Log) : Step ⟨w,some ⟨controller,.ret r,answered⟩⟩ ⟨w,none⟩
  | crash (w : World) (process : c.Process) :
    Step ⟨w,some process⟩
      ⟨{ w with running := w.running.filter (fun controller => controller≠process.controller) },
        none⟩
  | around {w w' : World} (hdrift : World.Drifts w w') : Step ⟨w,none⟩ ⟨w',none⟩
  | reboot (w : World) (owner : Option c.Process) (bootIdentity : Vector UInt8 16)
      (hboot : bootIdentity≠w.bootIdentity) :
    Step ⟨w,owner⟩ ⟨⟨w.leaf,none,bootIdentity,[]⟩,none⟩

/-- The machines that are reached from a fresh install. -/
inductive Reached : c.Machine → Prop
  | fresh (bootIdentity : Vector UInt8 16) : Reached ⟨⟨.absent,none,bootIdentity,[]⟩,none⟩
  | step {m m' : c.Machine} (hm : Reached m) (hstep : Step c m m') : Reached m'

/-- The session has its lease, and the process that owns it goes on keeping that. -/
def Kept (m : c.Machine) : Prop := c.Owned m.world ∧ ∀ process, m.owner=some process →
  c.Keeps process.controller (fun _ _ w' => c.Owned w') process.program process.answered m.world

variable {c} {m m' : c.Machine}
variable (hcodec : ∀ lease bytes, c.platform.toVec lease=some bytes →
  c.platform.fromSlice bytes=some lease)

theorem Kept.alone {w : World} (howned : c.Owned w) : Kept c ⟨w,none⟩ :=
  ⟨howned,fun _ h => by cases h⟩

include hcodec in
theorem Kept.step (h : Kept c m) (hstep : Step c m m') : Kept c m' := by
  cases hstep with
  | begin w controller serviceInstanceId _ =>
    have howned : c.Owned { w with running := controller::w.running } :=
      ⟨h.1.leaf,h.1.session⟩
    refine ⟨howned,?_⟩
    intro process hprocess
    cases hprocess
    exact runServiceBody_keeps hcodec howned serviceInstanceId
  | call hstep =>
    obtain ⟨howned,hsafe⟩ := (h.2 _ rfl).step (fun _ _ _ h h' => h.trans h') World.Drifts.refl
      (fun _ _ howned hdrift => howned.drift hdrift)
      (fun _ _ _ _ howned hdrift => howned.drift hdrift)
      h.1 hstep
    refine ⟨howned,?_⟩
    intro process hprocess
    cases hprocess
    exact hsafe
  | leave w controller r answered => exact .alone h.1
  | crash w process => exact .alone ⟨h.1.leaf,h.1.session⟩
  | around hdrift => exact .alone (h.1.drift hdrift)
  | reboot w owner bootIdentity _ => exact .alone ⟨h.1.leaf,fun _ hnone => by cases hnone⟩

include hcodec in
theorem Reached.kept (hm : Reached c m) : Kept c m := by
  induction hm with
  | fresh bootIdentity => exact .alone ⟨.inl rfl,fun _ hnone => by cases hnone⟩
  | step _ hstep ih => exact ih.step hcodec hstep

end Machine

section Survival
variable (hcodec : ∀ lease bytes, c.platform.toVec lease=some bytes →
  c.platform.fromSlice bytes=some lease)

include hcodec in
/-- However service processes start, fail, stop and crash, and through every reboot: a process
takes down a session that it has not started only when it is the one of the trusted lease and
of the service, right after it was seen to be that one and after the lease's controller was seen
not to run; a session that exists is the service's and has a trusted lease that names it and this
boot; and once the process of the lease is gone, a start is never refused by a conflict. -/
theorem ownership_survives (m : c.Machine) (hm : Machine.Reached c m) :
    (∀ controller traceHandle next answered,
      m.owner=some ⟨controller,.call (.stopTraceByHandle traceHandle) next,answered⟩ →
        ∃ lease, lease.session=c.session ∧
          (∃ snapshot : EtwLeaseSnapshot c.platform, ⟨.observeLease,.ok snapshot⟩∈answered ∧
            snapshot.observation=.trusted lease) ∧
          (∃ observed, ⟨.observeController lease.controller,observed⟩∈answered ∧
            NotRunning lease.controller observed) ∧
          answered.getLast?=some ⟨.queryServiceSession,.ok (some (lease.session,traceHandle))⟩) ∧
      (∀ session, m.world.session=some session → session=c.session ∧
        ∃ lease, observation c.platform m.world.leaf=.trusted lease ∧ lease.session=session ∧
          lease.bootIdentity=m.world.bootIdentity) ∧
      (m.owner=none →
        (∀ lease, observation c.platform m.world.leaf=.trusted lease →
          lease.controller∉m.world.running) →
        ∀ controller serviceInstanceId,
          (∀ lease, observation c.platform m.world.leaf=.trusted lease →
            lease.controller≠controller) →
          ∀ failure answered w', Relation.ReflTransGen
            (Lib.Effects.Step World.Drifts (c.Answers controller))
            ⟨(c.start serviceInstanceId).run,[],
              { m.world with running := controller::m.world.running }⟩
            ⟨.ret (.error failure),answered,w'⟩ → failure.isConflict=false) := by
  obtain ⟨howned,hkeeps⟩ := hm.kept hcodec
  refine ⟨?_,?_,?_⟩
  · intro controller traceHandle next answered hprocess
    obtain ⟨lease,hevidence,hlast⟩ := (hkeeps _ hprocess).1
    exact ⟨lease,hevidence.session,hevidence.leased,hevidence.controller,hlast⟩
  · intro session hsession
    obtain ⟨hsame,lease,htrusted,hours,hboot⟩ := howned.session session hsession
    exact ⟨hsame,lease,htrusted,hours.session.trans hsame.symm,hboot⟩
  · intro _ hgone controller serviceInstanceId hown failure answered w' hrun
    have howned' : c.Owned { m.world with running := controller::m.world.running } :=
      ⟨howned.leaf,howned.session⟩
    have hstart : c.Keeps controller (fun r _ w' => c.Owned w' ∧ Quiet r)
        (c.start serviceInstanceId).run []
          { m.world with running := controller::m.world.running } := by
      have hcalm : True → ∀ lease, observation c.platform m.world.leaf=.trusted lease →
          lease.controller∉controller::m.world.running := by
        intro _ lease htrusted hrunning
        cases List.mem_cons.mp hrunning with
        | inl hself => exact hown lease htrusted hself
        | inr hrunning => exact hgone lease htrusted hrunning
      refine (start_keeps hcodec howned' serviceInstanceId hcalm).mono ?_
      intro r _ w' hstarts
      exact ⟨hstarts.owned,hstarts.peace trivial⟩
    have hend := hstart.run (fun _ _ _ h h' => h.trans h') World.Drifts.refl
      (fun _ _ howned hdrift => howned.drift hdrift)
      (fun _ _ _ _ hpost hdrift => ⟨hpost.1.drift hdrift,hpost.2⟩) howned' hrun
    exact hend.2.2 failure rfl

/-- One call more is answered. -/
theorem Machine.Reached.answer (op : Op c.platform) (r : op.Res) {w w' : World}
    {controller : EtwControllerIdentityV1} {next : op.Res → c.Call (Except Failure Unit)}
    {answered : c.Log} (h : Machine.Reached c ⟨w,some ⟨controller,.call op next,answered⟩⟩)
    (hanswer : c.Answers controller op w r w') :
    Machine.Reached c ⟨w',some ⟨controller,next r,answered++[⟨op,r⟩]⟩⟩ :=
  h.step (.call (.call hanswer))

def networkService : Service :=
  ⟨upgradePlatform,⟨7⟩,⟨7⟩,(networkLease .intent).installId,
    (networkLease .intent).serviceGeneration,(networkLease .intent).session⟩

def absentSnapshot : EtwLeaseSnapshot upgradePlatform := ⟨.absent,.absent,7,.absent,rfl⟩

set_option maxRecDepth 4000 in
theorem intent_written : EtwLease.replace ⟨7⟩ ⟨7⟩ absentSnapshot (networkLease .intent) {} .absent=
    (.ok (),intentLeaf) := by decide

theorem intent_observed : observe ⟨7⟩ ⟨7⟩ {} intentLeaf=.ok intentSnapshot := by
  have htrusted : inspectLeaseLeaf upgradePlatform intentLeaf=.trusted := by decide
  simp only [observe,authorize,captureSnapshot,intentLeaf_classify,htrusted]
  rfl

/-- The first process crashed with its session up and its intent written. -/
def crashedWorld : World :=
  ⟨intentLeaf,some networkService.session,(networkLease .intent).bootIdentity,[]⟩

theorem crashedWorld_reached : Machine.Reached networkService ⟨crashedWorld,none⟩ := by
  let lease := networkLease .intent
  let w : World := ⟨.absent,none,lease.bootIdentity,[lease.controller]⟩
  have fresh : Machine.Reached networkService ⟨⟨.absent,none,lease.bootIdentity,[]⟩,none⟩ :=
    .fresh lease.bootIdentity
  have begun : Machine.Reached networkService ⟨w,some ⟨lease.controller,
      (networkService.runServiceBody lease.serviceInstanceId).run,[]⟩⟩ :=
    fresh.step (.begin _ lease.controller lease.serviceInstanceId (fun _ h => by cases h))
  have acquired := Machine.Reached.answer networkService .tryAcquireOwner (.ok true) begun rfl
  have generated := Machine.Reached.answer networkService .serviceGeneration
    (.ok lease.serviceGeneration) acquired ⟨rfl,fun _ h => (by cases h; rfl)⟩
  have booted := Machine.Reached.answer networkService .bootIdentity (.ok lease.bootIdentity)
    generated ⟨rfl,fun _ h => (by cases h; rfl)⟩
  have looked := Machine.Reached.answer networkService .observeLease (.ok absentSnapshot) booted
    ⟨rfl,{},rfl⟩
  have queried := Machine.Reached.answer networkService .queryServiceSession (.ok none) looked
    ⟨rfl,fun _ h => (by cases h; rfl)⟩
  have identified := Machine.Reached.answer networkService .currentControllerIdentity
    (.ok lease.controller) queried ⟨rfl,fun _ h => (by cases h; rfl)⟩
  have hwritten : networkService.Answers lease.controller (.replaceLease absentSnapshot lease) w
      (.ok ()) { w with leaf := intentLeaf } :=
    ⟨{},(congrArg Prod.fst intent_written).symm,
      congrArg (fun p => World.mk p.2 none lease.bootIdentity [lease.controller])
        intent_written.symm⟩
  have written := Machine.Reached.answer networkService (.replaceLease absentSnapshot lease)
    (.ok ()) identified hwritten
  have observed := Machine.Reached.answer networkService .observeLease (.ok intentSnapshot) written
    ⟨rfl,{},intent_observed.symm⟩
  have started := Machine.Reached.answer networkService .startTrace (.ok 1) observed ⟨rfl,rfl⟩
  exact started.step (.crash _ _)

/-- The next process finds the session that was left up. -/
theorem ownership_survives_crash :
    Machine.Reached networkService ⟨crashedWorld,none⟩ ∧
      (∃ lease, observation upgradePlatform crashedWorld.leaf=.trusted lease ∧
        lease.session=networkService.session ∧ lease.bootIdentity=crashedWorld.bootIdentity) ∧
      ∀ failure answered w', Relation.ReflTransGen
        (Lib.Effects.Step World.Drifts (networkService.Answers ⟨43,200⟩))
        ⟨(networkService.start (networkLease .intent).serviceInstanceId).run,[],
          { crashedWorld with running := [⟨43,200⟩] }⟩
        ⟨.ret (.error failure),answered,w'⟩ → failure.isConflict=false := by
  obtain ⟨-,hlease,hstart⟩ := ownership_survives networkService upgrade_codec ⟨crashedWorld,none⟩
    crashedWorld_reached
  have hnamed : ∀ lease, observation upgradePlatform crashedWorld.leaf=.trusted lease →
      lease=networkLease .intent := by
    intro lease htrusted
    have hintent := (congrArg Prod.fst intentLeaf_classify).symm.trans htrusted
    cases hintent
    rfl
  refine ⟨crashedWorld_reached,(hlease networkService.session rfl).2,?_⟩
  refine hstart rfl (fun _ _ => List.not_mem_nil) ⟨43,200⟩ _ ?_
  intro lease htrusted
  rw [hnamed lease htrusted]
  decide

end Survival
end Service
end BatCave.CollectorService.EtwLease
