import BatCave.CollectorService.EtwLease
import BatCave.Lib.Text

/-! The lease store only destroys what its caller has seen: one lemma says what a call can
do to the leaf, and everything over a run, with changes from outside, follows from it. -/
namespace BatCave.CollectorService.EtwLease
open BatCave.Lib.Result

section Runs
variable (platform : Platform) (store : EtwLeaseStore)

inductive Call where
  | observe (authority : EtwOwnershipAuthority) (io : Io)
  | replace (authority : EtwOwnershipAuthority) (prior : EtwLeaseSnapshot platform)
      (lease : EtwLeaseV1) (io : Io)
  | remove (authority : EtwOwnershipAuthority) (prior : EtwLeaseSnapshot platform) (io : Io)

inductive Event where
  | call (call : Call platform)
  | outside (leaf : Leaf)

variable {platform}

def failure {α : Type} : Except EtwLeasePersistenceError α → Option EtwLeasePersistenceError
  | .error error => some error
  | .ok _ => none

/-- The error that a call returns, and the leaf after it. -/
def Call.run (leaf : Leaf) : Call platform → Option EtwLeasePersistenceError × Leaf
  | .observe authority io =>
    let result : Except _ (EtwLeaseSnapshot platform) := EtwLease.observe store authority io leaf
    (failure result,leaf)
  | .replace authority prior lease io =>
    let result := EtwLease.replace store authority prior lease io leaf
    (failure result.1,result.2)
  | .remove authority prior io =>
    let result := removeAfterProvenAbsence store authority prior io leaf
    (failure result.1,result.2)

/-- The snapshot that a call is passed. -/
def Call.prior : Call platform → Option (EtwLeaseSnapshot platform)
  | .observe _ _ => none
  | .replace _ prior _ _ => some prior
  | .remove _ prior _ => some prior

/-- The parent directory could not be synced after the removal. -/
def Call.syncFailed : Call platform → Bool
  | .remove _ _ io => platform.unix && io.removed && !io.synced
  | _ => false

def step (leaf : Leaf) : Event platform → Leaf
  | .call call => (call.run store leaf).2
  | .outside leaf => leaf

/-- The leaf after each of the events. -/
def leaves (leaf : Leaf) : List (Event platform) → List Leaf
  | [] => []
  | event::events => step store leaf event::leaves (step store leaf event) events

/-- What the leaf is seen as. -/
def observation (platform : Platform) (leaf : Leaf) : EtwLeaseObservation :=
  (classify platform leaf).1

/-- The state of a snapshot that has all of the bytes. -/
def Leaf.whole : Leaf → EtwLeaseSnapshotState
  | .absent => .absent
  | .present _ bytes => .trustedBytes bytes

/-- The snapshot shows this leaf, with all of its bytes. -/
structure Shows (snapshot : EtwLeaseSnapshot platform) (leaf : Leaf) : Prop where
  rootBrand : snapshot.rootBrand=store.rootBrand
  observation : snapshot.observation=observation platform leaf
  bytes : snapshot.state=leaf.whole

/-- What a call may do to a leaf. -/
structure Careful (leaf : Leaf) (call : Call platform) : Prop where
  refused : ∀ error, (call.run store leaf).1=some error →
    (call.run store leaf).2=leaf ∨ (error=.removeFailed ∧ call.syncFailed=true)
  owned : (call.run store leaf).2≠leaf → ∃ prior, call.prior=some prior ∧ Shows store prior leaf
  corrupt : observation platform leaf=.corrupt → (call.run store leaf).2=leaf
  untrusted : observation platform leaf=.untrusted → (call.run store leaf).2=leaf
  absent : leaf=.absent → (call.run store leaf).2=.absent ∨ ∃ lease,
    leaseIsWellFormed lease=true ∧ observation platform (call.run store leaf).2=.trusted lease
  trusted : ∀ lease, observation platform leaf=.trusted lease →
    (call.run store leaf).2=leaf ∨ (call.run store leaf).2=.absent ∨ ∃ next,
      leaseIsWellFormed next=true ∧ SameOwner lease next ∧
      observation platform (call.run store leaf).2=.trusted next

def RunCareful (leaf : Leaf) : List (Event platform) → Prop
  | [] => True
  | event::events =>
    (match event with
      | .call call => Careful store leaf call
      | .outside _ => True) ∧ RunCareful (step store leaf event) events

end Runs

section Snapshots
variable {platform : Platform} {store : EtwLeaseStore} {leaf : Leaf}

/-- What a state of a snapshot is seen as. -/
def EtwLeaseSnapshotState.observation (platform : Platform) :
    EtwLeaseSnapshotState → EtwLeaseObservation
  | .absent => .absent
  | .untrusted => .untrusted
  | .corruptBytes _ => .corrupt
  | .trustedBytes bytes => match platform.fromSlice bytes with
    | some lease => .trusted lease
    | none => .corrupt

theorem observation_of_state (leaf : Leaf) :
    (classify platform leaf).1=(classify platform leaf).2.observation platform := by
  rw [classify]
  split
  · rfl
  · rfl
  · dsimp only
    split
    · rfl
    · split
      · next lease hlease => simp only [EtwLeaseSnapshotState.observation,hlease]
      · rfl

/-- A leaf that holds a lease was read to its end. -/
theorem classify_trusted {lease : EtwLeaseV1} (h : observation platform leaf=.trusted lease) :
    ∃ metadata bytes, leaf=.present metadata bytes ∧
      classify platform leaf=(.trusted lease,.trustedBytes bytes) := by
  rw [observation,classify] at h
  rw [classify]
  split at h
  · cases h
  · cases h
  · next htrusted =>
    cases leaf with
    | absent => cases htrusted
    | present metadata bytes =>
      dsimp only [readBounded] at h ⊢
      split at h
      · cases h
      · next hlength =>
        rw [List.length_take] at hlength
        have hwhole : bytes.take (etwLeaseMaxBytes+1)=bytes :=
          List.take_of_length_le (by omega)
        rw [hwhole] at h ⊢
        refine ⟨metadata,bytes,rfl,?_⟩
        rw [if_neg (by omega)]
        split at h
        · cases h
          rfl
        · cases h

theorem classify_absent (h : observation platform leaf=.absent) :
    leaf=.absent ∧ classify platform leaf=(.absent,.absent) := by
  cases leaf with
  | absent => exact ⟨rfl,rfl⟩
  | present metadata bytes =>
    rw [observation,classify] at h
    split at h
    · next habsent =>
      simp only [inspectLeaseLeaf] at habsent
      split at habsent
      · cases habsent
      · split at habsent
        · cases habsent
        · cases habsent
    · cases h
    · dsimp only at h
      split at h
      · cases h
      · split at h
        · cases h
        · cases h

theorem verifySnapshot_ok {snapshot : EtwLeaseSnapshot platform} {io : Io}
    (h : verifySnapshot store snapshot io leaf=.ok ()) :
    snapshot.rootBrand=store.rootBrand ∧
      classify platform leaf=(snapshot.observation,snapshot.state) := by
  rw [verifySnapshot,unit_bind_ok,branded,reject_ok,bind_ok] at h
  obtain ⟨hbrand,current,hcurrent,hstate⟩ := h
  rw [reject_ok] at hstate
  rw [captureSnapshot] at hcurrent
  split at hcurrent
  · cases hcurrent
  · cases hcurrent
    have hbrand : store.rootBrand=snapshot.rootBrand := by simpa using hbrand
    have hstate : (classify platform leaf).2=snapshot.state := by simpa using hstate
    obtain ⟨seen,hseen⟩ := snapshot.taken
    have hobservation : (classify platform seen).1=
        (classify platform seen).2.observation platform := observation_of_state seen
    rw [hseen] at hobservation
    refine ⟨hbrand.symm,Prod.ext ?_ hstate⟩
    rw [observation_of_state,hstate]
    exact hobservation.symm

/-- The file that takes the leaf's place is private and holds the lease. -/
theorem classify_written {io : Io} {lease : EtwLeaseV1} {bytes : List UInt8}
    (hlength : bytes.length ≤ etwLeaseMaxBytes) (hlease : platform.fromSlice bytes=some lease) :
    observation platform (.present ⟨true,false,0o600 &&& ~~~io.umask⟩ bytes)=.trusted lease := by
  have hmode : (0o600 &&& ~~~io.umask) &&& 0o077=(0 : BitVec 32) := by
    rw [BitVec.and_assoc,BitVec.and_comm (~~~io.umask),← BitVec.and_assoc]
    exact BitVec.zero_and
  have htrusted : inspectLeaseLeaf platform (.present ⟨true,false,0o600 &&& ~~~io.umask⟩ bytes)=
      .trusted := by
    simp only [inspectLeaseLeaf,hmode]
    simp
  have hwhole : bytes.take (etwLeaseMaxBytes+1)=bytes := List.take_of_length_le (by omega)
  rw [observation,classify,htrusted]
  dsimp only [readBounded]
  rw [hwhole,if_neg (by omega),hlease]

end Snapshots

section Effects
variable {platform : Platform} {store : EtwLeaseStore} {leaf : Leaf}

/-- All that a call can do to the leaf. -/
inductive Effect (platform : Platform) (store : EtwLeaseStore) (leaf : Leaf) :
    Call platform → Option EtwLeasePersistenceError → Leaf → Prop
  | nothing (call : Call platform) (error : Option EtwLeasePersistenceError) :
    Effect platform store leaf call error leaf
  | replaced {authority : EtwOwnershipAuthority} {prior : EtwLeaseSnapshot platform}
      {lease : EtwLeaseV1} {io : Io} {leaf' : Leaf} (hbrand : prior.rootBrand=store.rootBrand)
      (hprior : classify platform leaf=(prior.observation,prior.state))
      (hlease : leaseIsWellFormed lease=true)
      (howner : verifyReplacementPrior prior.observation lease=.ok ())
      (hwritten : observation platform leaf'=.trusted lease) :
    Effect platform store leaf (.replace authority prior lease io) none leaf'
  | removed {authority : EtwOwnershipAuthority} {prior : EtwLeaseSnapshot platform}
      {lease : EtwLeaseV1} {io : Io} {error : Option EtwLeasePersistenceError}
      (hbrand : prior.rootBrand=store.rootBrand)
      (hprior : classify platform leaf=(prior.observation,prior.state))
      (hlease : prior.observation=.trusted lease)
      (herror : error=none ∨
        (error=some .removeFailed ∧ (platform.unix && io.removed && !io.synced)=true)) :
    Effect platform store leaf (.remove authority prior io) error .absent

variable (hcodec : ∀ lease bytes, platform.toVec lease=some bytes →
  platform.fromSlice bytes=some lease)

include hcodec in
theorem replace_effect (authority : EtwOwnershipAuthority) (prior : EtwLeaseSnapshot platform)
    (lease : EtwLeaseV1) (io : Io) :
    Effect platform store leaf (.replace authority prior lease io)
      ((Call.replace authority prior lease io).run store leaf).1
      ((Call.replace authority prior lease io).run store leaf).2 := by
  simp only [Call.run,replace]
  cases hreplacement : replacement store authority prior lease io leaf with
  | error error => exact .nothing _ _
  | ok bytes =>
    rw [replacement,unit_bind_ok,unit_bind_ok,unit_bind_ok,unit_bind_ok,okOr_bind_ok]
      at hreplacement
    obtain ⟨_,_,hlease,howner,bytes',hbytes,hreplacement⟩ := hreplacement
    rw [unit_bind_ok,unit_bind_ok,pure_ok] at hreplacement
    obtain ⟨hlength,hverified,hsame⟩ := hreplacement
    rw [hsame] at hbytes hlength
    rw [reject_ok] at hlease hlength
    have hlength : bytes.length ≤ etwLeaseMaxBytes := by simpa using hlength
    have hlease : leaseIsWellFormed lease=true := by
      rw [Bool.or_eq_false_iff] at hlease
      simpa using hlease.2
    obtain ⟨hbrand,hprior⟩ := verifySnapshot_ok hverified
    dsimp only [writeBytesAtomic]
    split
    · exact .replaced hbrand hprior hlease howner
        (classify_written hlength (hcodec lease bytes hbytes))
    · exact .nothing _ _

theorem remove_effect (authority : EtwOwnershipAuthority) (prior : EtwLeaseSnapshot platform)
    (io : Io) :
    Effect platform store leaf (.remove authority prior io)
      ((Call.remove authority prior io).run store leaf).1
      ((Call.remove authority prior io).run store leaf).2 := by
  simp only [Call.run,removeAfterProvenAbsence]
  split
  · exact .nothing _ _
  · split
    · exact .nothing _ _
    · exact .nothing _ _
    · split
      · exact .nothing _ _
      · exact .nothing _ _
    · next lease hlease =>
      split
      · exact .nothing _ _
      · next hverified =>
        obtain ⟨hbrand,hprior⟩ := verifySnapshot_ok hverified
        rw [removeFile]
        cases hremoved : io.removed with
        | false => exact .nothing _ _
        | true =>
          split
          · cases ‹(!true)=true›
          · split
            · next hsynced =>
              refine .removed hbrand hprior hlease (.inr ⟨rfl,?_⟩)
              rw [hremoved,Bool.and_true]
              exact hsynced
            · exact .removed hbrand hprior hlease (.inl rfl)

/-- A prior that may be replaced is absent or has the same owner. -/
theorem verifyReplacementPrior_ok {prior : EtwLeaseObservation} {next : EtwLeaseV1}
    (h : verifyReplacementPrior prior next=.ok ()) :
    prior=.absent ∨ ∃ lease, prior=.trusted lease ∧ SameOwner lease next := by
  cases prior with
  | absent => exact .inl rfl
  | corrupt => cases h
  | untrusted => cases h
  | trusted lease =>
    rw [verifyReplacementPrior,unit_bind_ok,reject_ok,reject_ok] at h
    obtain ⟨_,howner⟩ := h
    simp only [Bool.or_eq_false_iff,decide_eq_false_iff_not,not_not] at howner
    obtain ⟨⟨⟨hinstall,hgeneration⟩,hboot⟩,hsession⟩ := howner
    exact .inr ⟨lease,rfl,hinstall,hgeneration,hboot,hsession⟩

/-- A snapshot of an absent leaf or of a lease has all of its bytes. -/
theorem shows_of_prior {prior : EtwLeaseSnapshot platform}
    (hbrand : prior.rootBrand=store.rootBrand)
    (hprior : classify platform leaf=(prior.observation,prior.state))
    (hkind : prior.observation=.absent ∨ ∃ lease, prior.observation=.trusted lease) :
    Shows store prior leaf := by
  have hobservation : observation platform leaf=prior.observation := congrArg Prod.fst hprior
  refine ⟨hbrand,hobservation.symm,?_⟩
  cases hkind with
  | inl habsent =>
    obtain ⟨hleaf,hclassify⟩ := classify_absent (hobservation.trans habsent)
    rw [hprior] at hclassify
    rw [hleaf]
    exact congrArg Prod.snd hclassify
  | inr htrusted =>
    obtain ⟨lease,hlease⟩ := htrusted
    obtain ⟨metadata,bytes,hleaf,hclassify⟩ := classify_trusted (hobservation.trans hlease)
    rw [hprior] at hclassify
    rw [hleaf]
    exact congrArg Prod.snd hclassify

variable {call : Call platform} {error : Option EtwLeasePersistenceError} {leaf' : Leaf}

theorem Effect.refused (h : Effect platform store leaf call error leaf')
    {found : EtwLeasePersistenceError} (herror : error=some found) :
    leaf'=leaf ∨ (found=.removeFailed ∧ call.syncFailed=true) := by
  cases h with
  | nothing => exact .inl rfl
  | replaced => cases herror
  | removed hbrand hprior hlease hfailed =>
    cases hfailed with
    | inl hnone => cases hnone.symm.trans herror
    | inr hsync =>
      cases hsync.1.symm.trans herror
      exact .inr ⟨rfl,hsync.2⟩

theorem Effect.owned (h : Effect platform store leaf call error leaf') (hchanged : leaf'≠leaf) :
    ∃ prior, call.prior=some prior ∧ Shows store prior leaf := by
  cases h with
  | nothing => exact absurd rfl hchanged
  | replaced hbrand hprior hlease howner hwritten =>
    refine ⟨_,rfl,shows_of_prior hbrand hprior ?_⟩
    exact (verifyReplacementPrior_ok howner).imp id (fun ⟨lease,htrusted,_⟩ => ⟨lease,htrusted⟩)
  | removed hbrand hprior hlease hfailed =>
    exact ⟨_,rfl,shows_of_prior hbrand hprior (.inr ⟨_,hlease⟩)⟩

/-- Only an absent leaf or a lease is ever touched. -/
theorem Effect.kept (h : Effect platform store leaf call error leaf')
    (habsent : observation platform leaf≠.absent)
    (htrusted : ∀ lease, observation platform leaf≠.trusted lease) : leaf'=leaf := by
  cases h with
  | nothing => rfl
  | replaced hbrand hprior hlease howner hwritten =>
    have hobservation := congrArg Prod.fst hprior
    cases verifyReplacementPrior_ok howner with
    | inl hold => exact absurd (hobservation.trans hold) habsent
    | inr hold =>
      obtain ⟨lease,hold,_⟩ := hold
      exact absurd (hobservation.trans hold) (htrusted lease)
  | removed hbrand hprior hlease hfailed =>
    exact absurd ((congrArg Prod.fst hprior).trans hlease) (htrusted _)

theorem Effect.absent (h : Effect platform store leaf call error leaf') (hleaf : leaf=.absent) :
    leaf'=.absent ∨ ∃ lease,
      leaseIsWellFormed lease=true ∧ observation platform leaf'=.trusted lease := by
  cases h with
  | nothing => exact .inl hleaf
  | replaced hbrand hprior hlease howner hwritten => exact .inr ⟨_,hlease,hwritten⟩
  | removed => exact .inl rfl

theorem Effect.trusted (h : Effect platform store leaf call error leaf') {lease : EtwLeaseV1}
    (hleaf : observation platform leaf=.trusted lease) :
    leaf'=leaf ∨ leaf'=.absent ∨ ∃ next, leaseIsWellFormed next=true ∧ SameOwner lease next ∧
      observation platform leaf'=.trusted next := by
  cases h with
  | nothing => exact .inl rfl
  | replaced hbrand hprior hlease howner hwritten =>
    have hobservation := congrArg Prod.fst hprior
    cases verifyReplacementPrior_ok howner with
    | inl hold => cases hleaf.symm.trans (hobservation.trans hold)
    | inr hold =>
      obtain ⟨lease',hold,hsame⟩ := hold
      cases hleaf.symm.trans (hobservation.trans hold)
      exact .inr (.inr ⟨_,hlease,hsame,hwritten⟩)
  | removed => exact .inr (.inl rfl)

include hcodec in
theorem call_effect (call : Call platform) :
    Effect platform store leaf call (call.run store leaf).1 (call.run store leaf).2 := by
  cases call with
  | observe authority io => exact .nothing _ _
  | replace authority prior lease io => exact replace_effect hcodec authority prior lease io
  | remove authority prior io => exact remove_effect authority prior io

include hcodec in
theorem call_careful (leaf : Leaf) (call : Call platform) : Careful store leaf call := by
  have heffect : Effect platform store leaf call (call.run store leaf).1
      (call.run store leaf).2 := call_effect hcodec call
  refine ⟨fun error => heffect.refused,heffect.owned,?_,?_,heffect.absent,
    fun lease => heffect.trusted⟩
  · intro hcorrupt
    exact heffect.kept (hcorrupt ▸ nofun) (hcorrupt ▸ nofun)
  · intro huntrusted
    exact heffect.kept (huntrusted ▸ nofun) (huntrusted ▸ nofun)

include hcodec in
theorem run_careful (leaf : Leaf) (events : List (Event platform)) :
    RunCareful store leaf events := by
  induction events generalizing leaf with
  | nil => exact trivial
  | cons event events ih =>
    cases event with
    | call call => exact ⟨call_careful hcodec leaf call,ih _⟩
    | outside leaf' => exact ⟨trivial,ih leaf'⟩

include hcodec in
/-- Until it is removed, a lease that nobody else touches keeps its owner. -/
theorem owner_kept (leaf : Leaf) (calls : List (Call platform)) (lease : EtwLeaseV1)
    (hlease : observation platform leaf=.trusted lease)
    (hpresent : .absent∉leaves store leaf (calls.map .call)) :
    ∀ leaf'∈leaves store leaf (calls.map .call), ∃ next,
      observation platform leaf'=.trusted next ∧ SameOwner lease next := by
  induction calls generalizing leaf lease with
  | nil =>
    intro leaf' hleaf'
    cases hleaf'
  | cons call calls ih =>
    simp only [List.map_cons,leaves,List.mem_cons,not_or] at hpresent ⊢
    obtain ⟨hfirst,hrest⟩ := hpresent
    have hnext : ∃ next, observation platform (step store leaf (.call call))=.trusted next ∧
        SameOwner lease next := by
      cases (call_careful hcodec leaf call).trusted lease hlease with
      | inl hsame =>
        refine ⟨lease,?_,SameOwner.refl lease⟩
        exact (congrArg (observation platform) hsame).trans hlease
      | inr hchanged =>
        obtain ⟨next,_,hsame,hnext⟩ := hchanged.resolve_left (fun habsent => hfirst habsent.symm)
        exact ⟨next,hnext,hsame⟩
    obtain ⟨next,htrusted,howner⟩ := hnext
    intro leaf' hleaf'
    cases hleaf' with
    | inl hhere => exact ⟨next,hhere ▸ htrusted,howner⟩
    | inr hlater =>
      obtain ⟨last,hlast,hsame⟩ := ih _ next htrusted hrest leaf' hlater
      exact ⟨last,hlast,howner.trans hsame⟩

end Effects

/-- Whatever the calls and the changes from outside, the store only touches a leaf that the
caller's snapshot shows, and a lease that only the store touches keeps its owner from its
creation to its removal. -/
theorem lease_evidence_kept (platform : Platform)
    (hcodec : ∀ lease bytes, platform.toVec lease=some bytes →
      platform.fromSlice bytes=some lease)
    (store : EtwLeaseStore) (leaf : Leaf) :
    (∀ events : List (Event platform), RunCareful store leaf events) ∧
    ∀ (calls : List (Call platform)) (lease : EtwLeaseV1),
      observation platform leaf=.trusted lease →
      .absent∉leaves store leaf (calls.map .call) →
      ∀ leaf'∈leaves store leaf (calls.map .call), ∃ next,
        observation platform leaf'=.trusted next ∧ SameOwner lease next :=
  ⟨run_careful hcodec leaf,owner_kept hcodec leaf⟩

section Upgrade

def networkLease (phase : EtwLeasePhase) : EtwLeaseV1 where
  phase := phase
  installId := .replicate 16 1
  serviceGeneration := .replicate 16 2
  serviceInstanceId := .replicate 16 3
  bootIdentity := .replicate 16 4
  controller := ⟨42,100⟩
  session := ⟨"BatCave-Network-v1",.replicate 16 5,1,.replicate 32 6⟩

def jsonBytes (byte count : Nat) : String :=
  "["++String.intercalate "," (List.replicate count (toString byte))++"]"

def jsonLease (phase : String) : List UInt8 :=
  Lib.Text.utf8 ("\x7b\"schema_version\":1,\"phase\":\""++phase++"\",\"install_id\":"++
    jsonBytes 1 16++",\"service_generation\":"++jsonBytes 2 16++",\"service_instance_id\":"++
    jsonBytes 3 16++",\"boot_identity\":"++jsonBytes 4 16++
    ",\"controller\":\x7b\"process_id\":42,\"process_started_at\":100\x7d,"++
    "\"session\":\x7b\"name\":\"BatCave-Network-v1\",\"provider_id\":"++jsonBytes 5 16++
    ",\"session_flags\":1,\"configuration_digest\":"++jsonBytes 6 32++"\x7d\x7d")

/-- A system on which only these two leases are ever written. -/
def upgradePlatform : Platform where
  unix := true
  toVec lease :=
    if lease=networkLease .intent then some (jsonLease "intent")
    else if lease=networkLease .active then some (jsonLease "active")
    else none
  fromSlice bytes :=
    if bytes=jsonLease "intent" then some (networkLease .intent)
    else if bytes=jsonLease "active" then some (networkLease .active)
    else none

def intentLeaf : Leaf := .present ⟨true,false,0o600⟩ (jsonLease "intent")

set_option maxRecDepth 4000 in
theorem intentLeaf_classify : classify upgradePlatform intentLeaf=
    (.trusted (networkLease .intent),.trustedBytes (jsonLease "intent")) := by
  decide

def intentSnapshot : EtwLeaseSnapshot upgradePlatform :=
  ⟨.trusted (networkLease .intent),.trustedBytes (jsonLease "intent"),7,
    intentLeaf,intentLeaf_classify⟩

theorem upgrade_codec (lease : EtwLeaseV1) (bytes : List UInt8)
    (h : upgradePlatform.toVec lease=some bytes) : upgradePlatform.fromSlice bytes=some lease := by
  have hdistinct : jsonLease "active"≠jsonLease "intent" := by decide
  dsimp only [upgradePlatform] at h ⊢
  split at h
  · next hlease =>
    cases h
    rw [if_pos rfl,hlease]
  · split at h
    · next hlease =>
      cases h
      rw [if_neg hdistinct,if_pos rfl,hlease]
    · cases h

set_option maxRecDepth 4000 in
/-- The lease becomes active under the snapshot of its intent. -/
theorem intent_made_active :
    leaves ⟨7⟩ intentLeaf [.call (.replace ⟨7⟩ intentSnapshot (networkLease .active) {})]=
        [.present ⟨true,false,0o600⟩ (jsonLease "active")] ∧
      RunCareful ⟨7⟩ intentLeaf
        [.call (.replace ⟨7⟩ intentSnapshot (networkLease .active) {})] ∧
      ∀ leaf'∈leaves ⟨7⟩ intentLeaf
        [.call (.replace ⟨7⟩ intentSnapshot (networkLease .active) {})],
        ∃ next, observation upgradePlatform leaf'=.trusted next ∧
          SameOwner (networkLease .intent) next := by
  have hleaves : leaves ⟨7⟩ intentLeaf
      [.call (.replace ⟨7⟩ intentSnapshot (networkLease .active) {})]=
        [.present ⟨true,false,0o600⟩ (jsonLease "active")] := by decide
  refine ⟨hleaves,(lease_evidence_kept upgradePlatform upgrade_codec ⟨7⟩ intentLeaf).1 _,?_⟩
  refine (lease_evidence_kept upgradePlatform upgrade_codec ⟨7⟩ intentLeaf).2
    [.replace ⟨7⟩ intentSnapshot (networkLease .active) {}] (networkLease .intent)
    (congrArg Prod.fst intentLeaf_classify) ?_
  change .absent∉leaves ⟨7⟩ intentLeaf
    [.call (.replace ⟨7⟩ intentSnapshot (networkLease .active) {})]
  rw [hleaves]
  simp

end Upgrade
end BatCave.CollectorService.EtwLease
