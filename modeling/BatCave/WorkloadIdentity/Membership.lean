import BatCave.Lib.Bytes
import BatCave.Lib.Chain
import BatCave.Lib.Table
import BatCave.Lib.Text
import BatCave.Contracts.Metrics
import BatCave.Network.Attribution
import BatCave.Lib.Worklist
import Mathlib.Data.Fintype.BigOperators
import Mathlib.Data.List.NodupEquivFin
import Mathlib.Data.List.Sort
import Mathlib.Data.String.Basic

/-! Which workload every process of a sample belongs to. Membership rests on verified
ancestry or on the approved generations of the sample, never on a display name. The
digest is a parameter: nothing is assumed of it here. -/
namespace BatCave.WorkloadIdentity
open BatCave.Lib.Bytes BatCave.Lib.Chain BatCave.Lib.Table BatCave.Lib.Text
open BatCave.Contracts (ProcessSample)
open BatCave.NetworkAttribution (ProcessGeneration)

/-- Native ownership approval belongs to one observed process sample. -/
structure BatCaveWorkloadContext where
  desktop : ProcessGeneration
  members : List ProcessGeneration

structure WorkloadMembership where
  key : String
  representativeIndex : Nat
  batcave : Bool
  deriving DecidableEq, Repr

/-- A position of the sample. -/
abbrev Row (processes : List ProcessSample) := Fin processes.length

def processPid (process : ProcessSample) : Option Nat :=
  (parseU32 process.pid).filter (fun pid => 0 < pid)

section Executables

/-- The first part that names a bundle and is followed by its `Contents`. -/
def bundleIndex (parts : List String) : Option Nat :=
  (parts.zip (parts.drop 1)).findIdx?
    (fun pair => ".app".toList.isSuffixOf pair.1.toList && pair.2=="Contents")

/-- The executable a bundle is started by, or one of its nested helpers. -/
def bundleExecutable (relative : List String) : Bool :=
  (relative.length==2 && relative[0]? ==some "MacOS") ||
  (relative.head? ==some "Frameworks" && 5 ≤ relative.length &&
    relative[relative.length-2]? ==some "MacOS" &&
    relative[relative.length-3]? ==some "Contents" &&
    (relative[relative.length-4]?).any (fun part => ".app".toList.isSuffixOf part.toList))

def windowsPath (exe : String) : Bool :=
  (utf8 exe)[1]? ==some 0x3A || "\\\\".toList.isPrefixOf exe.toList

def normalizedPath (exe : String) : String :=
  if windowsPath exe then String.ofList (exe.toList.map (fun c => if c= '\\' then '/' else c))
  else exe

def pathParts (path : String) : List String := (split '/' path).filter (fun part => part≠"")

/-- Normalizes syntax only. -/
def executableIdentity (exe : String) : Option String :=
  if exe="" ∨ exe.toList.any isControl then none
  else
    let windows := windowsPath exe
    let normalized := normalizedPath exe
    if "/".toList.isPrefixOf normalized.toList ||
        (windows && (utf8 normalized)[2]? ==some 0x2F) then
      let parts := pathParts normalized
      if parts.any (fun part => part=="." || part=="..") then none
      else
        match (if windows then none else bundleIndex parts) with
        | some index =>
          if bundleExecutable (parts.drop (index+2)) then
            some ("bundle:/"++"/".intercalate (parts.take (index+1)))
          else some ("exe:"++normalized)
        | none => some ("exe:"++normalized)
    else none

end Executables

section Parents
variable (processes : List ProcessSample)

def byPid : AList (fun _ : Nat => List (Row processes)) :=
  pushAll ((List.finRange processes.length).filterMap
    (fun index => (processPid processes[index]).map (fun pid => (pid,index))))

/-- The row a process names as its parent, before any generation is checked. -/
def parents (index : Row processes) : Option (Row processes) := do
  let pid ← processPid processes[index]
  let own ← (byPid processes).lookup pid
  if own.length≠1 then none
  else
    let parentPid ← processes[index].parentPid.bind parseU32
    match (byPid processes).lookup parentPid with
    | some [parent] => some parent
    | _ => none

/-- Every chain reaching a cycle is rejected, including descendants of that cycle. -/
def acyclic : Row processes → Option Bool :=
  classify (parents processes) (processes.length+1) (List.finRange processes.length)

def verifiedParent (index : Row processes) : Option (Row processes) := do
  let parent ← parents processes index
  if acyclic processes index=some true ∧ 0 < processes[index].startTimeMs ∧
      0 < processes[parent].startTimeMs ∧
      processes[parent].startTimeMs < processes[index].startTimeMs then some parent
  else none

def verifiedParentIndices : List (Option Nat) :=
  (List.finRange processes.length).map (fun index => (verifiedParent processes index).map Fin.val)

end Parents

section Memberships
variable (processes : List ProcessSample) (context : Option BatCaveWorkloadContext)

def executableId (index : Row processes) : Option String :=
  executableIdentity processes[index].exe

def matchingIndex (generation : ProcessGeneration) : Option (Row processes) :=
  match (byPid processes).lookup generation.pid with
  | some [index] =>
    if 0 < generation.startTimeMs ∧ processes[index].startTimeMs=generation.startTimeMs ∧
        (executableId processes index).isSome then some index
    else none
  | _ => none

def approvedBatcaveMembers : Option (Row processes × List (Row processes)) := do
  let context ← context
  if context.desktop.pid=0 ∨ context.desktop∉context.members then none
  else
    let desktop ← matchingIndex processes context.desktop
    some (desktop,context.members.filterMap (matchingIndex processes))

def approvedMember (index : Row processes) : Bool :=
  (approvedBatcaveMembers processes context).any (fun approved => index∈approved.2)

/-- The step a root resolution takes. -/
def joinsParent (index : Row processes) : Option (Row processes) := do
  let parent ← verifiedParent processes index
  if executableId processes index=none ∨
      executableId processes index≠executableId processes parent ∨
      approvedMember processes context index≠approvedMember processes context parent then none
  else some parent

def resolvedRoots : Row processes → Option (Row processes) :=
  resolve (joinsParent processes context) (processes.length+1) (List.finRange processes.length)

def root (index : Row processes) : Row processes :=
  match approvedBatcaveMembers processes context with
  | some (desktop,members) =>
    if index∈members then desktop
    else (resolvedRoots processes context index).getD index
  | none => (resolvedRoots processes context index).getD index

def members : AList (fun _ : Row processes => List (Row processes)) :=
  pushAll ((List.finRange processes.length).map (fun index => (root processes context index,index)))

def pidCount (pid : String) : Nat := processes.countP (fun process => process.pid=pid)

def identity (process : ProcessSample) : String :=
  process.pid++":"++Nat.repr process.startTimeMs

/-- The executable and the sorted identities, each behind its length. -/
def scopeValues (root : Row processes) (scope : List (Row processes)) : List String :=
  (executableId processes root).getD ""::
    (scope.map (fun index => identity processes[index])).insertionSort (· ≤ ·)

def scopePreimage (root : Row processes) (scope : List (Row processes)) : List UInt8 :=
  ((scopeValues processes root scope).map utf8).flatMap lengthPrefixed++
    (if pidCount processes processes[root].pid≠1 then toLe 8 root.val else [])

variable (sha256 : List UInt8 → List UInt8)

def scopeKey (root : Row processes) (scope : List (Row processes)) : String :=
  "scope:"++hex (sha256 (scopePreimage processes root scope))

def keys (root : Row processes) : Option String :=
  ((members processes context).lookup root).map (scopeKey processes sha256 root)

/-- The membership of one row. `keys[&root]` has an entry for every root. -/
def membership (index : Row processes) : WorkloadMembership where
  key := (keys processes context sha256 (root processes context index)).getD ""
  representativeIndex := (root processes context index).val
  batcave := (approvedBatcaveMembers processes context).any
    (fun approved => root processes context index=approved.1)

def workloadMembershipsWithContext : List WorkloadMembership :=
  (List.finRange processes.length).map (membership processes context sha256)

def workloadMemberships : List WorkloadMembership :=
  workloadMembershipsWithContext processes none sha256

end Memberships
end BatCave.WorkloadIdentity

/-! Grouping against a plain definition: who a process's verified parent is, who is an
approved member, where following parents leads. The tables of the three passes and the
order they are filled in do not show in the result. -/
namespace BatCave.WorkloadIdentity
open BatCave.Lib.Chain BatCave.Lib.Table BatCave.Lib.Text
open BatCave.Contracts (ProcessSample)
open BatCave.NetworkAttribution (ProcessGeneration)

section Plain
variable (processes : List ProcessSample) (context : Option BatCaveWorkloadContext)

/-- The row is the only one with the pid. -/
def UniquePid (pid : Nat) (index : Row processes) : Prop :=
  ∀ other : Row processes, processPid processes[other]=some pid ↔ other=index

def NamesParent (index parent : Row processes) : Prop :=
  ∃ pid parentPid, UniquePid processes pid index ∧
    processes[index].parentPid.bind parseU32=some parentPid ∧ UniquePid processes parentPid parent

/-- Following named parents comes back to where it was. -/
def ReachesCycle (index : Row processes) : Prop :=
  ∃ c, Relation.ReflTransGen (NamesParent processes) index c ∧
    Relation.TransGen (NamesParent processes) c c

/-- The parent is named, unambiguous, on no cycle and strictly older. -/
def VerifiedParent (index parent : Row processes) : Prop :=
  NamesParent processes index parent ∧ ¬ReachesCycle processes index ∧
    0 < processes[parent].startTimeMs ∧
    processes[parent].startTimeMs < processes[index].startTimeMs

/-- The row is the generation: unique parsed pid, equal positive start time, valid
executable identity. -/
def Matches (generation : ProcessGeneration) (index : Row processes) : Prop :=
  UniquePid processes generation.pid index ∧ 0 < generation.startTimeMs ∧
    processes[index].startTimeMs=generation.startTimeMs ∧ (executableId processes index).isSome

/-- The row is the desktop of a context that lists its desktop. -/
def Desktop (index : Row processes) : Prop :=
  ∃ c, context=some c ∧ c.desktop∈c.members ∧ Matches processes c.desktop index

/-- The row is a listed generation of a context whose listed desktop is in the sample. -/
def Approved (index : Row processes) : Prop :=
  ∃ c, context=some c ∧ c.desktop∈c.members ∧ (∃ desktop, Matches processes c.desktop desktop) ∧
    ∃ generation∈c.members, Matches processes generation index

def Joins (index parent : Row processes) : Prop :=
  VerifiedParent processes index parent ∧ executableId processes index≠none ∧
    executableId processes index=executableId processes parent ∧
    ¬Approved processes context index ∧ ¬Approved processes context parent

/-- Following parents while they join leads to the root, which joins no parent. -/
def FollowsTo (index root : Row processes) : Prop :=
  Relation.ReflTransGen (Joins processes context) index root ∧
    ∀ parent, ¬Joins processes context root parent

end Plain

section Lookups
variable {processes : List ProcessSample} {context : Option BatCaveWorkloadContext}

theorem UniquePid.pid {pid : Nat} {i : Row processes} (h : UniquePid processes pid i) :
    processPid processes[i]=some pid := (h i).mpr rfl

theorem UniquePid.unique {pid : Nat} {i j : Row processes} (h : UniquePid processes pid i)
    (h' : UniquePid processes pid j) : i=j := (h' i).mp h.pid

theorem eq_singleton_iff {α : Type*} {l : List α} (h : l.Nodup) (a : α) :
    l=[a] ↔ ∀ b, b∈l ↔ b=a := by
  constructor
  · intro hl b
    simp [hl]
  · intro hl
    have hp : l.Perm [a] := (List.perm_ext_iff_of_nodup h (by simp)).mpr (by simpa using hl)
    exact List.perm_singleton.mp hp

theorem byPid_lookup {pid : Nat} {i : Row processes} :
    (byPid processes).lookup pid=some [i] ↔ UniquePid processes pid i := by
  rw [byPid,lookup_pushAll_eq_some,pushed_filterMap,
    eq_singleton_iff ((List.nodup_finRange _).filter _)]
  simp [UniquePid]

theorem mem_byPid {pid : Nat} {i : Row processes} {own : List (Row processes)}
    (h : (byPid processes).lookup pid=some own) (hi : processPid processes[i]=some pid) :
    i∈own := by
  rw [byPid,lookup_pushAll_eq_some,pushed_filterMap] at h
  rw [← h.2]
  simpa using hi

theorem parents_eq_some {i p : Row processes} :
    parents processes i=some p ↔ NamesParent processes i p := by
  simp only [parents,Option.bind_eq_bind,Option.bind_eq_some_iff,NamesParent]
  constructor
  · rintro ⟨pid,hpid,own,hown,hrest⟩
    split at hrest
    · cases hrest
    · next hlen =>
      obtain ⟨parentPid,hparent,hmatch⟩ := Option.bind_eq_some_iff.mp hrest
      have hi := mem_byPid hown hpid
      have hsingle : own=[i] := by
        cases own with
        | nil => cases hi
        | cons a rest =>
          cases rest with
          | nil => rw [List.mem_singleton.mp hi]
          | cons b rest => simp at hlen
      rw [hsingle] at hown
      refine ⟨pid,parentPid,byPid_lookup.mp hown,Option.bind_eq_some_iff.mp hparent,?_⟩
      split at hmatch
      · next q hq =>
        cases hmatch
        exact byPid_lookup.mp hq
      · cases hmatch
  · rintro ⟨pid,parentPid,hown,hparent,hp⟩
    refine ⟨pid,hown.pid,[i],byPid_lookup.mpr hown,?_⟩
    rw [if_neg (by simp)]
    refine Option.bind_eq_some_iff.mpr ⟨parentPid,Option.bind_eq_some_iff.mpr hparent,?_⟩
    rw [byPid_lookup.mpr hp]

theorem acyclic_eq_true {i : Row processes} :
    acyclic processes i=some true ↔ ¬ReachesCycle processes i := by
  have hrel : (fun x y => parents processes x=some y)=NamesParent processes := by
    funext x y
    exact propext parents_eq_some
  have hspec := @classify_spec _ _ _ (parents processes) (processes.length+1) (by simp)
    (List.finRange processes.length)
  have hends := @terminates_iff_no_cycle _ _ (parents processes) i
  rw [hrel] at hends
  obtain ⟨v,hv⟩ := Option.isSome_iff_exists.mp (hspec.2 i (List.mem_finRange i))
  have hans := hspec.1 i v hv
  rw [acyclic,hv,Option.some.injEq,hans,hends]
  simp [ReachesCycle]

theorem verifiedParent_eq_some {i p : Row processes} :
    verifiedParent processes i=some p ↔ VerifiedParent processes i p := by
  simp only [verifiedParent,Option.bind_eq_bind,Option.bind_eq_some_iff,VerifiedParent,
    ← acyclic_eq_true]
  constructor
  · rintro ⟨q,hq,hrest⟩
    split at hrest
    · next h =>
      cases hrest
      exact ⟨parents_eq_some.mp hq,h.1,h.2.2⟩
    · cases hrest
  · rintro ⟨hp,ha,hpos,hlt⟩
    exact ⟨p,parents_eq_some.mpr hp,if_pos ⟨ha,by omega,hpos,hlt⟩⟩

theorem matchingIndex_eq_some {g : ProcessGeneration} {i : Row processes} :
    matchingIndex processes g=some i ↔ Matches processes g i := by
  simp only [matchingIndex,Matches]
  constructor
  · intro h
    split at h
    · next j hj =>
      split at h
      · next hm =>
        cases h
        exact ⟨byPid_lookup.mp hj,hm⟩
      · cases h
    · cases h
  · rintro ⟨hu,hm⟩
    rw [byPid_lookup.mpr hu]
    exact if_pos hm

theorem Matches.unique {g : ProcessGeneration} {i j : Row processes}
    (h : Matches processes g i) (h' : Matches processes g j) : i=j := h.1.unique h'.1

/-- What the code calls the approved set is what the context and the sample say. -/
theorem approved_eq_some {d : Row processes} {ms : List (Row processes)}
    (h : approvedBatcaveMembers processes context=some (d,ms)) :
    Desktop processes context d ∧ ∀ i, i∈ms ↔ Approved processes context i := by
  cases context with
  | none => simp [approvedBatcaveMembers] at h
  | some c =>
    simp only [approvedBatcaveMembers,Option.bind_eq_bind,Option.bind_some] at h
    split at h
    · cases h
    · next hc =>
      rw [not_or,not_not] at hc
      obtain ⟨desktop,hd,he⟩ := Option.bind_eq_some_iff.mp h
      simp only [Option.some.injEq,Prod.mk.injEq] at he
      obtain ⟨rfl,rfl⟩ := he
      have hmatch := matchingIndex_eq_some.mp hd
      refine ⟨⟨c,rfl,hc.2,hmatch⟩,?_⟩
      intro i
      simp only [List.mem_filterMap,matchingIndex_eq_some]
      constructor
      · intro hi
        exact ⟨c,rfl,hc.2,⟨desktop,hmatch⟩,hi⟩
      · intro ⟨c',hc',_,_,hi⟩
        cases hc'
        exact hi

theorem Matches.pid_pos {g : ProcessGeneration} {i : Row processes}
    (h : Matches processes g i) : g.pid≠0 := by
  intro h0
  have hp := h.1.pid
  rw [h0,processPid,Option.filter_eq_some_iff] at hp
  simp at hp

theorem approved_eq_none (h : approvedBatcaveMembers processes context=none)
    (i : Row processes) : ¬Approved processes context i := by
  intro ⟨c,hc,hlisted,⟨d,hd⟩,_⟩
  subst hc
  simp only [approvedBatcaveMembers,Option.bind_eq_bind,Option.bind_some] at h
  rw [if_neg (by simp [hlisted,hd.pid_pos]),matchingIndex_eq_some.mpr hd] at h
  cases h

theorem approvedMember_iff {i : Row processes} :
    approvedMember processes context i=true ↔ Approved processes context i := by
  simp only [approvedMember]
  cases h : approvedBatcaveMembers processes context with
  | none => simp [approved_eq_none h i]
  | some approved => simp [(approved_eq_some h).2 i]

theorem Desktop.unique {i j : Row processes} (h : Desktop processes context i)
    (h' : Desktop processes context j) : i=j := by
  obtain ⟨c,hc,_,hm⟩ := h
  obtain ⟨c',hc',_,hm'⟩ := h'
  rw [hc,Option.some.injEq] at hc'
  rw [← hc'] at hm'
  exact hm.unique hm'

/-- The desktop is one of the approved members. -/
theorem Desktop.approved {i : Row processes} (h : Desktop processes context i) :
    Approved processes context i := by
  obtain ⟨c,hc,hlisted,hm⟩ := h
  exact ⟨c,hc,hlisted,⟨i,hm⟩,c.desktop,hlisted,hm⟩

theorem joinsParent_eq_some {i p : Row processes} :
    joinsParent processes context i=some p ↔
      VerifiedParent processes i p ∧ executableId processes i≠none ∧
        executableId processes i=executableId processes p ∧
        (Approved processes context i ↔ Approved processes context p) := by
  simp only [joinsParent,Option.bind_eq_bind,Option.bind_eq_some_iff,verifiedParent_eq_some,
    ← approvedMember_iff]
  constructor
  · rintro ⟨q,hq,hrest⟩
    split at hrest
    · cases hrest
    · next h =>
      simp only [not_or,not_not] at h
      cases hrest
      exact ⟨hq,h.1,h.2.1,by rw [h.2.2]⟩
  · rintro ⟨hp,hne,heq,happ⟩
    exact ⟨p,hp,if_neg (by simp [hne,← heq,Bool.eq_iff_iff.mpr happ])⟩

end Lookups

section Parents

/-- Every pass over a row finds its answer with one step for each row and one more. -/
theorem walk_answers (processes : List ProcessSample) (done : List (Row processes))
    (index : Row processes) :
    (walkEnds (parents processes) (classify (parents processes) (processes.length+1) done)
      (processes.length+1) [] (some index)).isSome := by
  have hfuel : Fintype.card (Row processes)+1 ≤ processes.length+1 := by simp
  have hknown := (@classify_spec _ _ _ (parents processes) _ hfuel done).1
  have hfuel' : Fintype.card (Row processes)+1 ≤
      processes.length+1+([] : List (Row processes)).length := hfuel
  obtain ⟨answer,visited,hwalk,_⟩ := walkEnds_spec hknown (processes.length+1) [] (some index)
    List.nodup_nil hfuel' (fun _ _ => .nil) nofun
  rw [hwalk]
  rfl

theorem getElem?_verifiedParentIndices (processes : List ProcessSample) (index : Row processes) :
    (verifiedParentIndices processes)[index.val]? =
      some ((verifiedParent processes index).map Fin.val) := by
  rw [verifiedParentIndices,List.getElem?_map,List.getElem?_eq_getElem (by simp)]
  simp

/-- The parents a sample verifies, row by row: the row and its parent have pids of their own,
no walk from the row comes back to where it was, and the parent is strictly older. Every walk
over the rows ends, whichever rows were answered before it. -/
theorem verified_parent_indices_spec (processes : List ProcessSample) :
    (verifiedParentIndices processes).length=processes.length ∧
    (∀ index : Row processes, (walkEnds (parents processes)
      (classify (parents processes) (processes.length+1)
        ((List.finRange processes.length).take index)) (processes.length+1) []
        (some index)).isSome) ∧
    (∀ index parent : Row processes,
      (verifiedParentIndices processes)[index.val]? =some (some parent.val) ↔
        (∃ pid parentPid, UniquePid processes pid index ∧
          processes[index].parentPid.bind parseU32=some parentPid ∧
          UniquePid processes parentPid parent) ∧
        ¬ReachesCycle processes index ∧ 0 < processes[index].startTimeMs ∧
        0 < processes[parent].startTimeMs ∧
        processes[parent].startTimeMs < processes[index].startTimeMs) ∧
    (∀ index : Row processes,
      (∃ parent : Row processes,
        (verifiedParentIndices processes)[index.val]? =some (some parent.val)) ∨
      (verifiedParentIndices processes)[index.val]? =some none) ∧
    ∀ index : Row processes, ReachesCycle processes index →
      (verifiedParentIndices processes)[index.val]? =some none := by
  have hsome (index parent : Row processes) :
      (verifiedParentIndices processes)[index.val]? =some (some parent.val) ↔
        VerifiedParent processes index parent := by
    rw [getElem?_verifiedParentIndices,Option.some.injEq,Option.map_eq_some_iff,
      ← verifiedParent_eq_some]
    constructor
    · intro h
      obtain ⟨found,hfound,hval⟩ := h
      rw [hfound,Fin.ext hval]
    · intro h
      exact ⟨parent,h,rfl⟩
  refine ⟨by simp [verifiedParentIndices],fun index => walk_answers processes _ index,?_,?_,?_⟩
  · intro index parent
    rw [hsome,VerifiedParent,NamesParent]
    constructor
    · intro h
      obtain ⟨hnames,hends,hpositive,holder⟩ := h
      exact ⟨hnames,hends,by omega,hpositive,holder⟩
    · intro h
      obtain ⟨hnames,hends,_,hpositive,holder⟩ := h
      exact ⟨hnames,hends,hpositive,holder⟩
  · intro index
    rw [getElem?_verifiedParentIndices]
    cases verifiedParent processes index with
    | none => exact .inr rfl
    | some parent => exact .inl ⟨parent,rfl⟩
  · intro index hcycle
    rw [getElem?_verifiedParentIndices]
    cases hfound : verifiedParent processes index with
    | none => rfl
    | some parent => exact absurd hcycle (verifiedParent_eq_some.mp hfound).2.1

end Parents

section Roots
variable {processes : List ProcessSample} {context : Option BatCaveWorkloadContext}

/-- Away from the approved members the code's links are the plain ones. -/
theorem joins_iff {i p : Row processes} (hi : ¬Approved processes context i) :
    joinsParent processes context i=some p ↔ Joins processes context i p := by
  rw [joinsParent_eq_some,Joins]
  simp [hi]

/-- Verified parents are strictly older, so following them ends. -/
theorem joinsParent_terminates (i : Row processes) :
    Terminates (joinsParent processes context) i := by
  refine terminates_of_descent (fun j => processes[j].startTimeMs) ?_ i
  intro j p h
  exact (joinsParent_eq_some.mp h).1.2.2.2

theorem resolvedRoots_eq_some (i : Row processes) :
    ∃ r, resolvedRoots processes context i=some r ∧ EndsAt (joinsParent processes context) i r := by
  have hspec := @resolve_spec _ _ _ (joinsParent processes context)
    (processes.length+1) (by simp) joinsParent_terminates
    (List.finRange processes.length)
  obtain ⟨r,hr⟩ := Option.isSome_iff_exists.mp (hspec.2 i (List.mem_finRange i))
  exact ⟨r,hr,hspec.1 i r hr⟩

theorem EndsAt.followsTo {i r : Row processes}
    (h : EndsAt (joinsParent processes context) i r) (hi : ¬Approved processes context i) :
    FollowsTo processes context i r ∧ ¬Approved processes context r := by
  induction h with
  | @stop a hn =>
    refine ⟨⟨.refl,?_⟩,hi⟩
    intro p hp
    rw [← joins_iff hi,hn] at hp
    cases hp
  | @step a b r hb _ ih =>
    have hj := (joins_iff hi).mp hb
    obtain ⟨hf,hr⟩ := ih hj.2.2.2.2
    exact ⟨⟨.head hj hf.1,hf.2⟩,hr⟩

theorem Joins.unique {i p q : Row processes} (hp : Joins processes context i p)
    (hq : Joins processes context i q) : p=q := by
  have h := (joins_iff hp.2.2.2.1).mpr hp
  rw [(joins_iff hq.2.2.2.1).mpr hq,Option.some.injEq] at h
  exact h.symm

/-- There is one root to follow to. -/
theorem FollowsTo.unique {i r r' : Row processes} (h : FollowsTo processes context i r)
    (h' : FollowsTo processes context i r') : r=r' := by
  obtain ⟨hr,hstop⟩ := h
  obtain ⟨hr',hstop'⟩ := h'
  induction hr using Relation.ReflTransGen.head_induction_on with
  | refl =>
    cases hr'.cases_head with
    | inl h => exact h
    | inr h =>
      obtain ⟨c,hc,_⟩ := h
      exact absurd hc (hstop c)
  | head hab _ ih =>
    cases hr'.cases_head with
    | inl h =>
      rw [h] at hab
      exact absurd hab (hstop' _)
    | inr h =>
      obtain ⟨c,hc,hcr⟩ := h
      rw [hc.unique hab] at hcr
      exact ih hcr

/-- Where a row is put, said plainly. -/
theorem root_spec (i : Row processes) :
    (Approved processes context i → Desktop processes context (root processes context i)) ∧
    (¬Approved processes context i → FollowsTo processes context i (root processes context i) ∧
      ¬Approved processes context (root processes context i)) := by
  obtain ⟨r,hr,hends⟩ := @resolvedRoots_eq_some _ context i
  cases h : approvedBatcaveMembers processes context with
  | none =>
    have hroot : root processes context i=r := by simp [root,h,hr]
    rw [hroot]
    exact ⟨fun ha => absurd ha (approved_eq_none h i),EndsAt.followsTo hends⟩
  | some approved =>
    obtain ⟨hd,hms⟩ := approved_eq_some h
    have hroot : root processes context i=if i∈approved.2 then approved.1 else r := by
      simp [root,h,hr]
    rw [hroot]
    refine ⟨fun ha => ?_,fun ha => ?_⟩
    · rwa [if_pos ((hms i).mpr ha)]
    · rw [if_neg (fun hm => ha ((hms i).mp hm))]
      exact EndsAt.followsTo hends ha

theorem batcave_iff (sha256 : List UInt8 → List UInt8) (i : Row processes) :
    (membership processes context sha256 i).batcave=true ↔ Approved processes context i := by
  have hroot := @root_spec _ context i
  simp only [membership,Option.any_eq_true_iff_get,decide_eq_true_eq]
  cases h : approvedBatcaveMembers processes context with
  | none => simp [approved_eq_none h i]
  | some approved =>
    have hd := (approved_eq_some h).1
    simp only [Option.isSome_some,Option.get_some,exists_true_left]
    constructor
    · intro he
      by_contra hn
      exact (hroot.2 hn).2 (by rw [he]; exact hd.approved)
    · intro ha
      exact (hroot.1 ha).unique hd

end Roots
end BatCave.WorkloadIdentity

/-! What a workload key says. The hashed text of a scope can be read back, so a key
stands for one scope of one sample; and it does not depend on the order the sample
lists its processes in. -/
namespace BatCave.WorkloadIdentity
open BatCave.Lib.Bytes BatCave.Lib.Table BatCave.Lib.Text
open BatCave.Contracts (ProcessSample)

section Scopes
variable (processes : List ProcessSample) (context : Option BatCaveWorkloadContext)

/-- The rows put under a root, in sample order. -/
def scope (r : Row processes) : List (Row processes) :=
  (List.finRange processes.length).filter (fun i => root processes context i=r)

variable {processes context}

@[simp] theorem mem_scope {i r : Row processes} :
    i∈scope processes context r ↔ root processes context i=r := by
  simp [scope]

theorem scope_nodup (r : Row processes) : (scope processes context r).Nodup :=
  (List.nodup_finRange _).filter _

/-- A root is its own root. -/
theorem root_root (i : Row processes) :
    root processes context (root processes context i)=root processes context i := by
  have hi := @root_spec _ context i
  have hr := @root_spec _ context (root processes context i)
  by_cases ha : Approved processes context i
  · have hd := hi.1 ha
    exact (hr.1 hd.approved).unique hd
  · obtain ⟨hf,hn⟩ := hi.2 ha
    have hself : FollowsTo processes context (root processes context i)
        (root processes context i) := ⟨.refl,hf.2⟩
    exact (hr.2 hn).1.unique hself

theorem keys_root (sha256 : List UInt8 → List UInt8) (i : Row processes) :
    keys processes context sha256 (root processes context i)=
      some (scopeKey processes sha256 (root processes context i)
        (scope processes context (root processes context i))) := by
  have hmem : i∈scope processes context (root processes context i) := mem_scope.mpr rfl
  have hlook : (members processes context).lookup (root processes context i)=
      some (scope processes context (root processes context i)) := by
    rw [members,lookup_pushAll_eq_some,pushed_map]
    exact ⟨List.ne_nil_of_mem hmem,rfl⟩
  rw [keys,hlook,Option.map_some]

theorem membership_key (sha256 : List UInt8 → List UInt8) (i : Row processes) :
    (membership processes context sha256 i).key=
      scopeKey processes sha256 (root processes context i)
        (scope processes context (root processes context i)) := by
  simp [membership,keys_root]

end Scopes

section Sizes

/-- What Rust promises of a slice of samples: its rows and its strings fit a signed
machine word, and start times are machine words. -/
structure Addressable (processes : List ProcessSample) : Prop where
  rows : processes.length < 2^63
  pids : ∀ process∈processes, process.pid.utf8ByteSize < 2^63
  exes : ∀ process∈processes, process.exe.utf8ByteSize < 2^63
  starts : ∀ process∈processes, process.startTimeMs < 2^64

theorem utf8ByteSize_normalizedPath (exe : String) :
    (normalizedPath exe).utf8ByteSize=exe.utf8ByteSize := by
  simp only [normalizedPath]
  split
  · have hsize : ∀ c : Char, (if c= '\\' then '/' else c).utf8Size=c.utf8Size := by
      intro c
      split
      · next h => rw [h]; rfl
      · rfl
    rw [utf8ByteSize_ofList,List.map_map]
    conv_rhs => rw [← String.ofList_toList (s := exe),utf8ByteSize_ofList]
    exact congrArg List.sum (List.map_congr_left (fun c _ => hsize c))
  · rfl

/-- An executable identity is little longer than the path it comes from. -/
theorem executableIdentity_size {exe id : String} (h : executableIdentity exe=some id) :
    id.utf8ByteSize ≤ exe.utf8ByteSize+9 := by
  have hpath := utf8ByteSize_normalizedPath exe
  have hexe : ("exe:"++normalizedPath exe).utf8ByteSize ≤ exe.utf8ByteSize+9 := by
    rw [String.utf8ByteSize_append,hpath]
    have h4 : "exe:".utf8ByteSize=4 := by decide
    omega
  have hbundle : ∀ n, ("bundle:/"++"/".intercalate
      ((pathParts (normalizedPath exe)).take n)).utf8ByteSize ≤ exe.utf8ByteSize+9 := by
    intro n
    have hsub : ((pathParts (normalizedPath exe)).take n).Sublist
        (split '/' (normalizedPath exe)) :=
      (List.take_sublist n _).trans List.filter_sublist
    have hle := @intercalate_split_size_le "/" '/' (by decide) (by decide) _ _ hsub
    have h8 : "bundle:/".utf8ByteSize=8 := by decide
    rw [String.utf8ByteSize_append]
    omega
  simp only [executableIdentity] at h
  split at h
  · cases h
  split at h
  · split at h
    · cases h
    split at h
    · split at h
      · cases h
        exact hbundle _
      · cases h
        exact hexe
    · cases h
      exact hexe
  · cases h

variable {processes : List ProcessSample}

theorem scopeValues_size (h : Addressable processes) (r : Row processes)
    (ms : List (Row processes)) :
    ∀ value∈(scopeValues processes r ms).map utf8, value.length < 2^64 := by
  intro value hv
  obtain ⟨text,ht,rfl⟩ := List.mem_map.mp hv
  rw [utf8_length]
  cases List.mem_cons.mp ht with
  | inl he =>
    have hr := h.exes _ (List.getElem_mem r.isLt)
    cases hid : executableId processes r with
    | none =>
      rw [he,hid]
      exact Nat.two_pow_pos 64
    | some id =>
      have hsize := executableIdentity_size hid
      rw [he,hid,Option.getD_some]
      simp only [Fin.getElem_fin] at hsize
      omega
  | inr hm =>
    rw [List.mem_insertionSort] at hm
    obtain ⟨i,_,rfl⟩ := List.mem_map.mp hm
    have hpid := h.pids _ (List.getElem_mem i.isLt)
    have hstart := h.starts _ (List.getElem_mem i.isLt)
    have hrepr := repr_size_le (n := processes[i].startTimeMs) (k := 20) (by decide) (by
      simp only [Fin.getElem_fin]
      omega)
    have hcolon : ":".utf8ByteSize=1 := by decide
    simp only [identity,String.utf8ByteSize_append]
    simp only [Fin.getElem_fin] at hrepr ⊢
    omega

end Sizes

section Unambiguous
variable {processes : List ProcessSample} {context : Option BatCaveWorkloadContext}

theorem identity_inj {p q : ProcessSample} (h : identity p=identity q) : p.pid=q.pid := by
  have hl := congrArg String.toList h
  simp only [identity,String.toList_append,Nat.toList_repr] at hl
  rw [List.append_assoc,List.append_assoc] at hl
  exact String.toList_inj.mp
    (append_cons_inj (colon_notMem_toDigits _) (colon_notMem_toDigits _) hl).1

theorem identity_ne_empty (p : ProcessSample) : utf8 (identity p)≠[] := by
  intro h
  have hl := congrArg List.length h
  have hcolon : ":".utf8ByteSize=1 := by decide
  rw [utf8_length,identity,String.utf8ByteSize_append,String.utf8ByteSize_append] at hl
  simp only [List.length_nil] at hl
  omega

theorem pidCount_eq (processes : List ProcessSample) (pid : String) : pidCount processes pid=
    ((List.finRange processes.length).filter (fun k => processes[k].pid=pid)).length := by
  have hrows : (List.finRange processes.length).map (fun k => processes[k])=processes :=
    List.map_getElem_finRange processes
  have hcount := List.countP_map (p := fun process : ProcessSample => process.pid=pid)
    (f := fun k : Row processes => processes[k]) (l := List.finRange processes.length)
  rw [hrows] at hcount
  rw [← List.countP_eq_length_filter]
  exact hcount

/-- A pid string of one row names that row. -/
theorem eq_of_pidCount_one {i j : Row processes} (h : pidCount processes processes[i].pid=1)
    (hj : processes[j].pid=processes[i].pid) : j=i := by
  rw [pidCount_eq] at h
  obtain ⟨a,ha⟩ := List.length_eq_one_iff.mp h
  have hmem : ∀ k : Row processes, processes[k].pid=processes[i].pid → k=a := by
    intro k hk
    have hin : k∈(List.finRange processes.length).filter
        (fun k => processes[k].pid=processes[i].pid) := by simpa using hk
    rwa [ha,List.mem_singleton] at hin
  rw [hmem j hj,hmem i rfl]

/-- The index behind a preimage is not one more identity: identities are not empty. -/
theorem no_empty_value {r : Row processes} {ms : List (Row processes)} {us : List (List UInt8)}
    (hne : us≠[]) : (scopeValues processes r ms).map utf8≠us++[[]] := by
  intro h
  cases us with
  | nil => exact hne rfl
  | cons u us =>
    rw [scopeValues,List.map_cons,List.cons_append,List.cons.injEq] at h
    have hmem : []∈((ms.map (fun i => identity processes[i])).insertionSort (· ≤ ·)).map utf8 := by
      rw [h.2]
      simp
    obtain ⟨text,ht,hempty⟩ := List.mem_map.mp hmem
    rw [List.mem_insertionSort] at ht
    obtain ⟨i,_,rfl⟩ := List.mem_map.mp ht
    exact identity_ne_empty _ hempty

/-- Two roots whose scopes hash the same text are the same root. -/
theorem scopePreimage_inj (hfit : Addressable processes) {r r' : Row processes}
    (hr : root processes context r=r)
    (h : scopePreimage processes r (scope processes context r)=
      scopePreimage processes r' (scope processes context r')) : r=r' := by
  have hx := scopeValues_size hfit r (scope processes context r)
  have hy := scopeValues_size hfit r' (scope processes context r')
  have hne : ∀ (q : Row processes) ms, (scopeValues processes q ms).map utf8≠[] := by
    simp [scopeValues]
  simp only [scopePreimage] at h
  by_cases hc : pidCount processes processes[r].pid=1
  · by_cases hc' : pidCount processes processes[r'].pid=1
    · -- Neither is ambiguous: the identity of one root is listed in the other's scope.
      rw [if_neg (not_not.mpr hc),if_neg (not_not.mpr hc'),List.append_nil,List.append_nil] at h
      have hvalues := utf8_injective.list_map (flatMap_lengthPrefixed_inj hx hy h)
      simp only [scopeValues,List.cons.injEq] at hvalues
      have hmem : identity processes[r]∈
          (scope processes context r').map (fun i => identity processes[i]) := by
        rw [← List.mem_insertionSort (· ≤ ·),← hvalues.2,List.mem_insertionSort]
        exact List.mem_map_of_mem (mem_scope.mpr hr)
      obtain ⟨j,hj,hid⟩ := List.mem_map.mp hmem
      have hjr : j=r := eq_of_pidCount_one hc (identity_inj hid)
      rw [mem_scope,hjr,hr] at hj
      exact hj
    · rw [if_neg (not_not.mpr hc),if_pos hc',List.append_nil] at h
      exact absurd (suffix_of_flatMap_lengthPrefixed hy hx (toLe_length 8 _) h.symm)
        (no_empty_value (hne _ _))
  · by_cases hc' : pidCount processes processes[r'].pid=1
    · rw [if_pos hc,if_neg (not_not.mpr hc'),List.append_nil] at h
      exact absurd (suffix_of_flatMap_lengthPrefixed hx hy (toLe_length 8 _) h)
        (no_empty_value (hne _ _))
    · -- Both carry their index.
      rw [if_pos hc,if_pos hc'] at h
      have hlast := (List.append_inj' h (by simp)).2
      have hlt := hfit.rows
      have hval : r.val=r'.val := by
        rw [← fromLe_toLe 8 r.val (by have := r.isLt; omega),hlast,
          fromLe_toLe 8 r'.val (by have := r'.isLt; omega)]
      exact Fin.ext hval

end Unambiguous

section Keys
variable {processes : List ProcessSample} {context : Option BatCaveWorkloadContext}

theorem scopeKey_inj {sha256 : List UInt8 → List UInt8} (hsha : Function.Injective sha256)
    {r r' : Row processes} {ms ms' : List (Row processes)}
    (h : scopeKey processes sha256 r ms=scopeKey processes sha256 r' ms') :
    scopePreimage processes r ms=scopePreimage processes r' ms' := by
  have hhex : hex (sha256 (scopePreimage processes r ms))=
      hex (sha256 (scopePreimage processes r' ms')) := by
    apply String.toList_inj.mp
    have hl := congrArg String.toList h
    simpa only [scopeKey,String.toList_append,List.append_cancel_left_eq] using hl
  exact hsha (hex_injective hhex)

theorem mem_memberships {sha256 : List UInt8 → List UInt8} {k : Nat} {m : WorkloadMembership} :
    (workloadMembershipsWithContext processes context sha256)[k]? =some m ↔
      ∃ i : Row processes, i.val=k ∧ m=membership processes context sha256 i := by
  rw [workloadMembershipsWithContext,List.getElem?_map,Option.map_eq_some_iff]
  constructor
  · intro ⟨i,hi,he⟩
    obtain ⟨hk,hget⟩ := List.getElem?_eq_some_iff.mp hi
    refine ⟨i,?_,he.symm⟩
    rw [← hget,List.getElem_finRange]
    rfl
  · intro ⟨i,hk,he⟩
    refine ⟨i,?_,he.symm⟩
    rw [List.getElem?_eq_some_iff]
    exact ⟨by simp [← hk],by simp [← hk]⟩

/-- Two processes of a sample have one key exactly when they have one root, whatever
their pid strings are, if the digest tells different texts apart. -/
theorem key_eq_iff_representative_eq (processes : List ProcessSample)
    (context : Option BatCaveWorkloadContext) (sha256 : List UInt8 → List UInt8)
    (hsha : Function.Injective sha256) (hfit : Addressable processes) :
    ∀ (i j : Nat) (m m' : WorkloadMembership),
      (workloadMembershipsWithContext processes context sha256)[i]? =some m →
      (workloadMembershipsWithContext processes context sha256)[j]? =some m' →
      (m.key=m'.key ↔ m.representativeIndex=m'.representativeIndex) := by
  intro i j m m' hm hm'
  obtain ⟨a,_,rfl⟩ := mem_memberships.mp hm
  obtain ⟨b,_,rfl⟩ := mem_memberships.mp hm'
  rw [membership_key,membership_key]
  constructor
  · intro h
    exact congrArg Fin.val (scopePreimage_inj hfit (root_root a) (scopeKey_inj hsha h))
  · intro h
    rw [Fin.ext (show (root processes context a).val=(root processes context b).val from h)]

/-- One row listed twice: nothing but the index tells the two scopes apart. -/
def repeatedRows : List ProcessSample :=
  let row : ProcessSample :=
    { pid := "1", parentPid := none, startTimeMs := 1, name := "node", exe := "/node",
      status := "running", cpuPercent := 0, memoryBytes := 0, privateBytes := 0,
      ioReadTotalBytes := 0, ioWriteTotalBytes := 0, ioReadBps := 0, ioWriteBps := 0,
      threads := 1, handles := 0, accessState := .full }
  [row,row]

def repeatedText (index : UInt8) : List UInt8 :=
  [9,0,0,0,0,0,0,0,101,120,101,58,47,110,111,100,101,3,0,0,0,0,0,0,0,49,58,49,
    index,0,0,0,0,0,0,0]

/-- The SHA-256 digests of the two texts hashed for the repeated rows; anything else is
kept apart by its length. -/
def repeatedDigest (text : List UInt8) : List UInt8 :=
  if text=repeatedText 0 then
    [49,24,140,194,64,88,82,77,123,128,218,167,37,154,109,78,207,229,79,139,40,231,24,208,230,
      193,187,45,167,21,174,122]
  else if text=repeatedText 1 then
    [194,167,175,71,139,176,206,235,216,171,170,75,0,43,111,30,14,156,84,134,236,59,132,252,38,
      149,143,141,47,236,8,13]
  else List.replicate 33 0++text

theorem repeatedDigest_injective : Function.Injective repeatedDigest := by
  intro s t h
  have hlen : ∀ u : List UInt8, (List.replicate 33 0++u).length≠32 := by
    intro u hu
    simp only [List.length_append,List.length_replicate] at hu
    omega
  by_cases hs : s=repeatedText 0
  · by_cases ht : t=repeatedText 0
    · rw [hs,ht]
    · by_cases ht' : t=repeatedText 1
      · rw [hs,ht'] at h
        exact absurd h (by decide)
      · have hd := congrArg List.length h
        rw [repeatedDigest,if_pos hs,repeatedDigest,if_neg ht,if_neg ht'] at hd
        exact absurd hd.symm (hlen t)
  · by_cases hs' : s=repeatedText 1
    · by_cases ht : t=repeatedText 0
      · rw [hs',ht] at h
        exact absurd h (by decide)
      · by_cases ht' : t=repeatedText 1
        · rw [hs',ht']
        · have hd := congrArg List.length h
          rw [repeatedDigest,if_neg hs,if_pos hs',repeatedDigest,if_neg ht,if_neg ht'] at hd
          exact absurd hd.symm (hlen t)
    · rw [repeatedDigest,if_neg hs,if_neg hs'] at h
      by_cases ht : t=repeatedText 0
      · have hd := congrArg List.length h
        rw [repeatedDigest,if_pos ht] at hd
        exact absurd hd (hlen s)
      · by_cases ht' : t=repeatedText 1
        · have hd := congrArg List.length h
          rw [repeatedDigest,if_neg ht,if_pos ht'] at hd
          exact absurd hd (hlen s)
        · rw [repeatedDigest,if_neg ht,if_neg ht'] at h
          exact (List.append_right_inj _).mp h

theorem repeatedRows_memberships : workloadMembershipsWithContext repeatedRows none repeatedDigest=
    [⟨"scope:31188cc24058524d7b80daa7259a6d4ecfe54f8b28e718d0e6c1bb2da715ae7a",0,false⟩,
      ⟨"scope:c2a7af478bb0ceebd8abaa4b002b6f1e0e9c5486ec3b84fc26958f8d2fec080d",1,false⟩] := by
  decide

theorem repeated_rows_keys_differ : ∃ m m' : WorkloadMembership,
    (workloadMembershipsWithContext repeatedRows none repeatedDigest)[0]? =some m ∧
    (workloadMembershipsWithContext repeatedRows none repeatedDigest)[1]? =some m' ∧
    m.key≠m'.key := by
  rw [repeatedRows_memberships]
  refine ⟨_,_,rfl,rfl,?_⟩
  have hkeys := key_eq_iff_representative_eq repeatedRows none repeatedDigest
    repeatedDigest_injective ⟨by decide,by decide,by decide,by decide⟩ 0 1 _ _
    (by rw [repeatedRows_memberships]; rfl) (by rw [repeatedRows_memberships]; rfl)
  intro he
  exact absurd (hkeys.mp he) (by decide)

end Keys
end BatCave.WorkloadIdentity

/-! Listing the processes of a sample in another order renumbers the groups and keeps
every key. -/
namespace BatCave.WorkloadIdentity
open BatCave.Lib.Text
open BatCave.Contracts (ProcessSample)
open BatCave.NetworkAttribution (ProcessGeneration)

/-- The same processes under other positions. -/
structure Renumbering (processes processes' : List ProcessSample) where
  rows : Row processes ≃ Row processes'
  same : ∀ i, processes'[rows i]=processes[i]

namespace Renumbering
variable {processes processes' : List ProcessSample} {context : Option BatCaveWorkloadContext}

def symm (ρ : Renumbering processes processes') : Renumbering processes' processes where
  rows := ρ.rows.symm
  same i := by
    have h := ρ.same (ρ.rows.symm i)
    simp only [Equiv.apply_symm_apply] at h
    exact h.symm

theorem uniquePid (ρ : Renumbering processes processes') {pid : Nat} {i : Row processes}
    (h : UniquePid processes pid i) : UniquePid processes' pid (ρ.rows i) := by
  intro other
  have hsame := ρ.same (ρ.rows.symm other)
  simp only [Equiv.apply_symm_apply] at hsame
  rw [hsame,h (ρ.rows.symm other),Equiv.symm_apply_eq]

theorem namesParent (ρ : Renumbering processes processes') {i p : Row processes}
    (h : NamesParent processes i p) : NamesParent processes' (ρ.rows i) (ρ.rows p) := by
  obtain ⟨pid,parentPid,hi,hparent,hp⟩ := h
  exact ⟨pid,parentPid,ρ.uniquePid hi,by rwa [ρ.same],ρ.uniquePid hp⟩

theorem reachesCycle (ρ : Renumbering processes processes') {i : Row processes}
    (h : ReachesCycle processes i) : ReachesCycle processes' (ρ.rows i) := by
  obtain ⟨c,hreach,hcycle⟩ := h
  exact ⟨ρ.rows c,hreach.lift ρ.rows (fun _ _ => ρ.namesParent),
    hcycle.lift ρ.rows (fun _ _ => ρ.namesParent)⟩

theorem verifiedParent (ρ : Renumbering processes processes') {i p : Row processes}
    (h : VerifiedParent processes i p) : VerifiedParent processes' (ρ.rows i) (ρ.rows p) := by
  obtain ⟨hnames,hcycle,hpos,hlt⟩ := h
  refine ⟨ρ.namesParent hnames,?_,by rwa [ρ.same],by rwa [ρ.same,ρ.same]⟩
  intro hc
  have hback := ρ.symm.reachesCycle hc
  rw [symm,Equiv.symm_apply_apply] at hback
  exact hcycle hback

theorem executableId (ρ : Renumbering processes processes') (i : Row processes) :
    WorkloadIdentity.executableId processes' (ρ.rows i)=
      WorkloadIdentity.executableId processes i := by
  rw [WorkloadIdentity.executableId,ρ.same]
  rfl

theorem matches_ (ρ : Renumbering processes processes') {g : ProcessGeneration}
    {i : Row processes} (h : Matches processes g i) : Matches processes' g (ρ.rows i) := by
  obtain ⟨hu,hpos,hstart,hexe⟩ := h
  exact ⟨ρ.uniquePid hu,hpos,by rw [ρ.same,hstart],by rwa [ρ.executableId]⟩

theorem desktop (ρ : Renumbering processes processes') {i : Row processes}
    (h : Desktop processes context i) : Desktop processes' context (ρ.rows i) := by
  obtain ⟨c,hc,hlisted,hm⟩ := h
  exact ⟨c,hc,hlisted,ρ.matches_ hm⟩

theorem approved (ρ : Renumbering processes processes') {i : Row processes}
    (h : Approved processes context i) : Approved processes' context (ρ.rows i) := by
  obtain ⟨c,hc,hlisted,⟨d,hd⟩,g,hg,hm⟩ := h
  exact ⟨c,hc,hlisted,⟨ρ.rows d,ρ.matches_ hd⟩,g,hg,ρ.matches_ hm⟩

theorem approved_iff (ρ : Renumbering processes processes') {i : Row processes} :
    Approved processes' context (ρ.rows i) ↔ Approved processes context i := by
  constructor
  · intro h
    have hback := ρ.symm.approved h
    rwa [symm,Equiv.symm_apply_apply] at hback
  · exact ρ.approved

theorem joins (ρ : Renumbering processes processes') {i p : Row processes}
    (h : Joins processes context i p) : Joins processes' context (ρ.rows i) (ρ.rows p) := by
  obtain ⟨hv,hne,heq,hi,hp⟩ := h
  exact ⟨ρ.verifiedParent hv,by rwa [ρ.executableId],by rw [ρ.executableId,ρ.executableId,heq],
    by rwa [ρ.approved_iff],by rwa [ρ.approved_iff]⟩

theorem followsTo (ρ : Renumbering processes processes') {i r : Row processes}
    (h : FollowsTo processes context i r) : FollowsTo processes' context (ρ.rows i) (ρ.rows r) := by
  refine ⟨h.1.lift ρ.rows (fun _ _ => ρ.joins),?_⟩
  intro p hp
  have hback := ρ.symm.joins hp
  rw [symm,Equiv.symm_apply_apply] at hback
  exact h.2 _ hback

/-- The root of the renumbered row is the renumbered root. -/
theorem root (ρ : Renumbering processes processes') (i : Row processes) :
    WorkloadIdentity.root processes' context (ρ.rows i)=
      ρ.rows (WorkloadIdentity.root processes context i) := by
  have hspec := @root_spec _ context i
  have hspec' := @root_spec _ context (ρ.rows i)
  rw [ρ.approved_iff] at hspec'
  by_cases ha : Approved processes context i
  · exact (hspec'.1 ha).unique (ρ.desktop (hspec.1 ha))
  · exact (hspec'.2 ha).1.unique (ρ.followsTo (hspec.2 ha).1)

theorem scope (ρ : Renumbering processes processes') (r : Row processes) :
    (WorkloadIdentity.scope processes' context (ρ.rows r)).Perm
      ((WorkloadIdentity.scope processes context r).map ρ.rows) := by
  refine (List.perm_ext_iff_of_nodup (scope_nodup _)
    ((scope_nodup r).map ρ.rows.injective)).mpr ?_
  intro j
  have hroot := @Renumbering.root _ _ context ρ (ρ.rows.symm j)
  rw [Equiv.apply_symm_apply] at hroot
  rw [mem_scope,hroot,List.mem_map]
  constructor
  · intro h
    exact ⟨ρ.rows.symm j,mem_scope.mpr (ρ.rows.injective h),Equiv.apply_symm_apply _ _⟩
  · intro ⟨i,hi,he⟩
    rw [← he,Equiv.symm_apply_apply,mem_scope.mp hi]

theorem scopeValues (ρ : Renumbering processes processes') (r : Row processes) :
    WorkloadIdentity.scopeValues processes' (ρ.rows r)
        (WorkloadIdentity.scope processes' context (ρ.rows r))=
      WorkloadIdentity.scopeValues processes r (WorkloadIdentity.scope processes context r) := by
  have hids : ((WorkloadIdentity.scope processes' context (ρ.rows r)).map
      (fun i => identity processes'[i])).Perm
        ((WorkloadIdentity.scope processes context r).map (fun i => identity processes[i])) := by
    have hperm := (@Renumbering.scope _ _ context ρ r).map (fun i => identity processes'[i])
    rw [List.map_map] at hperm
    have hsame : (fun i => identity processes'[i])∘ρ.rows=fun i => identity processes[i] := by
      funext i
      exact congrArg identity (ρ.same i)
    rwa [hsame] at hperm
  have hsort := List.Perm.eq_of_sortedLE List.sortedLE_insertionSort List.sortedLE_insertionSort
    (((List.perm_insertionSort (· ≤ ·) _).trans hids).trans
      (List.perm_insertionSort (· ≤ ·) _).symm)
  rw [WorkloadIdentity.scopeValues,WorkloadIdentity.scopeValues,ρ.executableId,hsort]

theorem keys_same (ρ : Renumbering processes processes') (sha256 : List UInt8 → List UInt8)
    (hcount : ∀ pid, pidCount processes' pid=pidCount processes pid)
    (hunique : ∀ i : Row processes, pidCount processes processes[i].pid=1) (i : Row processes) :
    (membership processes' context sha256 (ρ.rows i)).key=
      (membership processes context sha256 i).key := by
  have hone := hunique (WorkloadIdentity.root processes context i)
  have hone' : pidCount processes'
      processes'[ρ.rows (WorkloadIdentity.root processes context i)].pid=1 := by
    rw [ρ.same,hcount,hone]
  rw [membership_key,membership_key,ρ.root,scopeKey,scopeKey,scopePreimage,scopePreimage,
    ρ.scopeValues,if_neg (not_not.mpr hone),if_neg (not_not.mpr hone')]

/-- A reordered list of different processes. -/
def ofPerm (h : processes.Perm processes') (hn : processes.Nodup) :
    Renumbering processes processes' where
  rows := (hn.getEquiv processes).trans
    ((Equiv.subtypeEquivRight (fun _ => h.mem_iff)).trans
      ((h.nodup_iff.mp hn).getEquiv processes').symm)
  same i := by simp

end Renumbering

section Permutations
variable {processes processes' : List ProcessSample}

theorem pidCount_eq_one (h : (processes.map (·.pid)).Nodup) (i : Row processes) :
    pidCount processes processes[i].pid=1 := by
  have hmem : processes[i].pid∈processes.map (·.pid) :=
    List.mem_map_of_mem (List.getElem_mem i.isLt)
  have hcount := List.count_eq_one_of_mem h hmem
  rw [List.count,List.countP_map] at hcount
  rw [pidCount,← hcount]
  refine List.countP_congr ?_
  intro process _
  simp

/-- In any order of a list with different pid strings a process keeps its key. -/
theorem key_of_perm (context : Option BatCaveWorkloadContext) (sha256 : List UInt8 → List UInt8)
    (h : processes.Perm processes') (hpids : (processes.map (·.pid)).Nodup)
    {i : Row processes} {j : Row processes'} (hij : processes[i]=processes'[j]) :
    (membership processes context sha256 i).key=(membership processes' context sha256 j).key := by
  have hn : processes.Nodup := List.Nodup.of_map _ hpids
  have hcount : ∀ pid, pidCount processes' pid=pidCount processes pid := fun pid =>
    h.symm.countP_eq _
  let ρ := Renumbering.ofPerm h hn
  have hj : ρ.rows i=j := by
    have hget : processes'[ρ.rows i]=processes'[j] := (ρ.same i).trans hij
    exact (List.Nodup.get_inj_iff (h.nodup_iff.mp hn)).mp hget
  rw [← hj]
  exact (ρ.keys_same sha256 hcount (pidCount_eq_one hpids) i).symm

end Permutations

section Grouping

/-- Every row is put where the plain definition puts it, and keeps its key when the list
is reordered. -/
theorem memberships_are_plain (processes : List ProcessSample)
    (context : Option BatCaveWorkloadContext) (sha256 : List UInt8 → List UInt8) :
    (workloadMembershipsWithContext processes context sha256).length=processes.length ∧
    (∀ (i : Row processes) (m : WorkloadMembership),
      (workloadMembershipsWithContext processes context sha256)[i.val]? =some m →
        (Approved processes context i →
          ∃ d, Desktop processes context d ∧ m.representativeIndex=d.val) ∧
        (¬Approved processes context i →
          ∃ r, FollowsTo processes context i r ∧ m.representativeIndex=r.val) ∧
        (m.batcave=true ↔ Approved processes context i)) ∧
    (∀ processes' : List ProcessSample, processes.Perm processes' →
      (processes.map (·.pid)).Nodup →
        ∀ (i : Row processes) (j : Row processes') (m m' : WorkloadMembership),
          processes[i]=processes'[j] →
          (workloadMembershipsWithContext processes context sha256)[i.val]? =some m →
          (workloadMembershipsWithContext processes' context sha256)[j.val]? =some m' →
            m.key=m'.key) := by
  refine ⟨by simp [workloadMembershipsWithContext],?_,?_⟩
  · intro i m hm
    obtain ⟨k,hk,rfl⟩ := mem_memberships.mp hm
    obtain rfl : k=i := Fin.ext hk
    have hroot := @root_spec _ context k
    exact ⟨fun ha => ⟨_,hroot.1 ha,rfl⟩,fun ha => ⟨_,(hroot.2 ha).1,rfl⟩,batcave_iff sha256 k⟩
  · intro processes' hperm hpids i j m m' hij hm hm'
    obtain ⟨k,hk,rfl⟩ := mem_memberships.mp hm
    obtain ⟨k',hk',rfl⟩ := mem_memberships.mp hm'
    obtain rfl : k=i := Fin.ext hk
    obtain rfl : k'=j := Fin.ext hk'
    exact key_of_perm context sha256 hperm hpids hij

def desktopRow (pid exe : String) (startTimeMs : Nat) : ProcessSample :=
  { pid := pid, parentPid := none, startTimeMs := startTimeMs, name := "batcave", exe := exe,
    status := "running", cpuPercent := 0, memoryBytes := 0, privateBytes := 0,
    ioReadTotalBytes := 0, ioWriteTotalBytes := 0, ioReadBps := 0, ioWriteBps := 0,
    threads := 1, handles := 0, accessState := .full }

/-- A desktop and a service, each with its own executable. -/
def desktopRows : List ProcessSample :=
  [desktopRow "10" "C:/BatCave/batcave-monitor.exe" 10,
    desktopRow "20" "C:/BatCave/batcave-collector-service.exe" 20]

/-- A context that lists the service and leaves its own desktop out approves nobody,
though the desktop matches a row and the service is listed and matches one. -/
theorem unlisted_desktop_approves_nobody :
    ¬∀ (processes : List ProcessSample) (c : BatCaveWorkloadContext)
      (sha256 : List UInt8 → List UInt8) (desktop i : Row processes) (m : WorkloadMembership),
      Matches processes c.desktop desktop →
        (∃ generation∈c.members, Matches processes generation i) →
        (workloadMembershipsWithContext processes (some c) sha256)[i.val]? =some m →
          m.representativeIndex=desktop.val ∧ m.batcave=true := by
  intro h
  have hdesktop : Matches desktopRows ⟨10,10⟩ (0 : Fin 2) :=
    matchingIndex_eq_some.mp (by decide)
  have hservice : Matches desktopRows ⟨20,20⟩ (1 : Fin 2) :=
    matchingIndex_eq_some.mp (by decide)
  have hclaim := h desktopRows ⟨⟨10,10⟩,[⟨20,20⟩]⟩ id (0 : Fin 2) (1 : Fin 2)
    (membership desktopRows (some ⟨⟨10,10⟩,[⟨20,20⟩]⟩) id (1 : Fin 2)) hdesktop
    ⟨⟨20,20⟩,by simp,hservice⟩ (mem_memberships.mpr ⟨_,rfl,rfl⟩)
  exact absurd hclaim.1 (by decide)

/-- With the desktop listed both rows are one group, in either order of the sample. -/
theorem listed_desktop_groups_service :
    ∀ m m' : WorkloadMembership,
      (workloadMembershipsWithContext desktopRows (some ⟨⟨10,10⟩,[⟨10,10⟩,⟨20,20⟩]⟩) id)[1]? =
        some m →
      (workloadMembershipsWithContext desktopRows.reverse
        (some ⟨⟨10,10⟩,[⟨10,10⟩,⟨20,20⟩]⟩) id)[0]? =some m' →
      m.batcave=true ∧ m.key=m'.key := by
  intro m m' hm hm'
  have hplain := memberships_are_plain desktopRows (some ⟨⟨10,10⟩,[⟨10,10⟩,⟨20,20⟩]⟩) id
  have happroved : Approved desktopRows (some ⟨⟨10,10⟩,[⟨10,10⟩,⟨20,20⟩]⟩) (1 : Fin 2) :=
    approvedMember_iff.mp (by decide)
  refine ⟨((hplain.2.1 (1 : Fin 2) m hm).2.2).mpr happroved,?_⟩
  exact hplain.2.2 desktopRows.reverse desktopRows.reverse_perm.symm (by decide)
    (1 : Fin 2) (0 : Fin 2) m m' rfl hm hm'

end Grouping
end BatCave.WorkloadIdentity

/-! Which rows of a Windows sample are the desktop's own: the desktop, its service, and what
the desktop has started, as far as native evidence ties each row to it. -/
namespace BatCave.WorkloadIdentity
open BatCave.Lib.Text BatCave.Lib.Worklist
open BatCave.Contracts (ProcessSample)
open BatCave.NetworkAttribution (ProcessGeneration)

/-- The native evidence for one row of the sample. -/
structure WorkloadProcessIdentity where
  generation : ProcessGeneration
  sampleExe : String
  imagePath : String
  fileIdentity : Nat × Nat
  principalIdentity : List UInt8
  sessionId : Nat
  deriving DecidableEq, Repr

/-- `HashMap<usize, WorkloadProcessIdentity>` -/
abbrev Evidence := AList (fun _ : Nat => WorkloadProcessIdentity)

section WebView

def stripPrefix (text start : List Char) : Option (List Char) :=
  if start.isPrefixOf text then some (text.drop start.length) else none

/-- `split_once`, on characters. -/
def splitOnce (separator : Char) (text : List Char) : Option (List Char × List Char) :=
  if separator∈text then
    some (text.takeWhile (fun c => c≠separator),(text.dropWhile (fun c => c≠separator)).drop 1)
  else none

def runtimeVersion (version : List Char) : Bool :=
  let parts := version.splitOn '.'
  parts.length==4 &&
    parts.all (fun part => !part.isEmpty && (parseU32 (String.ofList part)).isSome)

def approvedWebviewImage (path : String) (roots : List String) : Bool :=
  roots.any (fun root =>
    match stripPrefix path.toList (root++"\\").toList with
    | none => false
    | some relative =>
      match splitOnce '\\' relative with
      | none => false
      | some (version,leaf) => leaf=="msedgewebview2.exe".toList && runtimeVersion version)

end WebView

section Context
variable (processes : List ProcessSample)

/-- `ProcessGeneration::from_process` -/
def fromProcess (process : ProcessSample) : Option ProcessGeneration := do
  let pid ← parseU32 process.pid
  if 0 < process.startTimeMs then some ⟨pid,process.startTimeMs⟩ else none

/-- The rows whose pid parses to `pid`. -/
def rowsOfPid (pid : Nat) : List (Row processes) :=
  (List.finRange processes.length).filter (fun index => parseU32 processes[index].pid=some pid)

def uniqueGenerationIndex (generation : ProcessGeneration) : Option (Row processes) :=
  if generation.pid=0 ∨ generation.startTimeMs=0 then none
  else
    match rowsOfPid processes generation.pid with
    | [index] =>
      if fromProcess processes[index]=some generation ∧
          processes[index].exe≠"" then some index
      else none
    | _ => none

/-- The evidence is for the row as the sample has it, and complete. -/
def belongsToRow (index : Row processes) (identity : WorkloadProcessIdentity) : Bool :=
  decide (0 < identity.generation.pid ∧
    (rowsOfPid processes identity.generation.pid).length=1 ∧
    fromProcess processes[index]=some identity.generation ∧
    identity.sampleExe=processes[index].exe ∧ identity.imagePath≠"" ∧
    identity.fileIdentity.2≠0 ∧ identity.principalIdentity≠List.replicate 32 0)

def children (parent : Row processes) : List (Row processes) :=
  (List.finRange processes.length).filter (fun index => verifiedParent processes index=some parent)

variable (identities : Evidence) (webviewRoots : List String)

/-- The conditions under which a child of an approved row is approved. -/
def approves (desktop : WorkloadProcessIdentity) (index : Row processes) : Bool :=
  match identities.lookup index.val with
  | none => false
  | some identity =>
    belongsToRow processes index identity &&
      identity.principalIdentity==desktop.principalIdentity &&
      identity.sessionId==desktop.sessionId &&
      ((identity.imagePath==desktop.imagePath && identity.fileIdentity==desktop.fileIdentity) ||
        approvedWebviewImage identity.imagePath webviewRoots)

/-- The loop over the pending rows. -/
def ownedRows (desktopIndex : Row processes) (desktop : WorkloadProcessIdentity) :
    Option (Finset (Row processes)) :=
  spread (children processes) (approves processes identities webviewRoots desktop)
    processes.length {desktopIndex} [desktopIndex]

def authenticatedService (service : Option ProcessGeneration) : Option (Row processes) := do
  let index ← service.bind (uniqueGenerationIndex processes)
  let identity ← identities.lookup index.val
  if belongsToRow processes index identity=true then some index else none

def contextFromWorkloadIdentities (desktop : ProcessGeneration)
    (service : Option ProcessGeneration) : Option BatCaveWorkloadContext := do
  let desktopIndex ← uniqueGenerationIndex processes desktop
  let desktopIdentity ← identities.lookup desktopIndex.val
  if belongsToRow processes desktopIndex desktopIdentity=false then none
  else
    let approved :=
      (ownedRows processes identities webviewRoots desktopIndex desktopIdentity).getD ∅
    let approved :=
      match authenticatedService processes identities service with
      | some index => insert index approved
      | none => approved
    let members := ((List.finRange processes.length).filter (fun index => index∈approved)).filterMap
      (fun index => (identities.lookup index.val).map (fun identity => identity.generation))
    some {desktop,members}

end Context

section Plain
variable (processes : List ProcessSample) (identities : Evidence) (webviewRoots : List String)

/-- The row is the only one with the pid of a real generation, has that generation, and
names its executable. -/
structure HoldsUniquely (generation : ProcessGeneration) (index : Row processes) : Prop where
  real : 0 < generation.pid ∧ 0 < generation.startTimeMs
  only : ∀ other : Row processes, parseU32 processes[other].pid=some generation.pid ↔ other=index
  same : fromProcess processes[index]=some generation
  named : processes[index].exe≠""

/-- The row has evidence, which is complete and for the only row with this pid. -/
structure Identified (index : Row processes) (identity : WorkloadProcessIdentity) : Prop where
  found : identities.lookup index.val=some identity
  real : 0 < identity.generation.pid
  only : ∀ other : Row processes,
    parseU32 processes[other].pid=some identity.generation.pid ↔ other=index
  same : fromProcess processes[index]=some identity.generation
  executable : identity.sampleExe=processes[index].exe
  complete : identity.imagePath≠"" ∧ identity.fileIdentity.2≠0 ∧
    identity.principalIdentity≠List.replicate 32 0

/-- The least set of rows that holds the desktop, and with a row each of its verified
children that is identified, shares the desktop's principal and session, and runs the
desktop's own image or an approved one. -/
inductive Owned (desktopIndex : Row processes) (desktop : WorkloadProcessIdentity) :
    Row processes → Prop where
  | desktop : Owned desktopIndex desktop desktopIndex
  | child {parent index : Row processes} {identity : WorkloadProcessIdentity}
      (howned : Owned desktopIndex desktop parent)
      (hparent : VerifiedParent processes index parent)
      (hidentified : Identified processes identities index identity)
      (hprincipal : identity.principalIdentity=desktop.principalIdentity)
      (hsession : identity.sessionId=desktop.sessionId)
      (himage : (identity.imagePath=desktop.imagePath ∧
          identity.fileIdentity=desktop.fileIdentity) ∨
        approvedWebviewImage identity.imagePath webviewRoots=true) :
      Owned desktopIndex desktop index

/-- The row is the authenticated service. -/
def IsService (service : Option ProcessGeneration) (index : Row processes) : Prop :=
  ∃ generation identity, service=some generation ∧ HoldsUniquely processes generation index ∧
    Identified processes identities index identity

end Plain

section Closure
variable {processes : List ProcessSample} {identities : Evidence} {webviewRoots : List String}

theorem fromProcess_pid {process : ProcessSample} {g : ProcessGeneration}
    (h : fromProcess process=some g) : parseU32 process.pid=some g.pid := by
  simp only [fromProcess,Option.bind_eq_bind,Option.bind_eq_some_iff] at h
  obtain ⟨pid,hpid,h⟩ := h
  split at h
  · cases h
    exact hpid
  · cases h

theorem mem_rowsOfPid {pid : Nat} {i : Row processes} :
    i∈rowsOfPid processes pid ↔ parseU32 processes[i].pid=some pid := by
  simp [rowsOfPid]

theorem rowsOfPid_singleton {pid : Nat} {i : Row processes} :
    rowsOfPid processes pid=[i] ↔
      ∀ j : Row processes, parseU32 processes[j].pid=some pid ↔ j=i := by
  have hnodup : (rowsOfPid processes pid).Nodup := (List.nodup_finRange _).filter _
  rw [eq_singleton_iff hnodup]
  simp only [mem_rowsOfPid]

theorem uniqueGenerationIndex_eq_some {g : ProcessGeneration} {i : Row processes} :
    uniqueGenerationIndex processes g=some i ↔ HoldsUniquely processes g i := by
  rw [uniqueGenerationIndex]
  constructor
  · intro h
    split at h
    · cases h
    · next hreal =>
      split at h
      · next j hj =>
        split at h
        · next hsame =>
          cases h
          exact ⟨by omega,rowsOfPid_singleton.1 hj,hsame.1,hsame.2⟩
        · cases h
      · cases h
  · intro h
    have hreal := h.real
    rw [if_neg (by omega),rowsOfPid_singleton.2 h.only]
    exact if_pos ⟨h.same,h.named⟩

theorem belongsToRow_iff {i : Row processes} {identity : WorkloadProcessIdentity}
    (hfound : identities.lookup i.val=some identity) :
    belongsToRow processes i identity=true ↔ Identified processes identities i identity := by
  rw [belongsToRow,decide_eq_true_iff]
  constructor
  · intro h
    obtain ⟨hreal,hlength,hsame,hexe,hcomplete⟩ := h
    obtain ⟨j,hj⟩ := List.length_eq_one_iff.1 hlength
    have hi : i∈rowsOfPid processes identity.generation.pid :=
      mem_rowsOfPid.2 (fromProcess_pid hsame)
    rw [hj,List.mem_singleton] at hi
    rw [← hi] at hj
    exact ⟨hfound,hreal,rowsOfPid_singleton.1 hj,hsame,hexe,hcomplete⟩
  · intro h
    exact ⟨h.real,by rw [rowsOfPid_singleton.2 h.only]; rfl,h.same,h.executable,h.complete⟩

theorem approves_iff {desktop : WorkloadProcessIdentity} {i : Row processes} :
    approves processes identities webviewRoots desktop i=true ↔
      ∃ identity, Identified processes identities i identity ∧
        identity.principalIdentity=desktop.principalIdentity ∧
        identity.sessionId=desktop.sessionId ∧
        ((identity.imagePath=desktop.imagePath ∧ identity.fileIdentity=desktop.fileIdentity) ∨
          approvedWebviewImage identity.imagePath webviewRoots=true) := by
  rw [approves]
  constructor
  · intro h
    split at h
    · cases h
    · next identity hfound =>
      simp only [Bool.and_eq_true,Bool.or_eq_true,beq_iff_eq,belongsToRow_iff hfound] at h
      exact ⟨identity,h.1.1.1,h.1.1.2,h.1.2,h.2⟩
  · intro h
    obtain ⟨identity,hidentified,hprincipal,hsession,himage⟩ := h
    rw [hidentified.found]
    simp only [Bool.and_eq_true,Bool.or_eq_true,beq_iff_eq,belongsToRow_iff hidentified.found]
    exact ⟨⟨⟨hidentified,hprincipal⟩,hsession⟩,himage⟩

theorem mem_children {p i : Row processes} :
    i∈children processes p ↔ VerifiedParent processes i p := by
  rw [← verifiedParent_eq_some]
  simp [children]

theorem reached_iff_owned {d i : Row processes} {desktop : WorkloadProcessIdentity} :
    Reached (children processes) (approves processes identities webviewRoots desktop) d i ↔
      Owned processes identities webviewRoots d desktop i := by
  constructor
  · intro h
    induction h with
    | start => exact .desktop
    | child _ hchild htake ih =>
      obtain ⟨identity,hidentified,hprincipal,hsession,himage⟩ := approves_iff.1 htake
      exact .child ih (mem_children.1 hchild) hidentified hprincipal hsession himage
  · intro h
    induction h with
    | desktop => exact .start
    | child _ hparent hidentified hprincipal hsession himage ih =>
      exact .child ih (mem_children.2 hparent)
        (approves_iff.2 ⟨_,hidentified,hprincipal,hsession,himage⟩)

/-- Parents are strictly older, so the rows below the desktop form a tree. -/
theorem children_tree (d : Row processes) (desktop : WorkloadProcessIdentity) :
    Tree (children processes) (approves processes identities webviewRoots desktop) d := by
  constructor
  · intro p q c hp hq
    have hpc := verifiedParent_eq_some.2 (mem_children.1 hp)
    rw [verifiedParent_eq_some.2 (mem_children.1 hq)] at hpc
    exact (Option.some.inj hpc).symm
  · intro p
    exact (List.nodup_finRange _).filter _
  · intro p hp
    have hyounger : processes[d].startTimeMs ≤ processes[p].startTimeMs := by
      induction hp with
      | start => exact Nat.le_refl _
      | child _ hchild _ ih => exact Nat.le_trans ih (Nat.le_of_lt (mem_children.1 hchild).2.2.2)
    intro hd
    exact absurd (mem_children.1 hd).2.2.2 (Nat.not_lt.2 hyounger)

theorem ownedRows_spec (identities : Evidence) (webviewRoots : List String) (d : Row processes)
    (desktop : WorkloadProcessIdentity) :
    ∃ rows, ownedRows processes identities webviewRoots d desktop=some rows ∧
      ∀ i, i∈rows ↔ Owned processes identities webviewRoots d desktop i := by
  have hfuel : Fintype.card (Row processes) ≤ processes.length := by simp
  obtain ⟨rows,hrows,hmem⟩ := spread_spec (children_tree d desktop) hfuel
  exact ⟨rows,hrows,fun i => (hmem i).trans reached_iff_owned⟩

theorem authenticatedService_eq_some {service : Option ProcessGeneration} {i : Row processes} :
    authenticatedService processes identities service=some i ↔
      IsService processes identities service i := by
  simp only [authenticatedService,Option.bind_eq_bind,Option.bind_eq_some_iff,IsService]
  constructor
  · intro h
    obtain ⟨j,⟨g,hg,hj⟩,identity,hfound,h⟩ := h
    split at h
    · next hbelongs =>
      cases h
      exact ⟨g,identity,hg,uniqueGenerationIndex_eq_some.1 hj,(belongsToRow_iff hfound).1 hbelongs⟩
    · cases h
  · intro h
    obtain ⟨g,identity,hg,hholds,hidentified⟩ := h
    refine ⟨i,⟨g,hg,uniqueGenerationIndex_eq_some.2 hholds⟩,identity,hidentified.found,?_⟩
    exact if_pos ((belongsToRow_iff hidentified.found).2 hidentified)

/-- A row that is owned has evidence, if the desktop has. -/
theorem Owned.identified {d i : Row processes} {desktop : WorkloadProcessIdentity}
    (hdesktop : Identified processes identities d desktop)
    (h : Owned processes identities webviewRoots d desktop i) :
    ∃ identity, Identified processes identities i identity := by
  cases h with
  | desktop => exact ⟨desktop,hdesktop⟩
  | child _ _ hidentified _ _ _ => exact ⟨_,hidentified⟩

/-- The generations of identified rows, from the table of evidence and from the sample. -/
theorem evidence_generation {i : Row processes} {identity : WorkloadProcessIdentity}
    (h : Identified processes identities i identity) (g : ProcessGeneration) :
    (identities.lookup i.val).map (fun identity => identity.generation)=some g ↔
      fromProcess processes[i]=some g := by
  rw [h.found,h.same]
  rfl

theorem context_eq (webviewRoots : List String) {d : Row processes}
    {identity : WorkloadProcessIdentity} {desktop : ProcessGeneration}
    (service : Option ProcessGeneration)
    (hholds : HoldsUniquely processes desktop d)
    (hidentified : Identified processes identities d identity) :
    ∃ approved : Finset (Row processes),
      (∀ i, i∈approved ↔ Owned processes identities webviewRoots d identity i ∨
        IsService processes identities service i) ∧
      contextFromWorkloadIdentities processes identities webviewRoots desktop service=
        some {
          desktop := desktop
          members := ((List.finRange processes.length).filter (fun i => i∈approved)).filterMap
            (fun i => (identities.lookup i.val).map (fun identity => identity.generation))} := by
  obtain ⟨rows,hrows,hmem⟩ := ownedRows_spec identities webviewRoots d identity
  have hbelongs := (belongsToRow_iff hidentified.found).2 hidentified
  rw [contextFromWorkloadIdentities,uniqueGenerationIndex_eq_some.2 hholds]
  simp only [Option.bind_eq_bind,Option.bind_some,hidentified.found,hbelongs,Bool.true_eq_false,
    if_false,hrows,Option.getD_some]
  cases hservice : authenticatedService processes identities service with
  | none =>
    refine ⟨rows,?_,rfl⟩
    intro i
    have hno : ¬IsService processes identities service i := by
      intro h
      rw [authenticatedService_eq_some.2 h] at hservice
      cases hservice
    rw [hmem]
    exact (or_iff_left hno).symm
  | some s =>
    refine ⟨insert s rows,?_,rfl⟩
    intro i
    have his : IsService processes identities service i ↔ i=s := by
      rw [← authenticatedService_eq_some,hservice,Option.some.injEq,eq_comm]
    rw [Finset.mem_insert,hmem,his,or_comm]

theorem context_eq_none {desktop : ProcessGeneration} {service : Option ProcessGeneration} :
    contextFromWorkloadIdentities processes identities webviewRoots desktop service=none ↔
      ¬∃ d identity, HoldsUniquely processes desktop d ∧
        Identified processes identities d identity := by
  constructor
  · intro h hex
    obtain ⟨d,identity,hholds,hidentified⟩ := hex
    obtain ⟨approved,_,hcontext⟩ := context_eq webviewRoots service hholds hidentified
    rw [hcontext] at h
    cases h
  · intro hno
    rw [contextFromWorkloadIdentities]
    cases hunique : uniqueGenerationIndex processes desktop with
    | none => rfl
    | some d =>
      simp only [Option.bind_eq_bind,Option.bind_some]
      cases hfound : identities.lookup d.val with
      | none => rfl
      | some identity =>
        have hforeign : belongsToRow processes d identity=false := by
          rw [Bool.eq_false_iff,ne_eq,belongsToRow_iff hfound]
          intro hidentified
          exact hno ⟨d,identity,uniqueGenerationIndex_eq_some.1 hunique,hidentified⟩
        simp only [Option.bind_some,hforeign,if_true]

/-- A row whose generation is the one of an identified row is that row. -/
theorem Identified.unique {i j : Row processes} {identity : WorkloadProcessIdentity}
    {g : ProcessGeneration} (h : Identified processes identities i identity)
    (hi : fromProcess processes[i]=some g) (hj : fromProcess processes[j]=some g) : j=i := by
  have hg : identity.generation=g := Option.some.inj (h.same.symm.trans hi)
  apply (h.only j).1
  rw [hg]
  exact fromProcess_pid hj

/-- The approved workload of a sample: there is none exactly where no row of its own holds
the desktop's generation with matching evidence; otherwise the loop ends, and the rows whose
generations are members are the ones the desktop owns and the authenticated service. -/
theorem approval_closure (processes : List ProcessSample) (identities : Evidence)
    (webviewRoots : List String) (desktop : ProcessGeneration)
    (service : Option ProcessGeneration) :
    (contextFromWorkloadIdentities processes identities webviewRoots desktop service=none ↔
      ¬∃ d identity, HoldsUniquely processes desktop d ∧
        Identified processes identities d identity) ∧
    ∀ d identity, HoldsUniquely processes desktop d →
      Identified processes identities d identity →
      (ownedRows processes identities webviewRoots d identity).isSome=true ∧
      ∃ members,
        contextFromWorkloadIdentities processes identities webviewRoots desktop service=
          some {desktop,members} ∧
        members.Nodup ∧
        (∀ g∈members, ∃ i : Row processes, fromProcess processes[i]=some g) ∧
        ∀ i : Row processes, (∃ g∈members, fromProcess processes[i]=some g) ↔
          Owned processes identities webviewRoots d identity i ∨
            IsService processes identities service i := by
  refine ⟨context_eq_none,?_⟩
  intro d identity hholds hidentified
  obtain ⟨rows,hrows,_⟩ := ownedRows_spec identities webviewRoots d identity
  obtain ⟨approved,hmem,hcontext⟩ := context_eq webviewRoots service hholds hidentified
  have hevidence : ∀ i, i∈approved → ∃ own, Identified processes identities i own := by
    intro i hi
    cases (hmem i).1 hi with
    | inl howned => exact howned.identified hidentified
    | inr hservice =>
      obtain ⟨_,own,_,_,hown⟩ := hservice
      exact ⟨own,hown⟩
  refine ⟨by rw [hrows]; rfl,_,hcontext,?_,?_,?_⟩
  · rw [List.Nodup,List.pairwise_filterMap]
    have hnodup : ((List.finRange processes.length).filter (fun i => i∈approved)).Nodup :=
      (List.nodup_finRange _).filter _
    apply hnodup.imp_of_mem
    intro i j hi hj hne g hg g' hg' he
    obtain ⟨own,hown⟩ := hevidence i (by simpa using hi)
    obtain ⟨other,hother⟩ := hevidence j (by simpa using hj)
    rw [evidence_generation hown] at hg
    rw [evidence_generation hother,← he] at hg'
    exact hne (hown.unique hg hg').symm
  · intro g hg
    obtain ⟨i,hi,hgi⟩ := List.mem_filterMap.1 hg
    obtain ⟨own,hown⟩ := hevidence i (by simpa using hi)
    exact ⟨i,(evidence_generation hown g).1 hgi⟩
  · intro i
    rw [← hmem]
    constructor
    · intro h
      obtain ⟨g,hg,hgi⟩ := h
      obtain ⟨j,hj,hgj⟩ := List.mem_filterMap.1 hg
      obtain ⟨own,hown⟩ := hevidence j (by simpa using hj)
      rw [hown.unique ((evidence_generation hown g).1 hgj) hgi]
      simpa using hj
    · intro hi
      obtain ⟨own,hown⟩ := hevidence i hi
      refine ⟨own.generation,List.mem_filterMap.2 ⟨i,by simpa using hi,?_⟩,hown.same⟩
      exact (evidence_generation hown _).2 hown.same

end Closure
end BatCave.WorkloadIdentity
