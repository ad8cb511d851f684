import BatCave.Lib.Table
import Mathlib.Data.Finset.Card
import Mathlib.Data.List.InsertIdx
import Mathlib.Data.List.Perm.Basic

/-! The order in which the desktop shows its rows. An order that is held against the incoming
one is judged by the rows that both lists hold. NOT a statement about how rows are ranked. -/
namespace BatCave.Desktop
open BatCave.Lib.Table

/-- A row as far as its order goes: its key `detail.workload_id`, and what else it holds. -/
structure ProcessViewRow (δ : Type) where
  workloadId : String
  rest : δ
  deriving DecidableEq, Repr

section Rows
variable {δ τ : Type}

def processViewRowKey (row : ProcessViewRow δ) : String := row.workloadId

def keys (rows : List (ProcessViewRow δ)) : List String := rows.map processViewRowKey

def hasSameProcessOrder (current incoming : List (ProcessViewRow δ)) : Bool :=
  if current.length≠incoming.length then false
  else (current.zip incoming).all (fun pair =>
    processViewRowKey pair.1==processViewRowKey pair.2)

/-- `new Map(rows.map((row) => [processViewRowKey(row), row]))` -/
def rowByKey (rows : List (ProcessViewRow δ)) : AList (fun _ : String => ProcessViewRow δ) :=
  ofList (rows.map (fun row => ⟨processViewRowKey row,row⟩))

/-- `new Map(rows.map((row, index) => [processViewRowKey(row), index]))` -/
def indexByKey (rows : List (ProcessViewRow δ)) : AList (fun _ : String => Nat) :=
  ofList (rows.zipIdx.map (fun e => ⟨processViewRowKey e.1,e.2⟩))

structure RankingSettle (δ τ : Type) where
  rows : List (ProcessViewRow δ)
  settledAt : τ
  deriving DecidableEq, Repr

/-- The incoming rows of the current keys, in the current order. -/
def survivors (current incoming : List (ProcessViewRow δ)) : List (ProcessViewRow δ) :=
  current.filterMap (fun row => (rowByKey incoming).lookup (processViewRowKey row))

def commonIncoming (current incoming : List (ProcessViewRow δ)) : List (ProcessViewRow δ) :=
  incoming.filter (fun row => processViewRowKey row∈keys current)

/-- The scan with a near-tie predicate: some pair is shown inverted and is no near tie. -/
def farInversion (common : List (ProcessViewRow δ))
    (survivorIndexByKey : AList (fun _ : String => Nat))
    (isNearTie : ProcessViewRow δ → ProcessViewRow δ → Bool) : Bool :=
  common.zipIdx.any (fun later => (common.take later.2).any (fun earlier =>
    match survivorIndexByKey.lookup (processViewRowKey earlier),
      survivorIndexByKey.lookup (processViewRowKey later.1) with
    | some earlierSurvivor,some laterSurvivor =>
      laterSurvivor < earlierSurvivor && !isNearTie earlier later.1
    | _,_ => false))

/-- The scan without one: some row is more than one place away. -/
def farDisplacement (common : List (ProcessViewRow δ))
    (survivorIndexByKey : AList (fun _ : String => Nat)) : Bool :=
  common.zipIdx.any (fun e =>
    match survivorIndexByKey.lookup (processViewRowKey e.1) with
    | none => true
    | some survivorIndex => 1 < ((e.2:Int)-survivorIndex).natAbs)

/-- The scan that decides whether the held order may stay. -/
def movedFar (common survivors : List (ProcessViewRow δ))
    (isNearTie : Option (ProcessViewRow δ → ProcessViewRow δ → Bool)) : Bool :=
  match isNearTie with
  | some isNearTie => farInversion common (indexByKey survivors) isNearTie
  | none => farDisplacement common (indexByKey survivors)

/-- One turn of the loop that puts the newcomers in. -/
def spliceRow (current : List (ProcessViewRow δ)) (rows : List (ProcessViewRow δ))
    (e : ProcessViewRow δ × Nat) : List (ProcessViewRow δ) :=
  if processViewRowKey e.1∈keys current then rows
  else rows.insertIdx (min e.2 rows.length) e.1

def settleProcessRanking [Sub τ] [LE τ] [DecidableLE τ]
    (current incoming : List (ProcessViewRow δ)) (now lastSettledAt settleIntervalMs : τ)
    (isNearTie : Option (ProcessViewRow δ → ProcessViewRow δ → Bool)) : RankingSettle δ τ :=
  let survivors := survivors current incoming
  if survivors.length=0 then ⟨incoming,now⟩
  else if movedFar (commonIncoming current incoming) survivors isNearTie then ⟨incoming,now⟩
  else if settleIntervalMs ≤ now-lastSettledAt then ⟨incoming,now⟩
  else ⟨incoming.zipIdx.foldl (spliceRow current) survivors,lastSettledAt⟩

structure RankedRows (δ : Type) where
  rows : List (ProcessViewRow δ)
  updateAvailable : Bool
  exitedKeys : Finset String
  deriving DecidableEq

def advanceProcessRanking (current incoming : List (ProcessViewRow δ)) (held : Bool) :
    RankedRows δ :=
  if held=false then ⟨incoming,false,∅⟩
  else
    let incomingByKey := rowByKey incoming
    let exitedKeys := ((keys current).filter (fun key =>
      (incomingByKey.lookup key).isNone)).toFinset
    let stable := current.map (fun row =>
      (incomingByKey.lookup (processViewRowKey row)).getD row)
    { rows := stable++incoming.filter (fun row => processViewRowKey row∉keys current)
      updateAvailable := decide (0 < exitedKeys.card) || !hasSameProcessOrder current incoming
      exitedKeys := exitedKeys }

end Rows

section Lists
variable {α : Type}

/-- One element stands before another exactly if it is among those up to the other's place. -/
theorem pair_sublist_iff {a b : α} {l : List α} :
    [a,b].Sublist l ↔ ∃ i : Nat, l[i]?=some b ∧ a∈l.take i := by
  induction l with
  | nil => simp
  | cons x l ih =>
    constructor
    · intro h
      cases h with
      | cons _ htail =>
        obtain ⟨i,hb,ha⟩ := ih.mp htail
        exact ⟨i+1,by simpa using hb,by simp [ha]⟩
      | cons_cons _ htail =>
        obtain ⟨i,hb⟩ := List.getElem?_of_mem (List.singleton_sublist.mp htail)
        exact ⟨i+1,by simpa using hb,by simp⟩
    · intro ⟨i,hb,ha⟩
      cases i with
      | zero => simp at ha
      | succ i =>
        rw [List.getElem?_cons_succ] at hb
        rw [List.take_succ_cons,List.mem_cons] at ha
        cases ha with
        | inl hx =>
          subst hx
          exact (List.singleton_sublist.mpr (List.mem_of_getElem? hb)).cons_cons a
        | inr hmem => exact (ih.mpr ⟨i,hb,hmem⟩).cons x

/-- What is put in and not kept leaves no trace. -/
theorem filter_insertIdx {p : α → Bool} {a : α} (ha : p a=false) (l : List α) (i : Nat) :
    (l.insertIdx i a).filter p=l.filter p := by
  induction l generalizing i with
  | nil => cases i <;> simp [ha]
  | cons x l ih =>
    cases i with
    | zero => simp [ha]
    | succ i => rw [List.insertIdx_succ_cons,List.filter_cons,List.filter_cons,ih]

end Lists

section Lookup
variable {δ : Type} {rows : List (ProcessViewRow δ)} {row : ProcessViewRow δ} {key : String}

theorem filter_keys (p : String → Bool) (rows : List (ProcessViewRow δ)) :
    (keys rows).filter p=keys (rows.filter (fun row => p (processViewRowKey row))) :=
  List.filter_map

theorem lookup_rowByKey (h : (keys rows).Nodup) :
    (rowByKey rows).lookup key=some row ↔ row∈rows ∧ processViewRowKey row=key := by
  have hnodup : (rows.map (fun row : ProcessViewRow δ =>
      (⟨processViewRowKey row,row⟩ : Sigma (fun _ : String => ProcessViewRow δ)))).NodupKeys := by
    rw [List.NodupKeys,List.keys,List.map_map]
    exact h
  rw [rowByKey,lookup_ofList hnodup,List.mem_map]
  constructor
  · intro ⟨other,hmem,heq⟩
    cases heq
    exact ⟨hmem,rfl⟩
  · intro ⟨hmem,hkey⟩
    exact ⟨row,hmem,by rw [hkey]⟩

theorem lookup_rowByKey_eq_none : (rowByKey rows).lookup key=none ↔ key∉keys rows := by
  rw [AList.lookup_eq_none,rowByKey,mem_ofList,List.keys,List.map_map]
  rfl

theorem lookup_indexByKey (h : (keys rows).Nodup) {i : Nat} :
    (indexByKey rows).lookup key=some i ↔
      ∃ row, rows[i]?=some row ∧ processViewRowKey row=key := by
  have hnodup : (rows.zipIdx.map (fun e : ProcessViewRow δ × Nat =>
      (⟨processViewRowKey e.1,e.2⟩ : Sigma (fun _ : String => Nat)))).NodupKeys := by
    have hkeys : rows.zipIdx.map (fun e => processViewRowKey e.1)=keys rows := by
      rw [keys,← List.zipIdx_map_fst 0 rows,List.map_map]
      simp [Function.comp_def]
    rw [List.NodupKeys,List.keys,List.map_map]
    exact hkeys ▸ h
  rw [indexByKey,lookup_ofList hnodup,List.mem_map]
  constructor
  · intro ⟨e,hmem,heq⟩
    cases heq
    exact ⟨e.1,List.mem_zipIdx_iff_getElem?.mp hmem,rfl⟩
  · intro ⟨row,hget,hkey⟩
    exact ⟨(row,i),List.mem_zipIdx_iff_getElem?.mpr hget,by rw [← hkey]⟩

theorem hasSameProcessOrder_iff {current incoming : List (ProcessViewRow δ)} :
    hasSameProcessOrder current incoming=true ↔ keys current=keys incoming := by
  by_cases hlength : current.length=incoming.length
  · rw [hasSameProcessOrder,if_neg (by simpa using hlength)]
    induction current generalizing incoming with
    | nil => cases incoming <;> simp_all [keys]
    | cons row current ih =>
      cases incoming with
      | nil => simp at hlength
      | cons other incoming =>
        have htail := ih (Nat.succ.inj hlength)
        simp only [keys] at htail
        simp only [List.zip_cons_cons,List.all_cons,Bool.and_eq_true,htail,keys,List.map_cons,
          List.cons.injEq,beq_iff_eq]
  · rw [hasSameProcessOrder,if_pos hlength]
    refine ⟨nofun,fun hsame => absurd ?_ hlength⟩
    simpa [keys] using congrArg List.length hsame

end Lookup

section Survivors
variable {δ : Type} {current incoming : List (ProcessViewRow δ)} {row : ProcessViewRow δ}

/-- The survivors hold the keys of both lists as the current one orders them. -/
theorem keys_survivors (h : (keys incoming).Nodup) :
    keys (survivors current incoming)=(keys current).filter (fun key => key∈keys incoming) := by
  rw [survivors]
  induction current with
  | nil => rfl
  | cons row current ih =>
    simp only [keys,List.map_cons,List.filter_cons,List.filterMap_cons] at ih ⊢
    cases hlookup : (rowByKey incoming).lookup (processViewRowKey row) with
    | none =>
      have hnone := lookup_rowByKey_eq_none.mp hlookup
      simp only [keys] at hnone
      simpa [hnone] using ih
    | some next =>
      obtain ⟨hmem,hkey⟩ := (lookup_rowByKey h).mp hlookup
      have hin : processViewRowKey row∈incoming.map processViewRowKey :=
        hkey ▸ List.mem_map_of_mem hmem
      simpa [hin,hkey] using ih

theorem mem_survivors (h : (keys incoming).Nodup) : row∈survivors current incoming ↔
    row∈incoming ∧ processViewRowKey row∈keys current := by
  rw [survivors,List.mem_filterMap]
  constructor
  · intro ⟨old,hold,hlookup⟩
    obtain ⟨hmem,hkey⟩ := (lookup_rowByKey h).mp hlookup
    exact ⟨hmem,hkey ▸ List.mem_map_of_mem hold⟩
  · intro ⟨hmem,hkey⟩
    obtain ⟨old,hold,hsame⟩ := List.mem_map.mp hkey
    exact ⟨old,hold,(lookup_rowByKey h).mpr ⟨hmem,hsame.symm⟩⟩

theorem nodup_survivors (hcurrent : (keys current).Nodup) (hincoming : (keys incoming).Nodup) :
    (keys (survivors current incoming)).Nodup := by
  rw [keys_survivors hincoming]
  exact hcurrent.filter _

theorem survivors_perm (hcurrent : (keys current).Nodup) (hincoming : (keys incoming).Nodup) :
    (survivors current incoming).Perm (commonIncoming current incoming) := by
  refine (List.perm_ext_iff_of_nodup (nodup_survivors hcurrent hincoming).of_map
    (hincoming.of_map.filter _)).mpr ?_
  intro row
  rw [mem_survivors hincoming]
  simp

/-- The loop over the incoming rows adds the newcomers among them. -/
theorem spliced_perm (entries : List (ProcessViewRow δ × Nat)) (rows : List (ProcessViewRow δ)) :
    (entries.foldl (spliceRow current) rows).Perm (rows++
      (entries.map Prod.fst).filter (fun row => processViewRowKey row∉keys current)) := by
  induction entries generalizing rows with
  | nil => simp
  | cons e entries ih =>
    rw [List.foldl_cons]
    refine (ih (spliceRow current rows e)).trans ?_
    by_cases hknown : processViewRowKey e.1∈keys current
    · simp [spliceRow,hknown]
    · rw [spliceRow,if_neg hknown,List.map_cons,List.filter_cons_of_pos (by simpa using hknown)]
      have hinsert := List.perm_insertIdx e.1 rows (Nat.min_le_right e.2 rows.length)
      exact (hinsert.append_right _).trans List.perm_middle.symm

/-- It does not move the rows that both lists hold. -/
theorem spliced_filter (entries : List (ProcessViewRow δ × Nat))
    (rows : List (ProcessViewRow δ)) :
    (entries.foldl (spliceRow current) rows).filter
        (fun row => processViewRowKey row∈keys current)=
      rows.filter (fun row => processViewRowKey row∈keys current) := by
  induction entries generalizing rows with
  | nil => rfl
  | cons e entries ih =>
    rw [List.foldl_cons,ih]
    by_cases hknown : processViewRowKey e.1∈keys current
    · rw [spliceRow,if_pos hknown]
    · rw [spliceRow,if_neg hknown,filter_insertIdx (by simpa using hknown)]

theorem filter_survivors (h : (keys incoming).Nodup) :
    (survivors current incoming).filter (fun row => processViewRowKey row∈keys current)=
      survivors current incoming := by
  refine List.filter_eq_self.mpr ?_
  intro row hrow
  simpa using ((mem_survivors h).mp hrow).2

end Survivors

section Scans
variable {δ : Type} {common held : List (ProcessViewRow δ)}

/-- A scan that finds nothing leaves near ties as the only inverted pairs. -/
theorem near_of_farInversion (hheld : (keys held).Nodup)
    {isNearTie : ProcessViewRow δ → ProcessViewRow δ → Bool}
    (h : farInversion common (indexByKey held) isNearTie=false) {a b : ProcessViewRow δ}
    (hcommon : [a,b].Sublist common) (hshown : [b,a].Sublist held) : isNearTie a b=true := by
  obtain ⟨later,hb,ha⟩ := pair_sublist_iff.mp hcommon
  obtain ⟨place,hplace,hbefore⟩ := pair_sublist_iff.mp hshown
  obtain ⟨first,hfirst⟩ := List.getElem?_of_mem hbefore
  rw [List.getElem?_take] at hfirst
  have hlt : first < place := by
    by_contra hge
    rw [if_neg hge] at hfirst
    cases hfirst
  rw [if_pos hlt] at hfirst
  have hearlier : (indexByKey held).lookup (processViewRowKey a)=some place :=
    (lookup_indexByKey hheld).mpr ⟨a,hplace,rfl⟩
  have hlater : (indexByKey held).lookup (processViewRowKey b)=some first :=
    (lookup_indexByKey hheld).mpr ⟨b,hfirst,rfl⟩
  rw [farInversion,List.any_eq_false] at h
  have hscan := h (b,later) (List.mem_zipIdx_iff_getElem?.mpr hb)
  rw [Bool.not_eq_true,List.any_eq_false] at hscan
  have hpair := hscan a ha
  simpa [hearlier,hlater,hlt] using hpair

/-- A scan that finds nothing leaves every row within one place. -/
theorem near_of_farDisplacement (hheld : (keys held).Nodup)
    (h : farDisplacement common (indexByKey held)=false) {i j : Nat} {row : ProcessViewRow δ}
    (hcommon : common[i]?=some row) (hshown : held[j]?=some row) : i ≤ j+1 ∧ j ≤ i+1 := by
  have hlookup : (indexByKey held).lookup (processViewRowKey row)=some j :=
    (lookup_indexByKey hheld).mpr ⟨row,hshown,rfl⟩
  rw [farDisplacement,List.any_eq_false] at h
  have hscan := h (row,i) (List.mem_zipIdx_iff_getElem?.mpr hcommon)
  simp only [hlookup,decide_eq_true_eq] at hscan
  omega

end Scans

section Ranking
variable {δ τ : Type} [Sub τ] [LE τ] [DecidableLE τ]

/-- What a settled order may do to the incoming one when it does not take it over. -/
structure Held (current incoming shown : List (ProcessViewRow δ))
    (isNearTie : Option (ProcessViewRow δ → ProcessViewRow δ → Bool)) : Prop where
  /-- The keys of both lists stand as they stood. -/
  order : (keys shown).filter (fun key => key∈keys current)=
    (keys current).filter (fun key => key∈keys incoming)
  inversions : ∀ near, isNearTie=some near → ∀ a b, processViewRowKey a∈keys current →
    processViewRowKey b∈keys current → [a,b].Sublist incoming → [b,a].Sublist shown →
    near a b=true
  displacements : isNearTie=none → ∀ i j row, (commonIncoming current incoming)[i]?=some row →
    (shown.filter (fun row => processViewRowKey row∈keys current))[j]?=some row →
    i ≤ j+1 ∧ j ≤ i+1

/-- What the loop over the newcomers makes of survivors that passed the scan. -/
theorem held_of_scan {current incoming : List (ProcessViewRow δ)}
    (hcurrent : (keys current).Nodup) (hincoming : (keys incoming).Nodup)
    {isNearTie : Option (ProcessViewRow δ → ProcessViewRow δ → Bool)}
    (hscan : movedFar (commonIncoming current incoming) (survivors current incoming)
      isNearTie=false) :
    Held current incoming
      (incoming.zipIdx.foldl (spliceRow current) (survivors current incoming)) isNearTie := by
  have hnodup := nodup_survivors hcurrent hincoming
  have hfilter : (incoming.zipIdx.foldl (spliceRow current) (survivors current incoming)).filter
      (fun row => processViewRowKey row∈keys current)=survivors current incoming := by
    rw [spliced_filter,filter_survivors hincoming]
  refine ⟨?_,?_,?_⟩
  · rw [filter_keys,hfilter,keys_survivors hincoming]
  · intro near hnear a b ha hb hbefore hshown
    subst hnear
    have hcommon := hbefore.filter (fun row => decide (processViewRowKey row∈keys current))
    have hheld := hshown.filter (fun row => decide (processViewRowKey row∈keys current))
    rw [hfilter] at hheld
    simp only [ha,hb,decide_true,List.filter_cons_of_pos,List.filter_nil] at hcommon hheld
    exact near_of_farInversion hnodup hscan hcommon hheld
  · intro hnone i j row hcommon hshown
    subst hnone
    rw [hfilter] at hshown
    exact near_of_farDisplacement hnodup hscan hcommon hshown

/-- The loop over the newcomers completes the survivors to the incoming rows. -/
theorem spliced_incoming {current incoming : List (ProcessViewRow δ)}
    (hcurrent : (keys current).Nodup) (hincoming : (keys incoming).Nodup) :
    (incoming.zipIdx.foldl (spliceRow current) (survivors current incoming)).Perm incoming := by
  refine (spliced_perm incoming.zipIdx (survivors current incoming)).trans ?_
  rw [List.zipIdx_map_fst]
  refine ((survivors_perm hcurrent hincoming).append_right _).trans ?_
  simpa [commonIncoming] using List.filter_append_perm
    (fun row => decide (processViewRowKey row∈keys current)) incoming

theorem settled_cases {current incoming : List (ProcessViewRow δ)}
    (hcurrent : (keys current).Nodup) (hincoming : (keys incoming).Nodup)
    (now lastSettledAt settleIntervalMs : τ)
    (isNearTie : Option (ProcessViewRow δ → ProcessViewRow δ → Bool)) :
    let settled :=
      settleProcessRanking current incoming now lastSettledAt settleIntervalMs isNearTie
    settled=⟨incoming,now⟩ ∨
      settled.rows.Perm incoming ∧ Held current incoming settled.rows isNearTie := by
  simp only [settleProcessRanking]
  by_cases hnone : (survivors current incoming).length=0
  · exact .inl (if_pos hnone)
  · rw [if_neg hnone]
    cases hscan : movedFar (commonIncoming current incoming) (survivors current incoming)
        isNearTie with
    | true => exact .inl (if_pos rfl)
    | false =>
      rw [if_neg Bool.false_ne_true]
      by_cases hdue : settleIntervalMs ≤ now-lastSettledAt
      · exact .inl (if_pos hdue)
      · rw [if_neg hdue]
        exact .inr ⟨spliced_incoming hcurrent hincoming,held_of_scan hcurrent hincoming hscan⟩

/-- What an order that is held while the user interacts shows. -/
structure Advanced (current incoming : List (ProcessViewRow δ)) (ranked : RankedRows δ) :
    Prop where
  positions : keys ranked.rows=keys current++
    keys (incoming.filter (fun row => processViewRowKey row∉keys current))
  /-- A row that is still coming in is shown as it comes in. -/
  rows : ∀ row∈ranked.rows, row∈incoming ∨ (row∈current ∧ processViewRowKey row∉keys incoming)
  exited : ∀ key, key∈ranked.exitedKeys ↔ key∈keys current ∧ key∉keys incoming
  update : ranked.updateAvailable=false ↔ keys current=keys incoming

theorem advanced {current incoming : List (ProcessViewRow δ)} (h : (keys incoming).Nodup) :
    Advanced current incoming (advanceProcessRanking current incoming true) := by
  have hexited : ∀ key, key∈(advanceProcessRanking current incoming true).exitedKeys ↔
      key∈keys current ∧ key∉keys incoming := by
    intro key
    simp [advanceProcessRanking,Option.isNone_iff_eq_none,lookup_rowByKey_eq_none]
  have hstable : ∀ row : ProcessViewRow δ,
      processViewRowKey (((rowByKey incoming).lookup (processViewRowKey row)).getD row)=
        processViewRowKey row := by
    intro row
    cases hlookup : (rowByKey incoming).lookup (processViewRowKey row) with
    | none => rfl
    | some next => exact ((lookup_rowByKey h).mp hlookup).2
  refine ⟨?_,?_,hexited,?_⟩
  · simp [advanceProcessRanking,keys,hstable]
  · intro row hrow
    simp only [advanceProcessRanking,Bool.true_eq_false,if_false,List.mem_append,
      List.mem_map] at hrow
    cases hrow with
    | inr hnew => exact .inl (List.mem_of_mem_filter hnew)
    | inl hkept =>
      obtain ⟨old,hold,rfl⟩ := hkept
      cases hlookup : (rowByKey incoming).lookup (processViewRowKey old) with
      | none => exact .inr ⟨hold,lookup_rowByKey_eq_none.mp hlookup⟩
      | some next => exact .inl ((lookup_rowByKey h).mp hlookup).1
  · have hupdate : (advanceProcessRanking current incoming true).updateAvailable=
        (decide (0 < (advanceProcessRanking current incoming true).exitedKeys.card) ||
          !hasSameProcessOrder current incoming) := rfl
    rw [hupdate,Bool.or_eq_false_iff,Bool.not_eq_false',hasSameProcessOrder_iff,
      decide_eq_false_iff_not,Nat.not_lt,Nat.le_zero,Finset.card_eq_zero]
    refine ⟨And.right,fun hsame => ⟨?_,hsame⟩⟩
    refine Finset.eq_empty_of_forall_notMem ?_
    intro key hkey
    rw [hexited,hsame] at hkey
    exact hkey.2 hkey.1

/-- A settled order holds the incoming rows, each once. It is the incoming one, or it keeps the
rows that stay where they were, with no change hidden but near ties. An order that is held keeps
every row in its place and says what it hides. -/
theorem visible_ranking (current incoming : List (ProcessViewRow δ))
    (hcurrent : (keys current).Nodup) (hincoming : (keys incoming).Nodup)
    (now lastSettledAt settleIntervalMs : τ)
    (isNearTie : Option (ProcessViewRow δ → ProcessViewRow δ → Bool)) :
    let settled :=
      settleProcessRanking current incoming now lastSettledAt settleIntervalMs isNearTie
    settled.rows.Perm incoming ∧
      (settled=⟨incoming,now⟩ ∨ Held current incoming settled.rows isNearTie) ∧
      Advanced current incoming (advanceProcessRanking current incoming true) := by
  intro settled
  have hadvanced : Advanced current incoming (advanceProcessRanking current incoming true) :=
    advanced hincoming
  cases settled_cases hcurrent hincoming now lastSettledAt settleIntervalMs isNearTie with
  | inl hadopted =>
    have hrows : settled.rows=incoming := congrArg RankingSettle.rows hadopted
    exact ⟨hrows ▸ List.Perm.refl _,.inl hadopted,hadvanced⟩
  | inr hheld => exact ⟨hheld.1,.inr hheld.2,hadvanced⟩

/-- Two rows that are close keep their places, and a newcomer comes in between. -/
theorem near_rows_stay :
    let row (key : String) (value : Nat) : ProcessViewRow Nat := ⟨key,value⟩
    let near (a b : ProcessViewRow Nat) := decide (a.rest ≤ b.rest+5)
    let settled := settleProcessRanking [row "a" 20,row "b" 19,row "c" 1]
      [row "b" 22,row "n" 21,row "a" 20] (5:Int) 0 10 (some near)
    settled.rows=[row "a" 20,row "n" 21,row "b" 22] ∧
      settled.rows.Perm [row "b" 22,row "n" 21,row "a" 20] := by
  intro row near settled
  exact ⟨by decide,(visible_ranking _ _ (by decide) (by decide) _ _ _ _).1⟩

end Ranking
end BatCave.Desktop
