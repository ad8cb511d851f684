import Mathlib.Algebra.Ring.Nat
import Mathlib.Data.List.Basic

/-! The history of a queue in which a new disposable item takes the place of those that still
wait. Every item that was accepted has an entry, in the order of acceptance, with what became
of it. Nothing here knows what is queued. -/
namespace BatCave.Lib.Ledger
variable {α : Type*}

inductive Fate where
  | waiting
  | started
  /-- It was dropped for the entry of this index. -/
  | replaced (successor : Nat)
  deriving DecidableEq, Repr

structure Entry (α : Type*) where
  item : α
  fate : Fate

def items (ledger : List (Entry α)) : List α := ledger.map Entry.item

def waiting (ledger : List (Entry α)) : List α :=
  (ledger.filter (fun entry => entry.fate=.waiting)).map Entry.item

def started (ledger : List (Entry α)) : List α :=
  (ledger.filter (fun entry => entry.fate=.started)).map Entry.item

/-- What was accepted and not dropped. -/
def kept (ledger : List (Entry α)) : List α :=
  (ledger.filter (fun entry => entry.fate=.waiting || entry.fate=.started)).map Entry.item

/-- The oldest item that waits is started. -/
def start : List (Entry α) → List (Entry α)
  | [] => []
  | entry::ledger =>
    if entry.fate=.waiting then { entry with fate := .started }::ledger else entry::start ledger

section Disposable
variable (disposable : α → Bool)

def drop (successor : Nat) (entry : Entry α) : Entry α :=
  if entry.fate=.waiting ∧ disposable entry.item=true then
    { entry with fate := .replaced successor }
  else entry

/-- A new item at the end; a disposable one drops those that wait. -/
def accept (ledger : List (Entry α)) (item : α) : List (Entry α) :=
  (if disposable item then ledger.map (drop disposable ledger.length) else ledger)++
    [⟨item,.waiting⟩]

/-- Nothing was started before an older item that waits. -/
def InOrder (ledger : List (Entry α)) : Prop :=
  ledger.Pairwise (fun entry later => later.fate=.started → entry.fate≠.waiting)

/-- Only disposable items are dropped, for later ones that are disposable too. -/
def Replaced (ledger : List (Entry α)) : Prop :=
  ∀ (index : Nat) (entry : Entry α), ledger[index]?=some entry →
    ∀ successor, entry.fate=.replaced successor →
      index < successor ∧ disposable entry.item=true ∧
        ∃ later, (items ledger)[successor]?=some later ∧ disposable later=true

end Disposable

variable {disposable : α → Bool} {ledger : List (Entry α)}

@[simp] theorem drop_item (successor : Nat) (entry : Entry α) :
    (drop disposable successor entry).item=entry.item := by
  rw [drop]
  split <;> rfl

theorem drop_started (successor : Nat) (entry : Entry α) :
    (drop disposable successor entry).fate=.started ↔ entry.fate=.started := by
  rw [drop]
  split
  · next h => simp [h.1]
  · rfl

theorem drop_waiting (successor : Nat) (entry : Entry α) :
    (drop disposable successor entry).fate=.waiting ↔
      entry.fate=.waiting ∧ disposable entry.item=false := by
  rw [drop]
  split
  · next h => simp [h.2]
  · next h =>
    rw [not_and,Bool.not_eq_true] at h
    exact ⟨fun hwaiting => ⟨hwaiting,h hwaiting⟩,And.left⟩

theorem items_accept (item : α) : items (accept disposable ledger item)=items ledger++[item] := by
  rw [items,accept,List.map_append]
  split
  · simp [items,Function.comp_def]
  · rfl

theorem items_start : items (start ledger)=items ledger := by
  induction ledger with
  | nil => rfl
  | cons entry ledger ih =>
    rw [start]
    split
    · rfl
    · exact congrArg (entry.item :: ·) ih

theorem waiting_drop (successor : Nat) :
    waiting (ledger.map (drop disposable successor))=
      (waiting ledger).filter (fun item => !disposable item) := by
  induction ledger with
  | nil => rfl
  | cons entry ledger ih =>
    simp only [waiting,List.map_cons,List.filter_cons,drop_waiting,decide_eq_true_eq] at ih ⊢
    by_cases hwaiting : entry.fate=.waiting
    · cases hdisposable : disposable entry.item with
      | false => simp [hwaiting,hdisposable,ih]
      | true => simp [hwaiting,hdisposable,ih]
    · simp [hwaiting,ih]

theorem started_drop (successor : Nat) :
    started (ledger.map (drop disposable successor))=started ledger := by
  induction ledger with
  | nil => rfl
  | cons entry ledger ih =>
    simp only [started,List.map_cons,List.filter_cons,drop_started,decide_eq_true_eq] at ih ⊢
    by_cases hstarted : entry.fate=.started
    · simp [hstarted,ih]
    · simp [hstarted,ih]

theorem waiting_accept (item : α) :
    waiting (accept disposable ledger item)=
      (if disposable item then (waiting ledger).filter (fun item => !disposable item)
        else waiting ledger)++[item] := by
  have happend : ∀ entries : List (Entry α), waiting (entries++[⟨item,.waiting⟩])=
      waiting entries++[item] := by
    intro entries
    simp [waiting]
  rw [accept,happend]
  split
  · rw [waiting_drop]
  · rfl

theorem started_accept (item : α) : started (accept disposable ledger item)=started ledger := by
  have happend : ∀ entries : List (Entry α), started (entries++[⟨item,.waiting⟩])=
      started entries := by
    intro entries
    simp [started]
  rw [accept,happend]
  split
  · rw [started_drop]
  · rfl

theorem waiting_start : waiting (start ledger)=(waiting ledger).tail := by
  induction ledger with
  | nil => rfl
  | cons entry ledger ih =>
    rw [start]
    by_cases hwaiting : entry.fate=.waiting
    · simp [waiting,hwaiting]
    · rw [if_neg hwaiting]
      simp only [waiting,List.filter_cons,decide_eq_true_eq,hwaiting,if_false] at ih ⊢
      exact ih

/-- Behind an item that waits nothing has started. -/
theorem InOrder.started_nil {entry : Entry α} (h : InOrder (entry::ledger))
    (hwaiting : entry.fate=.waiting) : started ledger=[] := by
  have hnone : ∀ later∈ledger, later.fate≠.started := by
    intro later hlater hstarted
    exact (List.pairwise_cons.mp h).1 later hlater hstarted hwaiting
  rw [started,List.map_eq_nil_iff,List.filter_eq_nil_iff]
  intro later hlater
  simpa using hnone later hlater

theorem started_start (h : InOrder ledger) :
    started (start ledger)=started ledger++(waiting ledger).head?.toList := by
  induction ledger with
  | nil => rfl
  | cons entry ledger ih =>
    have htail : InOrder ledger := (List.pairwise_cons.mp h).2
    rw [start]
    by_cases hwaiting : entry.fate=.waiting
    · have hnil := h.started_nil hwaiting
      simp only [started] at hnil
      simp [started,waiting,hwaiting,hnil]
    · rw [if_neg hwaiting]
      have ih := ih htail
      by_cases hstarted : entry.fate=.started
      · simp only [started,waiting,List.filter_cons,hstarted,decide_true,if_true,
          List.map_cons] at ih ⊢
        simp only [ih]
        simp
      · simp only [started,waiting,List.filter_cons,hstarted,hwaiting,decide_false] at ih ⊢
        exact ih

/-- What was started, and behind it what waits, is what was kept. -/
theorem InOrder.kept_eq (h : InOrder ledger) : kept ledger=started ledger++waiting ledger := by
  induction ledger with
  | nil => rfl
  | cons entry ledger ih =>
    have htail : InOrder ledger := (List.pairwise_cons.mp h).2
    have ih := ih htail
    simp only [kept,started,waiting] at ih
    by_cases hwaiting : entry.fate=.waiting
    · have hnil := h.started_nil hwaiting
      simp only [started] at hnil
      rw [hnil] at ih
      simp [kept,started,waiting,hwaiting,hnil,ih]
    · by_cases hstarted : entry.fate=.started
      · simp [kept,started,waiting,hstarted,ih]
      · simp [kept,started,waiting,hstarted,hwaiting,ih]

theorem InOrder.accept (h : InOrder ledger) (item : α) :
    InOrder (accept disposable ledger item) := by
  rw [Ledger.accept,InOrder,List.pairwise_append]
  refine ⟨?_,List.pairwise_singleton _ _,?_⟩
  · split
    · rw [List.pairwise_map]
      refine h.imp ?_
      intro entry later hpair hstarted hwaiting
      exact hpair ((drop_started _ _).mp hstarted) ((drop_waiting _ _).mp hwaiting).1
    · exact h
  · intro entry _ later hlater hstarted
    rw [List.mem_singleton] at hlater
    rw [hlater] at hstarted
    cases hstarted

theorem InOrder.start (h : InOrder ledger) : InOrder (start ledger) := by
  induction ledger with
  | nil => exact h
  | cons entry ledger ih =>
    obtain ⟨hfirst,htail⟩ := List.pairwise_cons.mp h
    rw [Ledger.start]
    split
    · refine List.pairwise_cons.mpr ⟨?_,htail⟩
      intro later _ _ hwaiting
      cases hwaiting
    · next hwaiting => exact List.pairwise_cons.mpr ⟨fun _ _ _ => hwaiting,ih htail⟩

theorem replaced_of_start {index successor : Nat} {entry : Entry α}
    (h : (start ledger)[index]?=some entry) (hfate : entry.fate=.replaced successor) :
    ledger[index]?=some entry := by
  induction ledger generalizing index with
  | nil => exact h
  | cons first ledger ih =>
    rw [start] at h
    split at h
    · cases index with
      | zero =>
        rw [List.getElem?_cons_zero,Option.some.injEq] at h
        rw [← h] at hfate
        cases hfate
      | succ index => exact h
    · cases index with
      | zero => exact h
      | succ index => exact ih h

theorem Replaced.start (h : Replaced disposable ledger) : Replaced disposable (start ledger) := by
  intro index entry hentry successor hfate
  rw [items_start]
  exact h index entry (replaced_of_start hentry hfate) successor hfate

/-- An entry that is dropped was so before, or is dropped for the item at hand. -/
theorem replaced_of_accept {item : α} {index successor : Nat} {entry : Entry α}
    (h : (accept disposable ledger item)[index]?=some entry)
    (hfate : entry.fate=.replaced successor) :
    ledger[index]?=some entry ∨
      disposable item=true ∧ index < ledger.length ∧ successor=ledger.length ∧
        disposable entry.item=true := by
  rw [accept] at h
  by_cases hdisposable : disposable item=true
  · rw [if_pos hdisposable,List.getElem?_append,List.length_map] at h
    split at h
    · next hindex =>
      rw [List.getElem?_map,Option.map_eq_some_iff] at h
      obtain ⟨old,hold,rfl⟩ := h
      rw [drop] at hfate ⊢
      split at hfate
      · next hdropped =>
        rw [if_pos hdropped]
        exact .inr ⟨hdisposable,hindex,(Fate.replaced.inj hfate).symm,hdropped.2⟩
      · next hdropped =>
        rw [if_neg hdropped]
        exact .inl hold
    · rw [List.getElem?_singleton] at h
      split at h
      · rw [← Option.some.inj h] at hfate
        cases hfate
      · cases h
  · rw [if_neg hdisposable,List.getElem?_append] at h
    split at h
    · exact .inl h
    · rw [List.getElem?_singleton] at h
      split at h
      · rw [← Option.some.inj h] at hfate
        cases hfate
      · cases h

theorem Replaced.accept (h : Replaced disposable ledger) (item : α) :
    Replaced disposable (accept disposable ledger item) := by
  intro index entry hentry successor hfate
  rw [items_accept]
  have hlength : (items ledger).length=ledger.length := List.length_map _
  cases replaced_of_accept hentry hfate with
  | inl hold =>
    obtain ⟨hlater,hitem,later,hsome,hdisposable⟩ := h index entry hold successor hfate
    have hbound : successor < (items ledger).length := (List.getElem?_eq_some_iff.mp hsome).1
    exact ⟨hlater,hitem,later,by rw [List.getElem?_append_left hbound,hsome],hdisposable⟩
  | inr hnew =>
    obtain ⟨hdisposable,hindex,hsuccessor,hitem⟩ := hnew
    exact ⟨hsuccessor ▸ hindex,hitem,item,by rw [hsuccessor,← hlength,List.getElem?_concat_length],
      hdisposable⟩

section Fates
variable {index : Nat} {entry : Entry α}

/-- An item that is accepted leaves every entry as it was, or drops it. -/
theorem fate_accept (h : ledger[index]?=some entry) (item : α) :
    ∃ entry', (accept disposable ledger item)[index]?=some entry' ∧ entry'.item=entry.item ∧
      (entry'.fate=entry.fate ∨ entry'.fate=.replaced ledger.length ∧
        disposable item=true ∧ disposable entry.item=true) := by
  have hindex : index < ledger.length := (List.getElem?_eq_some_iff.mp h).1
  rw [accept]
  by_cases hdisposable : disposable item=true
  · rw [if_pos hdisposable,List.getElem?_append_left (by rw [List.length_map]; exact hindex),
      List.getElem?_map,h]
    refine ⟨_,rfl,drop_item _ _,?_⟩
    rw [drop]
    split
    · next hdropped => exact .inr ⟨rfl,hdisposable,hdropped.2⟩
    · exact .inl rfl
  · rw [if_neg hdisposable,List.getElem?_append_left hindex]
    exact ⟨entry,h,rfl,.inl rfl⟩

theorem accept_last (item : α) :
    (accept disposable ledger item)[ledger.length]?=some ⟨item,.waiting⟩ := by
  rw [accept]
  split
  · rw [List.getElem?_append_right (by rw [List.length_map]),List.length_map,Nat.sub_self]
    rfl
  · rw [List.getElem?_concat_length]

/-- Only the first item that waits is started. -/
theorem fate_start (h : ledger[index]?=some entry) :
    ∃ entry', (start ledger)[index]?=some entry' ∧ entry'.item=entry.item ∧
      (entry'.fate=entry.fate ∨ entry'.fate=.started ∧
        (waiting ledger).head?=some entry.item) := by
  induction ledger generalizing index with
  | nil => cases h
  | cons first ledger ih =>
    rw [start]
    by_cases hwaiting : first.fate=.waiting
    · rw [if_pos hwaiting]
      cases index with
      | zero =>
        rw [List.getElem?_cons_zero,Option.some.injEq] at h
        have hhead : (waiting (first::ledger)).head?=some first.item := by
          rw [waiting,List.filter_cons_of_pos (by simpa using hwaiting)]
          rfl
        rw [h] at hhead
        exact ⟨_,rfl,by rw [h],.inr ⟨rfl,h ▸ hhead⟩⟩
      | succ index => exact ⟨entry,h,rfl,.inl rfl⟩
    · rw [if_neg hwaiting]
      cases index with
      | zero => exact ⟨entry,h,rfl,.inl rfl⟩
      | succ index =>
        have hhead : waiting (first::ledger)=waiting ledger := by
          simp [waiting,hwaiting]
        rw [hhead]
        exact ih h

/-- What has started leaves no older item waiting. -/
theorem InOrder.not_waiting (h : InOrder ledger) {later : Nat} {entry' : Entry α}
    (hindex : index < later) (hentry : ledger[index]?=some entry)
    (hlater : ledger[later]?=some entry') (hstarted : entry'.fate=.started) :
    entry.fate≠.waiting := by
  obtain ⟨hbound,hentry⟩ := List.getElem?_eq_some_iff.mp hentry
  obtain ⟨hbound',hlater⟩ := List.getElem?_eq_some_iff.mp hlater
  have hpair := List.pairwise_iff_getElem.mp h index later hbound hbound' hindex
  rw [hentry,hlater] at hpair
  exact hpair hstarted

end Fates
end BatCave.Lib.Ledger
