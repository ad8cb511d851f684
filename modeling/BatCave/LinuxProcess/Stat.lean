import BatCave.Lib.Integer
import BatCave.Lib.Result
import BatCave.Lib.SemVer

/-! A process as `/proc/<pid>/stat` describes it. The name is whatever the process calls
itself: it ends at the last bracket of the text. -/
namespace BatCave.LinuxProcess
open BatCave.Lib.Integer BatCave.Lib.Result BatCave.Lib.SemVer BatCave.Lib.Text

structure ProcessStat where
  pid : Nat
  name : String
  status : String
  parentPid : Option String
  userTicks : Nat
  kernelTicks : Nat
  threads : Nat
  startTimeTicks : Nat
  virtualMemoryBytes : Nat
  rssPages : Int
  deriving DecidableEq, Repr

def processStatusLabel (value : String) : String :=
  match value with
  | "R" => "running"
  | "S" => "sleeping"
  | "D" => "disk_sleep"
  | "Z" => "zombie"
  | "T" | "t" => "stopped"
  | "I" => "idle"
  | "W" => "paging"
  | "X" | "x" => "dead"
  | "K" => "wakekill"
  | "P" => "parked"
  | _ => value

/-- `str::find` with a character: the length of what stands before its first occurrence. -/
def find (c : Char) (cs : List Char) : Option Nat := (splitOnce c cs).map (fun p => p.1.length)

/-- `str::rfind`: the length of what stands before its last occurrence. -/
def rfind (c : Char) (cs : List Char) : Option Nat :=
  (splitOnce c cs.reverse).map (fun p => p.2.length)

def field (fields : List String) (index : Nat) : String := fields[index]?.getD ""

/-- `parse_process_stat_field` for an unsigned integer below `bound`. -/
def parseProcessStatField (bound : Nat) (fields : List String) (index : Nat) (name : String) :
    Except String Nat :=
  okOr (parseUnsigned bound (field fields index))
    ("linux_proc_stat_"++name++"_parse_failed:"++parseIntError bound (field fields index))

/-- The part of `parse_process_stat` that knows the bounds of the name. -/
def readStat (before name after : String) : Except String ProcessStat := do
  let pid ← okOr (parseU32 (trim before))
    ("linux_proc_stat_pid_parse_failed:"++parseIntError (2^32) (trim before))
  let fields := splitWhitespace after
  if fields.length < 22 then .error "linux_proc_stat_too_short"
  else do
    let parentPid ← parseProcessStatField (2^32) fields 1 "parent_pid"
    let userTicks ← parseProcessStatField (2^64) fields 11 "user_ticks"
    let kernelTicks ← parseProcessStatField (2^64) fields 12 "kernel_ticks"
    let threads ← parseProcessStatField (2^32) fields 17 "threads"
    let startTimeTicks ← parseProcessStatField (2^64) fields 19 "start_time_ticks"
    let virtualMemoryBytes ← parseProcessStatField (2^64) fields 20 "virtual_memory_bytes"
    let rssPages ← okOr (parseI64 (field fields 21))
      ("linux_proc_stat_rss_pages_parse_failed:"++parseSignedError (2^63) (field fields 21))
    .ok { pid := pid
          name := name
          status := processStatusLabel (field fields 0)
          parentPid := if parentPid≠0 then some (Nat.repr parentPid) else none
          userTicks := userTicks
          kernelTicks := kernelTicks
          threads := threads
          startTimeTicks := startTimeTicks
          virtualMemoryBytes := virtualMemoryBytes
          rssPages := rssPages }

def parseProcessStat (content : String) : Except String ProcessStat := do
  let cs := content.toList
  let opening ← okOr (find '(' cs) "linux_proc_stat_missing_name_open"
  let closing ← okOr (rfind ')' cs) "linux_proc_stat_missing_name_close"
  if closing ≤ opening then .error "linux_proc_stat_invalid_name_bounds"
  else
    readStat (String.ofList (cs.take opening))
      (String.ofList ((cs.take closing).drop (opening+1)))
      (String.ofList (cs.drop (closing+1)))

/-- The fields behind the name, as the text has them. -/
def statFields (content : String) : List String :=
  match rfind ')' content.toList with
  | none => []
  | some closing => splitWhitespace (String.ofList (content.toList.drop (closing+1)))

/-- The fields as the kernel writes them, with the values of a process in place. -/
def kernelFields (stat : ProcessStat) (words : List String) : List String :=
  ((((((words.set 1 (stat.parentPid.getD "0")).set 11 (Nat.repr stat.userTicks)).set 12
    (Nat.repr stat.kernelTicks)).set 17 (Nat.repr stat.threads)).set 19
    (Nat.repr stat.startTimeTicks)).set 20 (Nat.repr stat.virtualMemoryBytes)).set 21
    (decimal stat.rssPages)

/-- The kernel's format: `pid (name) fields`. -/
def renderStat (stat : ProcessStat) (words : List String) : String :=
  Nat.repr stat.pid++" ("++stat.name++") "++" ".intercalate (kernelFields stat words)

section Bounds
variable {before name after : List Char}

theorem find_append {c : Char} {front back : List Char} (h : c∉front) :
    find c (front++c::back)=some front.length := by
  rw [find,splitOnce_eq_some.mpr ⟨rfl,h⟩]
  rfl

theorem rfind_append {c : Char} {front back : List Char} (h : c∉back) :
    rfind c (front++c::back)=some front.length := by
  have hreverse : (front++c::back).reverse=back.reverse++c::front.reverse := by simp
  rw [rfind,splitOnce_eq_some.mpr ⟨hreverse,by simpa using h⟩]
  simp

/-- The name lies between the first opening and the last closing bracket. -/
theorem parseProcessStat_parts {content : String}
    (hcontent : content.toList=before++ '('::(name++ ')'::after)) (hbefore : '(' ∉ before)
    (hafter : ')' ∉ after) : parseProcessStat content=
      readStat (String.ofList before) (String.ofList name) (String.ofList after) := by
  have hclose : before++ '('::(name++ ')'::after)=(before++ '('::name)++ ')'::after := by simp
  have hopening : find '(' content.toList=some before.length := by
    rw [hcontent]
    exact find_append hbefore
  have hclosing : rfind ')' content.toList=some (before.length+1+name.length) := by
    rw [hcontent,hclose,rfind_append hafter,List.length_append,List.length_cons]
    congr 1
    omega
  have hlt : ¬before.length+1+name.length ≤ before.length := by omega
  have hfront : content.toList.take before.length=before := by rw [hcontent,List.take_left]
  have hname : (content.toList.take (before.length+1+name.length)).drop (before.length+1)=name := by
    have htake : content.toList.take (before.length+1+name.length)=before++ '('::name := by
      rw [hcontent,hclose]
      exact List.take_left' (by simp; omega)
    have hsplit : before++ '('::name=(before++['('])++name := by simp
    rw [htake,hsplit]
    exact List.drop_left' (by simp)
  have hback : content.toList.drop (before.length+1+name.length+1)=after := by
    have hsplit : (before++ '('::name)++ ')'::after=((before++ '('::name)++[')'])++after := by simp
    rw [hcontent,hclose,hsplit]
    exact List.drop_left' (by simp; omega)
  rw [parseProcessStat,hopening,hclosing]
  simp only [okOr,Option.elim_some,bind,Except.bind,if_neg hlt,hfront,hname,hback]

end Bounds

/-- What the parser's types hold, and fields that the closing bracket does not occur in. -/
structure Renders (stat : ProcessStat) (words : List String) : Prop where
  pid : stat.pid < 2^32
  status : stat.status=processStatusLabel (field words 0)
  parentPid : stat.parentPid=none ∨ ∃ n, 0 < n ∧ n < 2^32 ∧ stat.parentPid=some (Nat.repr n)
  userTicks : stat.userTicks < 2^64
  kernelTicks : stat.kernelTicks < 2^64
  threads : stat.threads < 2^32
  startTimeTicks : stat.startTimeTicks < 2^64
  virtualMemoryBytes : stat.virtualMemoryBytes < 2^64
  rssPages : -2^63 ≤ stat.rssPages ∧ stat.rssPages < 2^63
  enough : 22 ≤ words.length
  words : ∀ w∈words, Word w ∧ ')' ∉ w.toList

section Render
variable {stat : ProcessStat} {words : List String}

theorem forall_mem_set {α : Type} {P : α → Prop} {xs : List α} {n : Nat} {a : α}
    (h : ∀ x∈xs, P x) (ha : P a) : ∀ x∈xs.set n a, P x := by
  intro x hx
  cases List.mem_or_eq_of_mem_set hx with
  | inl hold => exact h x hold
  | inr hnew => exact hnew ▸ ha

theorem bracket_notMem_repr (n : Nat) : ')' ∉ (Nat.repr n).toList := by
  intro hm
  rw [Nat.toList_repr] at hm
  exact absurd (Nat.isDigit_of_mem_toDigits (by decide) (by decide) hm) (by decide)

theorem bracket_notMem_decimal (n : Int) : ')' ∉ (decimal n).toList := by
  intro hm
  cases mem_decimal hm with
  | inl hdigit => exact absurd hdigit (by decide)
  | inr hminus => exact absurd hminus (by decide)

/-- The parent as the kernel writes it. -/
theorem Renders.parent (h : Renders stat words) : ∃ n, n < 2^32 ∧
    stat.parentPid.getD "0"=Nat.repr n ∧
    stat.parentPid=if n≠0 then some (Nat.repr n) else none := by
  cases h.parentPid with
  | inl hnone => exact ⟨0,by decide,by rw [hnone]; rfl,by rw [hnone]; rfl⟩
  | inr hsome =>
    obtain ⟨n,hpos,hlt,hn⟩ := hsome
    exact ⟨n,hlt,by rw [hn]; rfl,by rw [hn,if_pos (by omega)]⟩

theorem Renders.kernelFields_words (h : Renders stat words) :
    ∀ w∈kernelFields stat words, Word w ∧ ')' ∉ w.toList := by
  have hnumber : ∀ n, Word (Nat.repr n) ∧ ')' ∉ (Nat.repr n).toList := fun n =>
    ⟨word_repr n,bracket_notMem_repr n⟩
  obtain ⟨n,_,hparent,_⟩ := h.parent
  unfold kernelFields
  refine forall_mem_set ?_ ⟨word_decimal _,bracket_notMem_decimal _⟩
  refine forall_mem_set ?_ (hnumber _)
  refine forall_mem_set ?_ (hnumber _)
  refine forall_mem_set ?_ (hnumber _)
  refine forall_mem_set ?_ (hnumber _)
  refine forall_mem_set ?_ (hnumber _)
  exact forall_mem_set h.words (hparent ▸ hnumber n)

theorem field_kernelFields (h : 22 ≤ words.length) :
    field (kernelFields stat words) 0=field words 0 ∧
    field (kernelFields stat words) 1=stat.parentPid.getD "0" ∧
    field (kernelFields stat words) 11=Nat.repr stat.userTicks ∧
    field (kernelFields stat words) 12=Nat.repr stat.kernelTicks ∧
    field (kernelFields stat words) 17=Nat.repr stat.threads ∧
    field (kernelFields stat words) 19=Nat.repr stat.startTimeTicks ∧
    field (kernelFields stat words) 20=Nat.repr stat.virtualMemoryBytes ∧
    field (kernelFields stat words) 21=decimal stat.rssPages := by
  have hlt : ∀ n, n < 22 → n < words.length := fun n hn => by omega
  simp [field,kernelFields,hlt]

theorem parseProcessStatField_repr {bound n index : Nat} {fields : List String} {name : String}
    (hfield : field fields index=Nat.repr n) (hn : n < bound) :
    parseProcessStatField bound fields index name=.ok n := by
  rw [parseProcessStatField,hfield,parseUnsigned_repr hn]
  rfl

/-- Whatever the name is, what the kernel writes about a process is read as it was meant. -/
theorem parse_render (h : Renders stat words) :
    parseProcessStat (renderStat stat words)=.ok stat := by
  have hfields := h.kernelFields_words
  have hbefore : '(' ∉ (Nat.repr stat.pid++" ").toList := by
    intro hm
    rw [String.toList_append,Nat.toList_repr,List.mem_append] at hm
    cases hm with
    | inl hdigit =>
      exact absurd (Nat.isDigit_of_mem_toDigits (by decide) (by decide) hdigit) (by decide)
    | inr hspace => exact absurd hspace (by decide)
  have hafter : ')' ∉ (" "++" ".intercalate (kernelFields stat words)).toList := by
    rw [String.toList_append,List.mem_append,not_or]
    exact ⟨by decide,notMem_intercalate (by decide) (fun w hw => (hfields w hw).2)⟩
  have htext : (renderStat stat words).toList=(Nat.repr stat.pid++" ").toList++ '('::
      (stat.name.toList++ ')'::(" "++" ".intercalate (kernelFields stat words)).toList) := by
    simp [renderStat]
  have hpid : trim (String.ofList (Nat.repr stat.pid++" ").toList)=Nat.repr stat.pid := by
    rw [String.ofList_toList]
    exact trim_word_space (word_repr stat.pid)
  have hsplit : splitWhitespace
      (String.ofList (" "++" ".intercalate (kernelFields stat words)).toList)=
      kernelFields stat words := by
    rw [String.ofList_toList,splitWhitespace_space]
    exact splitWhitespace_join (fun w hw => (hfields w hw).1)
  have hlong : ¬(kernelFields stat words).length < 22 := by
    have henough := h.enough
    simp [kernelFields]
    omega
  obtain ⟨hstate,hppid,huser,hkernel,hthreads,hstart,hvirtual,hrss⟩ :=
    @field_kernelFields stat words h.enough
  obtain ⟨n,hn,hparent,hsame⟩ := h.parent
  rw [hparent] at hppid
  have hpidValue : parseU32 (Nat.repr stat.pid)=some stat.pid := parseU32_repr h.pid
  have hrssValue : parseI64 (decimal stat.rssPages)=some stat.rssPages :=
    parseI64_decimal h.rssPages.1 h.rssPages.2
  rw [parseProcessStat_parts htext hbefore hafter,readStat,hpid,hsplit,hpidValue]
  simp only [okOr,Option.elim_some,bind,Except.bind,if_neg hlong]
  rw [parseProcessStatField_repr hppid hn,parseProcessStatField_repr huser h.userTicks,
    parseProcessStatField_repr hkernel h.kernelTicks,parseProcessStatField_repr hthreads h.threads,
    parseProcessStatField_repr hstart h.startTimeTicks,
    parseProcessStatField_repr hvirtual h.virtualMemoryBytes,hrss,hrssValue]
  simp only [Option.elim_some]
  rw [hstate,← h.status,← hsame,String.ofList_toList]

end Render

section Accepted
variable {content : String} {stat : ProcessStat}

/-- What an accepted text is made of. -/
theorem parseProcessStat_ok (h : parseProcessStat content=.ok stat) : ∃ before name after,
    content.toList=before++ '('::(name++ ')'::after) ∧ '(' ∉ before ∧ ')' ∉ after ∧
    readStat (String.ofList before) (String.ofList name) (String.ofList after)=.ok stat := by
  have hwhole := h
  unfold parseProcessStat at h
  obtain ⟨opening,hopening,h⟩ := okOr_bind_ok.mp h
  obtain ⟨closing,hclosing,h⟩ := okOr_bind_ok.mp h
  unfold find at hopening
  unfold rfind at hclosing
  obtain ⟨⟨before,behind⟩,hfirst,hlength⟩ := Option.map_eq_some_iff.mp hopening
  obtain ⟨⟨after,ahead⟩,hlast,hlength'⟩ := Option.map_eq_some_iff.mp hclosing
  obtain ⟨hcontent,hbefore⟩ := splitOnce_eq_some.mp hfirst
  obtain ⟨hreverse,hafter⟩ := splitOnce_eq_some.mp hlast
  have hcontent' : content.toList=ahead.reverse++ ')'::after.reverse := by
    have hback := congrArg List.reverse hreverse
    simpa using hback
  have hbracket : ')' ∉ after.reverse := by simpa using hafter
  simp only at hlength hlength'
  split at h
  · cases h
  · next hle =>
    -- What stands before the last closing bracket starts with the first opening one.
    have hlen : before.length < ahead.reverse.length := by
      rw [List.length_reverse]
      omega
    have htake : ahead.reverse.take (before.length+1)=before++['('] := by
      have hfront : content.toList.take (before.length+1)=before++['('] := by
        rw [hcontent]
        have hsplit : before++ '('::behind=(before++['('])++behind := by simp
        rw [hsplit]
        exact List.take_left' (by simp)
      rw [hcontent',List.take_append_of_le_length (by omega)] at hfront
      exact hfront
    have hname : ahead.reverse=before++ '('::ahead.reverse.drop (before.length+1) := by
      have hboth := List.take_append_drop (before.length+1) ahead.reverse
      rw [htake,List.append_assoc,List.singleton_append] at hboth
      exact hboth.symm
    have hparts : content.toList=
        before++ '('::(ahead.reverse.drop (before.length+1)++ ')'::after.reverse) := by
      rw [hcontent']
      conv_lhs => rw [hname]
      simp
    have hok := parseProcessStat_parts hparts hbefore hbracket
    exact ⟨before,_,after.reverse,hparts,hbefore,hbracket,hok ▸ hwhole⟩

theorem statFields_parts {before name after : List Char}
    (hcontent : content.toList=before++ '('::(name++ ')'::after)) (hafter : ')' ∉ after) :
    statFields content=splitWhitespace (String.ofList after) := by
  have hclose : content.toList=(before++ '('::name)++ ')'::after := by rw [hcontent]; simp
  have hsplit : (before++ '('::name)++ ')'::after=((before++ '('::name)++[')'])++after := by simp
  have hclosing : rfind ')' content.toList=some (before++ '('::name).length := by
    rw [hclose,rfind_append hafter]
  have hback : content.toList.drop ((before++ '('::name).length+1)=after := by
    rw [hclose,hsplit]
    exact List.drop_left' (by simp; omega)
  unfold statFields
  rw [hclosing]
  simp only [hback]

theorem parseProcessStatField_ok {bound n index : Nat} {fields : List String} {name : String}
    (h : parseProcessStatField bound fields index name=.ok n) : n < bound :=
  parseUnsigned_lt (okOr_ok.mp h)

/-- What is read behind a name is what the kernel could have written. -/
theorem readStat_renders {before name after : String} (h : readStat before name after=.ok stat)
    (hafter : ')' ∉ after.toList) : stat.name=name ∧ Renders stat (splitWhitespace after) := by
  unfold readStat at h
  obtain ⟨pid,hpid,h⟩ := okOr_bind_ok.mp h
  simp only at h
  split at h
  · cases h
  · next hlong =>
    obtain ⟨parentPid,hparent,h⟩ := bind_ok.mp h
    obtain ⟨userTicks,huser,h⟩ := bind_ok.mp h
    obtain ⟨kernelTicks,hkernel,h⟩ := bind_ok.mp h
    obtain ⟨threads,hthreads,h⟩ := bind_ok.mp h
    obtain ⟨startTimeTicks,hstart,h⟩ := bind_ok.mp h
    obtain ⟨virtualMemoryBytes,hvirtual,h⟩ := bind_ok.mp h
    obtain ⟨rssPages,hrss,h⟩ := okOr_bind_ok.mp h
    cases h
    refine ⟨rfl,{ pid := parseUnsigned_lt hpid
                  status := rfl
                  parentPid := ?_
                  userTicks := parseProcessStatField_ok huser
                  kernelTicks := parseProcessStatField_ok hkernel
                  threads := parseProcessStatField_ok hthreads
                  startTimeTicks := parseProcessStatField_ok hstart
                  virtualMemoryBytes := parseProcessStatField_ok hvirtual
                  rssPages := parseI64_bounds hrss
                  enough := by omega
                  words := ?_ }⟩
    · by_cases hzero : parentPid=0
      · exact .inl (by simp [hzero])
      · exact .inr ⟨parentPid,by omega,parseProcessStatField_ok hparent,by simp [hzero]⟩
    · intro w hw
      obtain ⟨hword,hmem⟩ := mem_splitWhitespace hw
      exact ⟨hword,fun hbracket => hafter (hmem _ hbracket)⟩

theorem renders_of_accepted (h : parseProcessStat content=.ok stat) :
    Renders stat (statFields content) := by
  obtain ⟨before,name,after,hcontent,_,hafter,hread⟩ := parseProcessStat_ok h
  rw [statFields_parts hcontent hafter]
  exact (readStat_renders hread (by simpa using hafter)).2

/-- The status the parser shows is never blank. -/
theorem Renders.status_visible {words : List String} (h : Renders stat words) :
    trim stat.status≠"" := by
  have henough := h.enough
  have hfirst : field words 0∈words := by
    rw [field,List.getElem?_eq_getElem (by omega),Option.getD_some]
    exact List.getElem_mem _
  obtain ⟨hne,hvisible⟩ := (h.words _ hfirst).1
  obtain ⟨c,hc⟩ := List.exists_mem_of_ne_nil _ hne
  rw [h.status]
  unfold processStatusLabel
  split <;> first | decide | exact trim_ne_empty hc (hvisible c hc)

end Accepted
end BatCave.LinuxProcess
