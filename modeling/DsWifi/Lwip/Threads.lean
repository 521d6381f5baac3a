import DsWifi.Lwip.Mailbox

/-!
# Threads at mailboxes

`sys_mbox_post` and `sys_arch_mbox_fetch` (`source/arm9/lwip/sys.c`) try until they succeed. Between
two tries a thread sleeps until the mailbox is signalled, and each try signals it. Threads are not
interrupted by other threads: they run until they sleep. `cothread_send_signal` and
`cothread_yield_signal` belong to libnds, and are parameters.

* `mailbox_threads_sane` — no thread sleeps while its mailbox would let it go on, whatever the
  schedule
* `waits_of_own` — a thread that sleeps is not woken when the time of its fetch is over
-/

namespace Wifi

open Infra

/-! ## Threads of libnds -/

/-- What libnds does with signals. `σ` is its state. -/
structure Cothreads (σ τ : Type) where
  /-- `cothread_send_signal`. -/
  sendSignal : σ → Nat → σ
  /-- `cothread_yield_signal`, called by this thread. -/
  yieldSignal : σ → τ → Nat → σ
  /-- The signal that a thread sleeps for. -/
  waits : σ → τ → Option Nat

/-- A signal wakes all who sleep for it, and a thread that yields sleeps. -/
structure Cothreads.Lawful {σ τ : Type} (lib : Cothreads σ τ) : Prop where
  sendSignal : ∀ c signal t mbox, lib.waits (lib.sendSignal c signal) t = some mbox ↔
    lib.waits c t = some mbox ∧ mbox ≠ signal
  yieldSignal_self : ∀ c t signal, lib.waits (lib.yieldSignal c t signal) t = some signal
  yieldSignal_of_ne : ∀ c t signal u, u ≠ t →
    lib.waits (lib.yieldSignal c t signal) u = lib.waits c u

/-! ## State -/

/-- A call that may have to wait. `mbox` is the address of a handle. -/
inductive MboxCall
  /-- `sys_mbox_post`. -/
  | post (mbox msg : Nat)
  /-- `sys_arch_mbox_fetch`. A timeout of zero is none. -/
  | fetch (mbox : Nat) (isNull : Bool) (timeout : Nat)

/-- The address of the handle. It is the signal of the mailbox, too. -/
def MboxCall.mbox : MboxCall → Nat
  | .post mbox _ => mbox
  | .fetch mbox _ _ => mbox

/-- How a call has ended. -/
inductive MboxReturn
  | posted (mbox msg : Nat)
  /-- There is no mailbox, and the message is lost. -/
  | invalid (mbox : Nat)
  | fetched (mbox : Nat) (msg : Option Nat)
  /-- `SYS_ARCH_TIMEOUT`, so many milliseconds after the call. -/
  | timedOut (mbox timeout waited : Nat)

structure MboxThread where
  /-- The call that it is in, and those to come. -/
  todo : List MboxCall
  /-- When its call has begun. -/
  startTime : Option Nat
  /-- When it has tried last before it went to sleep. -/
  tried : Nat

/-- Threads and mailboxes. -/
structure MboxThreads (σ τ : Type) where
  mboxes : LoggedMbox
  /-- The handles. -/
  vars : Nat → UInt32
  /-- The milliseconds so far. `wifi_sys_ms_counter` has the lower 32 bits. -/
  now : Nat
  cothreads : σ
  threads : τ → MboxThread
  /-- The calls that have ended. -/
  returns : List (τ × MboxReturn)

inductive MboxThreadEvent (τ : Type)
  /-- A thread goes on until it sleeps, or until its call has ended. -/
  | run (t : τ)
  /-- A millisecond passes. -/
  | tick

namespace MboxThreads

variable {σ τ : Type} [DecidableEq τ]

/-- All threads are in front of their first call. -/
def start (mboxes : LoggedMbox) (vars : Nat → UInt32) (cothreads : σ) (todo : τ → List MboxCall) :
    MboxThreads σ τ where
  mboxes
  vars
  now := 0
  cothreads
  threads t := ⟨todo t, none, 0⟩
  returns := []

/-! ## Steps -/

/-- The time of a fetch is over. The difference is one of 32 bits. -/
def IsOver (timeout startTime now : Nat) : Prop :=
  0 < timeout ∧ timeout ≤ u32 (u32 now + 2 ^ 32 - u32 startTime)

instance (timeout startTime now : Nat) : Decidable (IsOver timeout startTime now) :=
  inferInstanceAs (Decidable (_ ∧ _))

variable (lib : Cothreads σ τ)

/-- A thread goes to sleep in its call. -/
def sleep (s : MboxThreads σ τ) (t : τ) (mbox startTime : Nat) : MboxThreads σ τ :=
  { s with
    cothreads := lib.yieldSignal s.cothreads t mbox
    threads := Function.update s.threads t ⟨(s.threads t).todo, some startTime, s.now⟩ }

/-- A call returns. -/
def finish (s : MboxThreads σ τ) (t : τ) (r : MboxReturn) : MboxThreads σ τ :=
  { s with
    threads := Function.update s.threads t ⟨(s.threads t).todo.tail, none, s.now⟩
    returns := s.returns ++ [(t, r)] }

/-- The loop of `sys_mbox_post`, once. -/
def postTurn (s : MboxThreads σ τ) (t : τ) (mbox msg startTime : Nat) : MboxThreads σ τ :=
  let err := (s.mboxes.toMboxSys.trypost (s.vars mbox) msg).1
  let s' := { s with
    mboxes := s.mboxes.step (.trypost (s.vars mbox) msg)
    cothreads := lib.sendSignal s.cothreads mbox }
  match err with
  | .ok => s'.finish t (.posted mbox msg)
  | .val => s'.finish t (.invalid mbox)
  | .mem => s'.sleep lib t mbox startTime

/-- The loop of `sys_arch_mbox_fetch`, once. -/
def fetchTurn (s : MboxThreads σ τ) (t : τ) (mbox : Nat) (isNull : Bool)
    (timeout startTime : Nat) : MboxThreads σ τ :=
  let ret := (s.mboxes.toMboxSys.tryfetch (s.vars mbox) isNull).1
  let s' := { s with
    mboxes := s.mboxes.step (.tryfetch (s.vars mbox) isNull)
    cothreads := lib.sendSignal s.cothreads mbox }
  match ret with
  | some msg => s'.finish t (.fetched mbox msg)
  | none =>
    if IsOver timeout startTime s.now then
      s'.finish t (.timedOut mbox timeout (s.now - startTime))
    else s'.sleep lib t mbox startTime

def turn (s : MboxThreads σ τ) (t : τ) : MboxThreads σ τ :=
  let startTime := (s.threads t).startTime.getD s.now
  match lib.waits s.cothreads t, (s.threads t).todo with
  | none, .post mbox msg :: _ => s.postTurn lib t mbox msg startTime
  | none, .fetch mbox isNull timeout :: _ => s.fetchTurn lib t mbox isNull timeout startTime
  | _, _ => s

def step (s : MboxThreads σ τ) : MboxThreadEvent τ → MboxThreads σ τ
  | .run t => s.turn lib t
  | .tick => { s with now := s.now + 1 }

/-! ## What is promised -/

/-- A call that has begun at `startTime` can't go on: its mailbox is full, or it is empty and the
time of the fetch was not over when it tried last. -/
def Blocks (mboxes : LoggedMbox) (vars : Nat → UInt32) (startTime tried : Nat) : MboxCall → Prop
  | .post mbox _ => ∃ i, mboxIndex (vars mbox) = some i ∧
      (mboxes.log i).held = (mboxes.log i).size - 1
  | .fetch mbox _ timeout => ¬ IsOver timeout startTime tried ∧
      ∃ i, mboxIndex (vars mbox) = some i ∧ (mboxes.log i).held = 0

/-- The messages that calls have put into a mailbox. -/
def postedTo (vars : Nat → UInt32) (i : Fin mboxNumber) : List (τ × MboxReturn) → List Nat :=
  List.filterMap fun
    | (_, .posted mbox msg) => if mboxIndex (vars mbox) = some i then some msg else none
    | _ => none

/-- What calls have taken from a mailbox. -/
def fetchedFrom (vars : Nat → UInt32) (i : Fin mboxNumber) :
    List (τ × MboxReturn) → List (Option Nat) :=
  List.filterMap fun
    | (_, .fetched mbox msg) => if mboxIndex (vars mbox) = some i then some msg else none
    | _ => none

/-- A thread sleeps only in a call that can't go on, and no two of them at one mailbox. What has
been fetched is what had been posted, in order, and no call has timed out early. -/
structure Sane (before : LoggedMbox) (s : MboxThreads σ τ) : Prop where
  blocks : ∀ t mbox, lib.waits s.cothreads t = some mbox →
    ∃ call rest startTime, (s.threads t).todo = call :: rest ∧ call.mbox = mbox ∧
      (s.threads t).startTime = some startTime ∧
      Blocks s.mboxes s.vars startTime (s.threads t).tried call
  alone : ∀ t u mbox, lib.waits s.cothreads t = some mbox →
    lib.waits s.cothreads u = some mbox → t = u
  posted : ∀ i, (s.mboxes.log i).accepted =
    (before.log i).accepted ++ postedTo s.vars i s.returns
  fetched : ∀ i, (s.mboxes.log i).fetched =
    (before.log i).fetched ++ fetchedFrom s.vars i s.returns
  inOrder : ∀ i, (s.mboxes.log i).InOrder
  timedOut : ∀ t mbox timeout waited, (t, .timedOut mbox timeout waited) ∈ s.returns →
    timeout ≤ waited

/-! ## The mailboxes -/

end MboxThreads

namespace LoggedMbox

variable {s : LoggedMbox} {mbox : UInt32}

/-- A mailbox that isn't full accepts a message, and one that is stays as it is. -/
theorem Fits.trypost (h : s.Fits) (hhandle : s.IsHandle mbox) (msg : Nat) :
    ∃ i, mboxIndex mbox = some i ∧
      ((s.toMboxSys.trypost mbox msg).1 = .mem ∧ (s.log i).held = (s.log i).size - 1 ∧
          s.step (.trypost mbox msg) = s ∨
        (s.toMboxSys.trypost mbox msg).1 = .ok ∧
          (s.step (.trypost mbox msg)).log = Function.update s.log i
            { s.log i with accepted := (s.log i).accepted ++ [msg] }) := by
  obtain ⟨i, m, hi, hm⟩ := hhandle.exists
  have heq := (h.sound.stored i m hm).trypost_eq hi hm msg
  refine ⟨i, hi, ?_⟩
  by_cases hfull : (s.log i).held = (s.log i).size - 1
  · rw [if_pos hfull] at heq
    exact .inl ⟨by rw [heq], hfull, step_trypost_of_mem heq⟩
  · rw [if_neg hfull] at heq
    refine .inr ⟨by rw [heq], ?_⟩
    rw [step_trypost hi heq]

/-- A message comes out of a mailbox that isn't empty, and one that is stays as it is. -/
theorem Fits.tryfetch (h : s.Fits) (hhandle : s.IsHandle mbox) (isNull : Bool) :
    ∃ i, mboxIndex mbox = some i ∧
      ((s.toMboxSys.tryfetch mbox isNull).1 = none ∧ (s.log i).held = 0 ∧
          s.step (.tryfetch mbox isNull) = s ∨
        ∃ msg, (s.toMboxSys.tryfetch mbox isNull).1 = some msg ∧
          (s.step (.tryfetch mbox isNull)).log = Function.update s.log i
            { s.log i with fetched := (s.log i).fetched ++ [msg] }) := by
  obtain ⟨i, m, hi, hm⟩ := hhandle.exists
  have heq := (h.sound.stored i m hm).tryfetch_eq hi hm isNull
  refine ⟨i, hi, ?_⟩
  by_cases hempty : (s.log i).held = 0
  · rw [if_pos hempty] at heq
    exact .inl ⟨by rw [heq], hempty, step_tryfetch_of_none heq⟩
  · rw [if_neg hempty] at heq
    refine .inr ⟨_, by rw [heq], ?_⟩
    rw [step_tryfetch hi heq]

end LoggedMbox

namespace MboxThreads

variable {σ τ : Type} {lib : Cothreads σ τ} {s : MboxThreads σ τ} {before : LoggedMbox}

/-- Only its own mailbox matters to a call. -/
theorem Blocks.congr {mboxes mboxes' : LoggedMbox} {vars : Nat → UInt32} {startTime tried : Nat}
    {call : MboxCall} (h : Blocks mboxes vars startTime tried call)
    (hsame : ∀ i, mboxIndex (vars call.mbox) = some i → mboxes'.log i = mboxes.log i) :
    Blocks mboxes' vars startTime tried call := by
  cases call with
  | post mbox msg =>
    obtain ⟨i, hi, hfull⟩ := h
    refine ⟨i, hi, ?_⟩
    rw [hsame i hi]
    exact hfull
  | fetch mbox isNull timeout =>
    obtain ⟨hearly, i, hi, hempty⟩ := h
    refine ⟨hearly, i, hi, ?_⟩
    rw [hsame i hi]
    exact hempty

theorem postedTo_append (vars : Nat → UInt32) (i : Fin mboxNumber)
    (rs rs' : List (τ × MboxReturn)) :
    postedTo vars i (rs ++ rs') = postedTo vars i rs ++ postedTo vars i rs' :=
  List.filterMap_append

theorem fetchedFrom_append (vars : Nat → UInt32) (i : Fin mboxNumber)
    (rs rs' : List (τ × MboxReturn)) :
    fetchedFrom vars i (rs ++ rs') = fetchedFrom vars i rs ++ fetchedFrom vars i rs' :=
  List.filterMap_append

/-! ## The invariant -/

/-- The invariant of threads and mailboxes. Each mailbox has one handle. -/
structure Inv (lib : Cothreads σ τ) (before : LoggedMbox) (s : MboxThreads σ τ) : Prop where
  sane : s.Sane lib before
  fits : s.mboxes.Fits
  handles : ∀ t, ∀ call ∈ (s.threads t).todo, s.mboxes.IsHandle (s.vars call.mbox)
  vars : ∀ t u, ∀ call ∈ (s.threads t).todo, ∀ other ∈ (s.threads u).todo,
    mboxIndex (s.vars call.mbox) = mboxIndex (s.vars other.mbox) → call.mbox = other.mbox
  startTime : ∀ t time, (s.threads t).startTime = some time → time ≤ s.now

/-- The calls of the threads are for mailboxes that there are, each with one handle, and nobody
sleeps. -/
structure Starts (lib : Cothreads σ τ) (mboxes : LoggedMbox) (vars : Nat → UInt32) (cothreads : σ)
    (todo : τ → List MboxCall) : Prop where
  handles : ∀ t, ∀ call ∈ todo t, mboxes.IsHandle (vars call.mbox)
  vars : ∀ t u, ∀ call ∈ todo t, ∀ other ∈ todo u,
    mboxIndex (vars call.mbox) = mboxIndex (vars other.mbox) → call.mbox = other.mbox
  awake : ∀ t, lib.waits cothreads t = none

theorem Inv.start {mboxes : LoggedMbox} (hfits : mboxes.Fits) {vars : Nat → UInt32}
    {cothreads : σ} {todo : τ → List MboxCall} (hstarts : Starts lib mboxes vars cothreads todo) :
    Inv lib mboxes (start mboxes vars cothreads todo) := by
  have hawake (t : τ) (mbox : Nat) : lib.waits cothreads t ≠ some mbox := by
    rw [hstarts.awake t]
    exact (Option.some_ne_none mbox).symm
  constructor
  · constructor
    · intro t mbox h
      exact absurd h (hawake t mbox)
    · intro t u mbox h
      exact absurd h (hawake t mbox)
    · intro i
      exact (List.append_nil _).symm
    · intro i
      exact (List.append_nil _).symm
    · exact hfits.sound.inOrder
    · intro t mbox timeout waited h
      exact absurd h List.not_mem_nil
  · exact hfits
  · exact hstarts.handles
  · exact hstarts.vars
  · intro t time h
    exact absurd h (Option.some_ne_none time).symm

variable [DecidableEq τ]

/-- **A thread has tried its call.** It has changed no mailbox but its own, and has woken all others
who sleep there. It sleeps there itself only if the call can't go on. -/
theorem Inv.tried (h : s.Inv lib before) {t : τ} {call : MboxCall} {rest : List MboxCall}
    (htodo : (s.threads t).todo = call :: rest) {mboxes : LoggedMbox} {cothreads : σ}
    {thread : MboxThread} {rs : List (τ × MboxReturn)} (hfits : mboxes.Fits)
    (htable : mboxes.dswifiMbox = s.mboxes.dswifiMbox)
    (hlog : ∀ i, mboxIndex (s.vars call.mbox) ≠ some i → mboxes.log i = s.mboxes.log i)
    (hposted : ∀ i, (mboxes.log i).accepted = (s.mboxes.log i).accepted ++ postedTo s.vars i rs)
    (hfetched : ∀ i, (mboxes.log i).fetched = (s.mboxes.log i).fetched ++ fetchedFrom s.vars i rs)
    (htime : ∀ u mbox timeout waited, (u, .timedOut mbox timeout waited) ∈ rs → timeout ≤ waited)
    (hthread : ∀ c ∈ thread.todo, c ∈ call :: rest)
    (hothers : ∀ u mbox, u ≠ t → lib.waits cothreads u = some mbox →
      lib.waits s.cothreads u = some mbox ∧ mbox ≠ call.mbox)
    (hself : ∀ mbox, lib.waits cothreads t = some mbox → mbox = call.mbox ∧
      thread.todo = call :: rest ∧ ∃ startTime, thread.startTime = some startTime ∧
        Blocks mboxes s.vars startTime thread.tried call)
    (hstart : ∀ time, thread.startTime = some time → time ≤ s.now) :
    Inv lib before
      ⟨mboxes, s.vars, s.now, cothreads, Function.update s.threads t thread,
        s.returns ++ rs⟩ := by
  obtain ⟨hsane, -, hhandles, hvars, hstarts⟩ := h
  generalize hthreads : Function.update s.threads t thread = threads
  have heq : threads t = thread := by
    rw [← hthreads]
    exact Function.update_self ..
  have hold {u : τ} (hut : u ≠ t) : threads u = s.threads u := by
    rw [← hthreads]
    exact Function.update_of_ne hut ..
  have htodo' (u : τ) (other : MboxCall) (hmem : other ∈ (threads u).todo) :
      other ∈ (s.threads u).todo := by
    by_cases hut : u = t
    · rw [hut] at hmem ⊢
      rw [heq] at hmem
      rw [htodo]
      exact hthread other hmem
    · rwa [hold hut] at hmem
  refine ⟨⟨?_, ?_, ?_, ?_, hfits.sound.inOrder, ?_⟩, hfits, ?_, ?_, ?_⟩
  · intro u mbox hu
    dsimp only at hu ⊢
    by_cases hut : u = t
    · rw [hut] at hu ⊢
      rw [heq]
      obtain ⟨rfl, hcall, startTime, hbegun, hblocks⟩ := hself mbox hu
      exact ⟨call, rest, startTime, hcall, rfl, hbegun, hblocks⟩
    · obtain ⟨hbefore, hne⟩ := hothers u mbox hut hu
      obtain ⟨call', rest', startTime, hcall, rfl, hbegun, hblocks⟩ := hsane.blocks u mbox hbefore
      rw [hold hut]
      refine ⟨call', rest', startTime, hcall, rfl, hbegun,
        hblocks.congr fun i hi => hlog i fun hi' => ?_⟩
      -- It has the same handle if it has the same mailbox.
      refine hne (hvars u t call' ?_ call ?_ (hi.trans hi'.symm))
      · rw [hcall]
        exact List.mem_cons_self ..
      · rw [htodo]
        exact List.mem_cons_self ..
  · intro u v mbox hu hv
    by_cases hut : u = t <;> by_cases hvt : v = t
    · rw [hut, hvt]
    · rw [hut] at hu
      exact absurd (hself mbox hu).1 (hothers v mbox hvt hv).2
    · rw [hvt] at hv
      exact absurd (hself mbox hv).1 (hothers u mbox hut hu).2
    · exact hsane.alone u v mbox (hothers u mbox hut hu).1 (hothers v mbox hvt hv).1
  · intro i
    rw [postedTo_append, hposted, hsane.posted, List.append_assoc]
  · intro i
    rw [fetchedFrom_append, hfetched, hsane.fetched, List.append_assoc]
  · intro u mbox timeout waited hmem
    rcases List.mem_append.mp hmem with hbefore | hnew
    · exact hsane.timedOut u mbox timeout waited hbefore
    · exact htime u mbox timeout waited hnew
  · intro u other hmem
    rw [LoggedMbox.IsHandle, htable]
    exact hhandles u other (htodo' u other hmem)
  · intro u v call' hcall' other hother
    exact hvars u v call' (htodo' u call' hcall') other (htodo' v other hother)
  · intro u time hu
    dsimp only at hu
    by_cases hut : u = t
    · rw [hut, heq] at hu
      exact hstart time hu
    · rw [hold hut] at hu
      exact hstarts u time hu

/-- A thread whose call can't go on sleeps. -/
theorem Inv.sleep (hlib : lib.Lawful) (h : s.Inv lib before) {t : τ} {call : MboxCall}
    {rest : List MboxCall}
    (htodo : (s.threads t).todo = call :: rest) {startTime : Nat}
    (hblocks : Blocks s.mboxes s.vars startTime s.now call) (htime : startTime ≤ s.now) :
    Inv lib before
      (MboxThreads.sleep lib { s with cothreads := lib.sendSignal s.cothreads call.mbox } t
        call.mbox startTime) := by
  have hsleep : Inv lib before
      ⟨s.mboxes, s.vars, s.now,
        lib.yieldSignal (lib.sendSignal s.cothreads call.mbox) t call.mbox,
        Function.update s.threads t ⟨(s.threads t).todo, some startTime, s.now⟩,
        s.returns ++ []⟩ := by
    refine h.tried htodo h.fits rfl (fun _ _ => rfl) ?_ ?_ nofun ?_ ?_ ?_ ?_
    · exact fun i => (List.append_nil _).symm
    · exact fun i => (List.append_nil _).symm
    · rw [htodo]
      exact fun c hc => hc
    · intro u mbox hut hu
      rw [hlib.yieldSignal_of_ne _ _ _ _ hut] at hu
      exact (hlib.sendSignal ..).mp hu
    · intro mbox hmbox
      rw [hlib.yieldSignal_self] at hmbox
      exact ⟨(Option.some_inj.mp hmbox).symm, htodo, startTime, rfl, hblocks⟩
    · intro time hstart
      rw [← Option.some_inj.mp hstart]
      exact htime
  rwa [List.append_nil] at hsleep

/-- A call returns. -/
theorem Inv.finish (hlib : lib.Lawful) (h : s.Inv lib before) {t : τ}
    (hawake : lib.waits s.cothreads t = none) {call : MboxCall} {rest : List MboxCall}
    (htodo : (s.threads t).todo = call :: rest) {mboxes : LoggedMbox} {r : MboxReturn}
    (hfits : mboxes.Fits) (htable : mboxes.dswifiMbox = s.mboxes.dswifiMbox)
    (hlog : ∀ i, mboxIndex (s.vars call.mbox) ≠ some i → mboxes.log i = s.mboxes.log i)
    (hposted : ∀ i, (mboxes.log i).accepted =
      (s.mboxes.log i).accepted ++ postedTo s.vars i [(t, r)])
    (hfetched : ∀ i, (mboxes.log i).fetched =
      (s.mboxes.log i).fetched ++ fetchedFrom s.vars i [(t, r)])
    (htime : ∀ mbox timeout waited, r = .timedOut mbox timeout waited → timeout ≤ waited) :
    Inv lib before
      (MboxThreads.finish { s with mboxes, cothreads := lib.sendSignal s.cothreads call.mbox } t
        r) := by
  refine h.tried htodo hfits htable hlog hposted hfetched ?_ ?_ ?_ ?_ nofun
  · intro u mbox timeout waited hmem
    simp only [List.mem_singleton, Prod.mk.injEq] at hmem
    exact htime mbox timeout waited hmem.2.symm
  · intro c hc
    dsimp only at hc
    rw [htodo] at hc
    exact List.mem_cons_of_mem _ hc
  · intro u mbox _ hu
    exact (hlib.sendSignal ..).mp hu
  · intro mbox ht
    have hslept := ((hlib.sendSignal ..).mp ht).1
    rw [hawake] at hslept
    cases hslept

theorem Inv.postTurn (hlib : lib.Lawful) (h : s.Inv lib before) {t : τ}
    (hawake : lib.waits s.cothreads t = none) {mbox msg startTime : Nat} {rest : List MboxCall}
    (htodo : (s.threads t).todo = .post mbox msg :: rest) (htime : startTime ≤ s.now) :
    Inv lib before (s.postTurn lib t mbox msg startTime) := by
  have hhandle : s.mboxes.IsHandle (s.vars mbox) := by
    refine h.handles t (.post mbox msg) ?_
    rw [htodo]
    exact List.mem_cons_self ..
  have hfits : (s.mboxes.step (.trypost (s.vars mbox) msg)).Fits :=
    h.fits.step hhandle nofun
  obtain ⟨i, hi, ⟨herr, hfull, hstep⟩ | ⟨herr, hlog⟩⟩ := h.fits.trypost hhandle msg <;>
    simp only [MboxThreads.postTurn, herr]
  · rw [hstep]
    exact h.sleep hlib htodo ⟨i, hi, hfull⟩ htime
  · refine h.finish hlib hawake htodo hfits rfl ?_ ?_ ?_ nofun
    · intro j hj
      rw [hlog]
      refine Function.update_of_ne ?_ ..
      rintro rfl
      exact hj hi
    · intro j
      rw [hlog]
      by_cases hj : j = i
      · subst hj
        simp [postedTo, hi]
      · rw [Function.update_of_ne hj]
        simp [postedTo, hi, Ne.symm hj]
    · intro j
      rw [hlog]
      by_cases hj : j = i
      · subst hj
        simp [fetchedFrom]
      · rw [Function.update_of_ne hj]
        simp [fetchedFrom]

/-- The difference of the counters is no larger than the time. -/
theorem IsOver.le {timeout startTime now : Nat} (hover : IsOver timeout startTime now)
    (h : startTime ≤ now) : timeout ≤ now - startTime := by
  obtain ⟨-, hover⟩ := hover
  unfold u32 at hover
  omega

theorem Inv.fetchTurn (hlib : lib.Lawful) (h : s.Inv lib before) {t : τ}
    (hawake : lib.waits s.cothreads t = none) {mbox timeout startTime : Nat} {isNull : Bool}
    {rest : List MboxCall}
    (htodo : (s.threads t).todo = .fetch mbox isNull timeout :: rest)
    (htime : startTime ≤ s.now) :
    Inv lib before (s.fetchTurn lib t mbox isNull timeout startTime) := by
  have hhandle : s.mboxes.IsHandle (s.vars mbox) := by
    refine h.handles t (.fetch mbox isNull timeout) ?_
    rw [htodo]
    exact List.mem_cons_self ..
  have hfits : (s.mboxes.step (.tryfetch (s.vars mbox) isNull)).Fits :=
    h.fits.step hhandle nofun
  obtain ⟨i, hi, ⟨hret, hempty, hstep⟩ | ⟨msg, hret, hlog⟩⟩ := h.fits.tryfetch hhandle isNull <;>
    simp only [MboxThreads.fetchTurn, hret]
  · rw [hstep]
    split
    · rename_i hover
      refine h.finish hlib hawake htodo h.fits rfl (fun _ _ => rfl) ?_ ?_ ?_
      · intro j
        simp [postedTo]
      · intro j
        simp [fetchedFrom]
      · intro mbox' timeout' waited hr
        cases hr
        exact hover.le htime
    · rename_i hearly
      exact h.sleep hlib htodo ⟨hearly, i, hi, hempty⟩ htime
  · refine h.finish hlib hawake htodo hfits rfl ?_ ?_ ?_ nofun
    · intro j hj
      rw [hlog]
      refine Function.update_of_ne ?_ ..
      rintro rfl
      exact hj hi
    · intro j
      rw [hlog]
      by_cases hj : j = i
      · subst hj
        simp [postedTo]
      · rw [Function.update_of_ne hj]
        simp [postedTo]
    · intro j
      rw [hlog]
      by_cases hj : j = i
      · subst hj
        simp [fetchedFrom, hi]
      · rw [Function.update_of_ne hj]
        simp [fetchedFrom, hi, Ne.symm hj]

/-- **Every step keeps the invariant.** -/
theorem Inv.step (hlib : lib.Lawful) (h : s.Inv lib before) (e : MboxThreadEvent τ) :
    Inv lib before (s.step lib e) := by
  cases e with
  | run t =>
    have htime : (s.threads t).startTime.getD s.now ≤ s.now := by
      cases hstart : (s.threads t).startTime with
      | none => exact Nat.le_refl _
      | some time => exact h.startTime t time hstart
    show Inv lib before (s.turn lib t)
    unfold turn
    dsimp only
    split
    · exact h.postTurn hlib ‹_› ‹_› htime
    · exact h.fetchTurn hlib ‹_› ‹_› htime
    · exact h
  | tick =>
    obtain ⟨⟨hblocks, halone, hposted, hfetched, hinOrder, htimedOut⟩, hfits, hhandles, hvars,
      hstart⟩ := h
    refine ⟨⟨hblocks, halone, hposted, hfetched, hinOrder, htimedOut⟩, hfits, hhandles, hvars, ?_⟩
    intro t time ht
    exact Nat.le_succ_of_le (hstart t time ht)

/-- Nothing wakes a thread as long as no other thread runs, also not the end of its time. -/
theorem waits_of_own {t : τ} {mbox : Nat} (hwaits : lib.waits s.cothreads t = some mbox)
    {schedule : List (MboxThreadEvent τ)} (hown : ∀ e ∈ schedule, e = .run t ∨ e = .tick) :
    lib.waits (run (step lib) s schedule).cothreads t = some mbox := by
  refine run_inv (fun s : MboxThreads σ τ => lib.waits s.cothreads t = some mbox)
    (fun e => e = .run t ∨ e = .tick) (fun s e h hown => ?_) hwaits hown
  rcases hown with rfl | rfl
  · show lib.waits (s.turn lib t).cothreads t = some mbox
    unfold turn
    rw [h]
    exact h
  · exact h

/-- **No thread sleeps while its mailbox would let it go on**, whatever the calls of the threads are
and in whichever order they run, and what they fetch is what they have posted. Time alone wakes no
thread. -/
theorem mailbox_threads_sane (lib : Cothreads σ τ) (hlib : lib.Lawful) (mem : Nat → Nat)
    {es : List MboxEvent}
    (hlegal : Along LoggedMbox.step LoggedMbox.Legal (.init mem) es)
    (hsmall : ∀ e ∈ es, LoggedMbox.Small e) {vars : Nat → UInt32} {cothreads : σ}
    {todo : τ → List MboxCall}
    (hstarts : Starts lib (run LoggedMbox.step (.init mem) es) vars cothreads todo)
    (schedule : List (MboxThreadEvent τ)) :
    Sane lib (run LoggedMbox.step (.init mem) es)
        (run (step lib) (start (run LoggedMbox.step (.init mem) es) vars cothreads todo)
          schedule) ∧
      ∀ t mbox,
        lib.waits (run (step lib) (start (run LoggedMbox.step (.init mem) es) vars cothreads todo)
          schedule).cothreads t = some mbox →
        ∀ later : List (MboxThreadEvent τ), (∀ e ∈ later, e = .run t ∨ e = .tick) →
          lib.waits (run (step lib)
            (start (run LoggedMbox.step (.init mem) es) vars cothreads todo)
              (schedule ++ later)).cothreads t = some mbox := by
  have hinit : (LoggedMbox.init mem).Fits :=
    ⟨LoggedMbox.sound_init mem, fun _ => show 12 + 4 * 0 < 2 ^ 32 by decide⟩
  have hfits := (hlegal.and_forall hsmall).inv LoggedMbox.Fits
    (fun _ _ h hq => h.step hq.1 hq.2) hinit
  have hinv := run_inv (Inv lib (run LoggedMbox.step (.init mem) es)) (fun _ => True)
    (fun _ e h _ => h.step hlib e) (Inv.start hfits hstarts) (fun e (_ : e ∈ schedule) => trivial)
  refine ⟨hinv.sane, fun t mbox hwaits later hown => ?_⟩
  rw [run_append]
  exact waits_of_own hwaits hown

/-- Threads that each remember their signal. -/
def rememberedSignals : Cothreads (Bool → Option Nat) Bool where
  sendSignal c signal t := if c t = some signal then none else c t
  yieldSignal c t signal := Function.update c t (some signal)
  waits c := c

theorem rememberedSignals_lawful : rememberedSignals.Lawful where
  sendSignal c signal t mbox := by
    show (if c t = some signal then none else c t) = some mbox ↔ c t = some mbox ∧ mbox ≠ signal
    split
    · rename_i hsleeps
      rw [hsleeps]
      simp [eq_comm]
    · rename_i hother
      refine ⟨fun h => ⟨h, ?_⟩, fun h => h.1⟩
      rintro rfl
      exact hother h
  yieldSignal_self c t signal := Function.update_self ..
  yieldSignal_of_ne c t signal u hut := Function.update_of_ne hut ..

/-- Two threads, and a mailbox with one place: one of them posts twice, and the other one fetches
twice. -/
def postsAndFetches : Bool → List MboxCall
  | true => [.post 0x100 7, .post 0x100 8]
  | false => [.fetch 0x100 false 0, .fetch 0x100 false 3]

theorem mailbox_threads_sane_twice :
    Sane rememberedSignals (run LoggedMbox.step (.init fun _ => 0) [.new 2 (some 0x1000)])
      (run (step rememberedSignals)
        (start (run LoggedMbox.step (.init fun _ => 0) [.new 2 (some 0x1000)])
          (fun _ => 0xB10C4500) (fun _ => none) postsAndFetches)
        [.run true, .run true, .run false, .tick, .run false, .run true, .run false]) := by
  refine (mailbox_threads_sane rememberedSignals rememberedSignals_lawful _ (by decide) ?_
    ⟨by decide, by decide, fun _ => rfl⟩ _).1
  intro e he size m hnew
  rw [List.mem_singleton.mp he] at hnew
  cases hnew
  decide

end MboxThreads

end Wifi
