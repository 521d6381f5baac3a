import DsWifi.Connect.Arm9
import DsWifi.Infra.Run

/-!
# Beginning and end of the library (NTR)

`Wifi_InitDefault` and `Wifi_Deinit` of `source/arm9/ipc.c` allocate and free the structure that
both CPUs use. The ARM7 gets its address and the request to stop as messages (`source/arm7/ipc.c`),
and it answers in `flags7`. What a CPU does is cut into its accesses to the structure, and those of
the two CPUs may come in any order. The interrupt handlers of the ARM7 follow one another.

* `lifetimes_safe` — no CPU uses the structure before it is allocated or after it has been freed
-/

namespace Wifi

open Infra

/-- The fields of `Wifi_MainStruct` that the beginning and the end depend on. -/
structure SharedFields where
  /-- `WFLAG_ARM7_ACTIVE` in `flags7`. -/
  active : Bool
  reqMode : WifiMode
  curMode : WifiMode

namespace SharedFields

/-- After `memset`. -/
def zero : SharedFields := ⟨false, .disabled, .disabled⟩

end SharedFields

/-- What the ARM9 sends over `FIFO_DSWIFI`. -/
inductive IpcMessage
  | sync
  | deinit
  | address (wifidata : Nat)
  deriving DecidableEq

/-- Where the ARM9 is. -/
inductive Arm9Call
  | outside
  /-- The loop of `Wifi_InitIPC`. -/
  | waitsForActive (localOnly : Bool)
  /-- The loop of `Wifi_Deinit`. -/
  | waitsForInactive
  /-- After `assert` or `libndsCrash`. -/
  | crashed
  deriving DecidableEq

/-- What the handlers of the ARM7 do, cut into pieces between which the ARM9 may come. -/
inductive Arm7Statement
  | setData (wifidata : Nat)
  | ntrInit
  | setActive
  | ntrDeinit
  | clearActive
  | clearData
  /-- An access of `Wifi_Update` or `Wifi_Interrupt`. -/
  | access
  deriving DecidableEq

/-- `Wifi_Init` (`source/arm7/setup.c`). -/
def wifiInit (wifidata : Nat) : List Arm7Statement := [.setData wifidata, .ntrInit, .setActive]

/-- `Wifi_Deinit` (`source/arm7/setup.c`). -/
def wifiDeinit : List Arm7Statement := [.ntrDeinit, .clearActive, .clearData]

/-- The two CPUs, and the memory that the ARM9 allocates the structure from. -/
structure Lifetime where
  /-- The structures that are allocated, by their address. -/
  heap : Nat → Option SharedFields
  /-- The messages that the ARM7 has not taken. -/
  queue : List IpcMessage
  call : Arm9Call
  wifiDataCached : Option Nat
  /-- `WifiData` of the ARM9. -/
  wifiData9 : Option Nat
  wifiLwipEnabled : Bool
  /-- `WifiData` of the ARM7. -/
  wifiData7 : Option Nat
  /-- What is left of the handler that the ARM7 is in. -/
  handler : List Arm7Statement
  /-- A CPU has used a null pointer or a structure that is not allocated. -/
  fault : Bool

/-- What the CPUs do. -/
inductive LifetimeEvent
  /-- `Wifi_InitDefault`, and what `aligned_alloc` returns. -/
  | init (localOnly : Bool) (allocated : Option Nat)
  /-- The ARM9 looks at `flags7` in its loop. -/
  | poll (lwipInit : Bool)
  /-- `Wifi_Deinit`. -/
  | deinit
  /-- Another function of the ARM9, which may ask for a mode and call `Wifi_CallSyncHandler`. -/
  | use (reqMode : Option WifiMode) (sync : Bool)
  /-- The ARM7 takes a message. `Wifi_Update` has that many accesses. -/
  | receive (accesses : Nat)
  /-- `Wifi_Update` (at VBlank) or `Wifi_Interrupt`. -/
  | interrupt (accesses : Nat)
  /-- The ARM7 goes on, and an access may change the mode. -/
  | turn (curMode : Option WifiMode)

namespace Lifetime

/-- At power on. -/
def off : Lifetime where
  heap _ := none
  queue := []
  call := .outside
  wifiDataCached := none
  wifiData9 := none
  wifiLwipEnabled := false
  wifiData7 := none
  handler := []
  fault := false

/-- A CPU uses the structure at a pointer. -/
def touch (s : Lifetime) (pointer : Option Nat) (f : SharedFields → SharedFields) : Lifetime :=
  match pointer with
  | none => { s with fault := true }
  | some a =>
    match s.heap a with
    | none => { s with fault := true }
    | some d => { s with heap := Function.update s.heap a (some (f d)) }

/-- What a CPU reads at a pointer. -/
def read (s : Lifetime) (pointer : Option Nat) : Option SharedFields := pointer.bind s.heap

/-- `Wifi_InitDefault` and `Wifi_InitIPC`, up to the loop. -/
def initDefault (s : Lifetime) (localOnly : Bool) (allocated : Option Nat) : Lifetime :=
  if s.wifiDataCached ≠ none then { s with call := .crashed }
  else match allocated with
    | none => s
    | some a => { s with
        heap := Function.update s.heap a (some .zero)
        wifiDataCached := some a
        wifiData9 := some a
        queue := s.queue ++ [.address a]
        call := .waitsForActive localOnly }

/-- `Wifi_Deinit`, up to the loop. -/
def deinit (s : Lifetime) : Lifetime :=
  match s.read s.wifiData9 with
  | none => { s with fault := true }
  | some d =>
    if d.reqMode ≠ .disabled ∨ d.curMode ≠ .disabled then s
    else { s with queue := s.queue ++ [.deinit], call := .waitsForInactive }

/-- The end of `Wifi_Deinit`. -/
def free (s : Lifetime) : Lifetime :=
  if s.wifiLwipEnabled then { s with call := .crashed }
  else match s.wifiDataCached with
    | none => { s with call := .outside }
    | some a => { s with
        heap := Function.update s.heap a none
        wifiDataCached := none
        call := .outside }

/-- The loops of `Wifi_InitIPC` and `Wifi_Deinit`, and what comes after them. -/
def poll (s : Lifetime) (lwipInit : Bool) : Lifetime :=
  match s.call, s.read s.wifiData9 with
  | .waitsForActive _, none => { s with fault := true }
  | .waitsForActive localOnly, some d =>
    if d.active then
      { s with call := .outside, wifiLwipEnabled := s.wifiLwipEnabled || !localOnly && lwipInit }
    else s
  | .waitsForInactive, none => { s with fault := true }
  | .waitsForInactive, some d => if d.active then s else s.free
  | _, _ => s

/-- Another function of the ARM9. -/
def use (s : Lifetime) (reqMode : Option WifiMode) (sync : Bool) : Lifetime :=
  let s := s.touch s.wifiData9 fun d => { d with reqMode := reqMode.getD d.reqMode }
  if sync then { s with queue := s.queue ++ [.sync] } else s

/-- `Wifi_Update` and `Wifi_Interrupt` return if there is no structure. -/
def startAccesses (s : Lifetime) (accesses : Nat) : Lifetime :=
  if s.wifiData7 = none then s else { s with handler := .replicate accesses .access }

/-- `wifiAddressHandler` and `wifiValue32Handler`. -/
def receive (s : Lifetime) (accesses : Nat) : Lifetime :=
  match s.handler, s.queue with
  | [], .sync :: queue => { s with queue }.startAccesses accesses
  | [], .deinit :: queue => { s with queue, handler := wifiDeinit }
  | [], .address a :: queue => { s with queue, handler := wifiInit a }
  | _, _ => s

/-- A statement of a handler. -/
def exec (s : Lifetime) (curMode : Option WifiMode) : Arm7Statement → Lifetime
  | .setData a => { s with wifiData7 := some a }
  | .ntrInit => s.touch s.wifiData7 fun d => { d with curMode := .disabled }
  | .setActive => s.touch s.wifiData7 fun d => { d with active := true }
  | .ntrDeinit => s.touch s.wifiData7 id
  | .clearActive => s.touch s.wifiData7 fun d => { d with active := false }
  | .clearData => { s with wifiData7 := none }
  | .access => s.touch s.wifiData7 fun d => { d with curMode := curMode.getD d.curMode }

def step (s : Lifetime) : LifetimeEvent → Lifetime
  | .init localOnly allocated => s.initDefault localOnly allocated
  | .poll lwipInit => s.poll lwipInit
  | .deinit => s.deinit
  | .use reqMode sync => s.use reqMode sync
  | .receive accesses => s.receive accesses
  | .interrupt accesses => if s.handler = [] then s.startAccesses accesses else s
  | .turn curMode =>
    match s.handler with
    | [] => s
    | stmt :: handler => { s with handler }.exec curMode stmt

/-- The program starts and ends the library in one thread, and it uses the library in between. The
allocator returns free memory. -/
def Legal (s : Lifetime) : LifetimeEvent → Prop
  | .init _ allocated => s.call = .outside ∧ s.read allocated = none
  | .deinit => s.call = .outside ∧ s.wifiDataCached ≠ none
  | .use .. => s.wifiDataCached ≠ none
  | _ => True

instance (s : Lifetime) : ∀ e, Decidable (s.Legal e)
  | .init _ allocated => inferInstanceAs (Decidable (s.call = .outside ∧ s.read allocated = none))
  | .deinit => inferInstanceAs (Decidable (s.call = .outside ∧ s.wifiDataCached ≠ none))
  | .use .. => inferInstanceAs (Decidable (s.wifiDataCached ≠ none))
  | .poll _ | .receive _ | .interrupt _ | .turn _ => .isTrue trivial

/-- The structure is used in its lifetime only, and the CPUs agree on it. -/
structure Safe (s : Lifetime) : Prop where
  noFault : s.fault = false
  /-- There is one structure at most, and none is leaked. -/
  heap : ∀ a, (s.heap a).isSome ↔ s.wifiDataCached = some a
  /-- Between `Wifi_InitDefault` and `Wifi_Deinit`, the ARM7 uses the structure of the ARM9. -/
  ready : ∀ a, s.call = .outside → s.wifiDataCached = some a →
    s.wifiData7 = some a ∧ ∃ d, s.heap a = some d ∧ d.active
  /-- When the ARM7 has nothing to do, the ARM9 doesn't stay in its loops. -/
  released : s.queue = [] → s.handler = [] → ∀ lwipInit,
    (s.poll lwipInit).call = .outside ∨ (s.poll lwipInit).call = .crashed

/-! ## What a CPU changes in the structure -/

section Touch

variable {s : Lifetime} {pointer : Option Nat} {f : SharedFields → SharedFields}

@[simp] theorem touch_queue : (s.touch pointer f).queue = s.queue := by
  unfold touch
  split
  · rfl
  · split <;> rfl

@[simp] theorem touch_call : (s.touch pointer f).call = s.call := by
  unfold touch
  split
  · rfl
  · split <;> rfl

@[simp] theorem touch_wifiDataCached : (s.touch pointer f).wifiDataCached = s.wifiDataCached := by
  unfold touch
  split
  · rfl
  · split <;> rfl

@[simp] theorem touch_wifiData7 : (s.touch pointer f).wifiData7 = s.wifiData7 := by
  unfold touch
  split
  · rfl
  · split <;> rfl

@[simp] theorem touch_handler : (s.touch pointer f).handler = s.handler := by
  unfold touch
  split
  · rfl
  · split <;> rfl

end Touch

/-- `WFLAG_ARM7_ACTIVE` in the structure of the ARM9. -/
def active (s : Lifetime) : Bool := (s.read s.wifiDataCached).any (·.active)

/-- The structure of the ARM9 is the one that is allocated, and nothing else has been used. -/
structure Owned (s : Lifetime) : Prop where
  noFault : s.fault = false
  heap : ∀ a, (s.heap a).isSome ↔ s.wifiDataCached = some a
  data9 : ∀ a, s.wifiDataCached = some a → s.wifiData9 = some a

variable {s : Lifetime} {a : Nat}

theorem Owned.heap_eq (h : s.Owned) (ha : s.wifiDataCached = some a) :
    ∃ d, s.heap a = some d ∧ d.active = s.active := by
  obtain ⟨d, hd⟩ := Option.isSome_iff_exists.mp ((h.heap a).mpr ha)
  refine ⟨d, hd, ?_⟩
  simp [active, read, ha, hd]

theorem Owned.touch (h : s.Owned) (ha : s.wifiDataCached = some a)
    (f : SharedFields → SharedFields) : (s.touch (some a) f).Owned := by
  obtain ⟨d, hd, -⟩ := h.heap_eq ha
  simp only [Lifetime.touch, hd]
  refine ⟨h.noFault, fun b => ?_, h.data9⟩
  by_cases hb : b = a
  · subst hb
    simp [ha]
  · simpa [hb] using h.heap b

theorem Owned.active_touch (h : s.Owned) (ha : s.wifiDataCached = some a)
    {f : SharedFields → SharedFields} {b : Bool}
    (hf : ∀ d, d.active = s.active → (f d).active = b) :
    (s.touch (some a) f).active = b := by
  obtain ⟨d, hd, hactive⟩ := h.heap_eq ha
  simp [Lifetime.touch, hd, active, read, ha, hf d hactive]

/-! ## The protocol -/

/-- The ARM7 has no structure, or it is going to forget the one that it has had. -/
def Arm7Off (wifiData7 : Option Nat) (handler : List Arm7Statement) : Prop :=
  wifiData7 = none ∧ handler = [] ∨ handler = [.clearData]

/-- The stages of a lifetime: where the ARM9 is, its structure and `WFLAG_ARM7_ACTIVE` there, the
messages besides `WIFI_SYNC`, and the pointer and the handler of the ARM7. -/
inductive Stage : Arm9Call → Option Nat → Bool → List IpcMessage → Option Nat →
    List Arm7Statement → Prop
  | off {data7 : Option Nat} {handler : List Arm7Statement} (harm7 : Arm7Off data7 handler) :
    Stage .outside none false [] data7 handler
  | announced {localOnly : Bool} {wifidata : Nat} {data7 : Option Nat}
      {handler : List Arm7Statement} (harm7 : Arm7Off data7 handler) :
    Stage (.waitsForActive localOnly) (some wifidata) false [.address wifidata] data7 handler
  | taken {localOnly : Bool} {wifidata : Nat} {data7 : Option Nat} :
    Stage (.waitsForActive localOnly) (some wifidata) false [] data7 (wifiInit wifidata)
  | initialising {localOnly : Bool} {wifidata : Nat} :
    Stage (.waitsForActive localOnly) (some wifidata) false [] (some wifidata)
      [.ntrInit, .setActive]
  | activating {localOnly : Bool} {wifidata : Nat} :
    Stage (.waitsForActive localOnly) (some wifidata) false [] (some wifidata) [.setActive]
  | up {call : Arm9Call} {wifidata : Nat} {handler : List Arm7Statement}
      (hcall : call ≠ .waitsForInactive) (haccess : ∀ x ∈ handler, x = .access) :
    Stage call (some wifidata) true [] (some wifidata) handler
  | asked {wifidata : Nat} {handler : List Arm7Statement} (haccess : ∀ x ∈ handler, x = .access) :
    Stage .waitsForInactive (some wifidata) true [.deinit] (some wifidata) handler
  | stopping {wifidata : Nat} :
    Stage .waitsForInactive (some wifidata) true [] (some wifidata) wifiDeinit
  | clearing {wifidata : Nat} :
    Stage .waitsForInactive (some wifidata) true [] (some wifidata) [.clearActive, .clearData]
  | stopped {call : Arm9Call} {wifidata : Nat} {data7 : Option Nat} {handler : List Arm7Statement}
      (hcall : call = .waitsForInactive ∨ call = .crashed) (harm7 : Arm7Off data7 handler) :
    Stage call (some wifidata) false [] data7 handler

section Stage

variable {call : Arm9Call} {cached data7 : Option Nat} {active : Bool} {pending : List IpcMessage}
  {handler : List Arm7Statement}

theorem Stage.init {localOnly : Bool} (h : Stage .outside none active pending data7 handler) :
    Stage (.waitsForActive localOnly) (some a) false (pending ++ [.address a]) data7 handler := by
  cases h with
  | off harm7 => exact .announced harm7

theorem Stage.crash (h : Stage .outside cached active pending data7 handler)
    (hcached : cached ≠ none) : Stage .crashed cached active pending data7 handler := by
  cases h with
  | off harm7 => exact absurd rfl hcached
  | up hcall haccess => exact .up nofun haccess
  | stopped hcall harm7 =>
    rcases hcall with hcall | hcall
    · cases hcall
    · cases hcall

theorem Stage.deinit (h : Stage .outside (some a) active pending data7 handler) :
    Stage .waitsForInactive (some a) active (pending ++ [.deinit]) data7 handler := by
  cases h with
  | up hcall haccess => exact .asked haccess
  | stopped hcall harm7 =>
    rcases hcall with hcall | hcall
    · cases hcall
    · cases hcall

theorem Stage.leave {localOnly : Bool}
    (h : Stage (.waitsForActive localOnly) cached true pending data7 handler) :
    Stage .outside cached true pending data7 handler := by
  cases h with
  | up hcall haccess => exact .up nofun haccess

theorem Stage.free (h : Stage .waitsForInactive cached false pending data7 handler) :
    Stage .outside none false pending data7 handler ∧
      Stage .crashed cached false pending data7 handler := by
  cases h with
  | stopped hcall harm7 => exact ⟨.off harm7, .stopped (.inr rfl) harm7⟩

/-- The ARM7 takes a message. -/
theorem Stage.take {m : IpcMessage} (h : Stage call cached active (m :: pending) data7 []) :
    m = .deinit ∧ Stage call cached active pending data7 wifiDeinit ∨
      ∃ a, m = .address a ∧ Stage call cached active pending data7 (wifiInit a) := by
  cases h with
  | announced harm7 => exact .inr ⟨_, rfl, .taken⟩
  | asked haccess => exact .inl ⟨rfl, .stopping⟩

theorem Stage.startAccesses (h : Stage call cached active pending data7 [])
    (hdata7 : data7 ≠ none) (accesses : Nat) :
    Stage call cached active pending data7 (.replicate accesses .access) := by
  have hnot : ¬ Arm7Off data7 [] := by
    rintro (⟨hnone, -⟩ | hclear)
    · exact hdata7 hnone
    · cases hclear
  cases h with
  | off harm7 => exact absurd harm7 hnot
  | announced harm7 => exact absurd harm7 hnot
  | up hcall haccess => exact .up hcall fun x hx => List.eq_of_mem_replicate hx
  | asked haccess => exact .asked fun x hx => List.eq_of_mem_replicate hx
  | stopped hcall harm7 => exact absurd harm7 hnot

theorem Arm7Off.cons {stmt : Arm7Statement} (h : Arm7Off data7 (stmt :: handler)) :
    stmt = .clearData ∧ handler = [] := by
  rcases h with ⟨-, hnil⟩ | hclear
  · cases hnil
  · cases hclear
    exact ⟨rfl, rfl⟩

/-- The ARM7 uses the structure of the ARM9. -/
theorem Stage.uses {stmt : Arm7Statement}
    (h : Stage call cached active pending data7 (stmt :: handler)) :
    (∃ a, stmt = .setData a) ∨ stmt = .clearData ∨ ∃ a, cached = some a ∧ data7 = some a := by
  cases h with
  | off harm7 => exact .inr (.inl harm7.cons.1)
  | announced harm7 => exact .inr (.inl harm7.cons.1)
  | taken => exact .inl ⟨_, rfl⟩
  | initialising => exact .inr (.inr ⟨_, rfl, rfl⟩)
  | activating => exact .inr (.inr ⟨_, rfl, rfl⟩)
  | up hcall haccess => exact .inr (.inr ⟨_, rfl, rfl⟩)
  | asked haccess => exact .inr (.inr ⟨_, rfl, rfl⟩)
  | stopping => exact .inr (.inr ⟨_, rfl, rfl⟩)
  | clearing => exact .inr (.inr ⟨_, rfl, rfl⟩)
  | stopped hcall harm7 => exact .inr (.inl harm7.cons.1)

/-- What a statement leaves in the pointer of the ARM7. -/
def nextData (data7 : Option Nat) : Arm7Statement → Option Nat
  | .setData a => some a
  | .clearData => none
  | _ => data7

/-- What a statement leaves in `WFLAG_ARM7_ACTIVE`. -/
def nextActive (active : Bool) : Arm7Statement → Bool
  | .setActive => true
  | .clearActive => false
  | _ => active

theorem Stage.exec {stmt : Arm7Statement}
    (h : Stage call cached active pending data7 (stmt :: handler)) :
    Stage call cached (nextActive active stmt) pending (nextData data7 stmt) handler := by
  cases h with
  | off harm7 =>
    obtain ⟨rfl, rfl⟩ := harm7.cons
    exact .off (.inl ⟨rfl, rfl⟩)
  | announced harm7 =>
    obtain ⟨rfl, rfl⟩ := harm7.cons
    exact .announced (.inl ⟨rfl, rfl⟩)
  | taken => exact .initialising
  | initialising => exact .activating
  | activating => exact .up nofun nofun
  | up hcall haccess =>
    obtain rfl := haccess stmt List.mem_cons_self
    exact .up hcall fun x hx => haccess x (List.mem_cons_of_mem _ hx)
  | asked haccess =>
    obtain rfl := haccess stmt List.mem_cons_self
    exact .asked fun x hx => haccess x (List.mem_cons_of_mem _ hx)
  | stopping => exact .clearing
  | clearing => exact .stopped (.inl rfl) (.inr rfl)
  | stopped hcall harm7 =>
    obtain ⟨rfl, rfl⟩ := harm7.cons
    exact .stopped hcall (.inl ⟨rfl, rfl⟩)

/-- Between the loops, the ARM7 uses the structure of the ARM9 and is active. -/
theorem Stage.ready (h : Stage .outside (some a) active pending data7 handler) :
    data7 = some a ∧ active = true := by
  cases h with
  | up hcall haccess => exact ⟨rfl, rfl⟩
  | stopped hcall harm7 =>
    rcases hcall with hcall | hcall
    · cases hcall
    · cases hcall

/-- The ARM9 doesn't wait for an ARM7 that has nothing to do. -/
theorem Stage.released (h : Stage call cached active [] data7 []) :
    (∀ localOnly, call = .waitsForActive localOnly → active = true) ∧
      (call = .waitsForInactive → active = false) := by
  cases h with
  | off harm7 => exact ⟨nofun, nofun⟩
  | up hcall haccess => exact ⟨fun _ _ => rfl, fun hwaits => absurd hwaits hcall⟩
  | stopped hcall harm7 =>
    refine ⟨fun localOnly hwaits => ?_, fun _ => rfl⟩
    rcases hcall with rfl | rfl
    · cases hwaits
    · cases hwaits

end Stage

/-- The messages that begin and end a lifetime. -/
def pending (queue : List IpcMessage) : List IpcMessage := queue.filter (· ≠ .sync)

@[simp] theorem pending_append {queue queue' : List IpcMessage} :
    pending (queue ++ queue') = pending queue ++ pending queue' := List.filter_append ..

@[simp] theorem pending_cons_sync {queue : List IpcMessage} :
    pending (.sync :: queue) = pending queue := rfl

@[simp] theorem pending_cons_deinit {queue : List IpcMessage} :
    pending (.deinit :: queue) = .deinit :: pending queue := rfl

@[simp] theorem pending_cons_address {queue : List IpcMessage} {a : Nat} :
    pending (.address a :: queue) = .address a :: pending queue := rfl

@[simp] theorem pending_nil : pending [] = [] := rfl

/-- The structure is owned, and the CPUs are in one of the stages. -/
structure Inv (s : Lifetime) : Prop extends s.Owned where
  stage : Stage s.call s.wifiDataCached s.active (pending s.queue) s.wifiData7 s.handler

theorem Inv.off : off.Inv where
  noFault := rfl
  heap a := by simp [Lifetime.off]
  data9 := nofun
  stage := .off (.inl ⟨rfl, rfl⟩)

/-! ## Steps -/

theorem Inv.initDefault (h : s.Inv) {localOnly : Bool} {allocated : Option Nat}
    (hlegal : s.Legal (.init localOnly allocated)) : (s.initDefault localOnly allocated).Inv := by
  obtain ⟨hcall, -⟩ := hlegal
  have hstage := h.stage
  rw [hcall] at hstage
  unfold Lifetime.initDefault
  split
  · exact ⟨⟨h.noFault, h.heap, h.data9⟩, hstage.crash ‹_›⟩
  · rename_i hcached
    rw [ne_eq, not_not] at hcached
    rw [hcached] at hstage
    cases allocated with
    | none => exact h
    | some a =>
      refine ⟨⟨h.noFault, fun b => ?_, fun b hb => hb⟩, ?_⟩
      · have hnone : s.heap b = none := by
          rw [← Option.not_isSome_iff_eq_none, h.heap, hcached]
          nofun
        by_cases hb : b = a
        · simp [hb]
        · simp [hb, hnone, Ne.symm hb]
      · have hactive : active { s with
            heap := Function.update s.heap a (some .zero)
            wifiDataCached := some a
            wifiData9 := some a
            queue := s.queue ++ [.address a]
            call := .waitsForActive localOnly } = false := by
          simp [active, read, SharedFields.zero]
        dsimp only
        rw [hactive, pending_append]
        exact hstage.init

theorem Inv.deinit (h : s.Inv) (hlegal : s.Legal .deinit) : s.deinit.Inv := by
  obtain ⟨hcall, hcached⟩ := hlegal
  obtain ⟨a, ha⟩ := Option.ne_none_iff_exists'.mp hcached
  obtain ⟨d, hd, -⟩ := h.heap_eq ha
  have hstage := h.stage
  rw [hcall, ha] at hstage
  have hread : s.read s.wifiData9 = some d := by
    rw [h.data9 a ha]
    exact hd
  unfold Lifetime.deinit
  rw [hread]
  dsimp only
  split
  · exact h
  · refine ⟨⟨h.noFault, h.heap, h.data9⟩, ?_⟩
    have hstage' := hstage.deinit
    rw [← ha] at hstage'
    dsimp only
    rw [pending_append]
    exact hstage'

/-- What the ARM9 reads while it waits. -/
theorem Inv.read_eq (h : s.Inv) (hcached : s.wifiDataCached ≠ none) :
    ∃ d, s.read s.wifiData9 = some d ∧ d.active = s.active := by
  obtain ⟨a, ha⟩ := Option.ne_none_iff_exists'.mp hcached
  obtain ⟨d, hd, hactive⟩ := h.heap_eq ha
  refine ⟨d, ?_, hactive⟩
  rw [h.data9 a ha]
  exact hd

theorem Stage.cached_ne_none {call : Arm9Call} {cached data7 : Option Nat} {active : Bool}
    {pending : List IpcMessage} {handler : List Arm7Statement}
    (h : Stage call cached active pending data7 handler) (hcall : call ≠ .outside) :
    cached ≠ none := by
  cases h with
  | off harm7 => exact absurd rfl hcall
  | _ => nofun

theorem Inv.poll (h : s.Inv) (lwipInit : Bool) : (s.poll lwipInit).Inv := by
  have hstage := h.stage
  have hread (hcall : s.call ≠ .outside) := h.read_eq (hstage.cached_ne_none hcall)
  unfold Lifetime.poll
  cases hcall : s.call with
  | outside => exact h
  | crashed => exact h
  | waitsForActive localOnly =>
    obtain ⟨d, hd, hactive⟩ := hread (by rw [hcall]; nofun)
    rw [hd]
    dsimp only
    split
    · rename_i hset
      rw [hcall, ← hactive, hset] at hstage
      refine ⟨⟨h.noFault, h.heap, h.data9⟩, ?_⟩
      have hstage' := hstage.leave
      rw [← hset, hactive] at hstage'
      exact hstage'
    · exact h
  | waitsForInactive =>
    obtain ⟨d, hd, hactive⟩ := hread (by rw [hcall]; nofun)
    rw [hd]
    dsimp only
    split
    · exact h
    · rename_i hclear
      rw [Bool.not_eq_true] at hclear
      rw [hcall, ← hactive, hclear] at hstage
      obtain ⟨hfreed, hcrashed⟩ := hstage.free
      unfold Lifetime.free
      split
      · refine ⟨⟨h.noFault, h.heap, h.data9⟩, ?_⟩
        rw [← hclear, hactive] at hcrashed
        exact hcrashed
      · obtain ⟨a, ha⟩ := Option.ne_none_iff_exists'.mp
          (hstage.cached_ne_none nofun)
        simp only [ha]
        refine ⟨⟨h.noFault, fun b => ?_, nofun⟩, hfreed⟩
        by_cases hb : b = a
        · simp [hb]
        · have hother := h.heap b
          rw [ha, Option.some_inj] at hother
          simpa [hb] using fun hsome => hb (hother.mp hsome).symm

/-- An access that leaves `WFLAG_ARM7_ACTIVE` alone, or changes it as the statement says. -/
theorem Owned.inv_touch (h : s.Owned) (ha : s.wifiDataCached = some a)
    {f : SharedFields → SharedFields} {active : Bool}
    (hf : ∀ d, d.active = s.active → (f d).active = active)
    (hstage : Stage s.call s.wifiDataCached active (pending s.queue) s.wifiData7 s.handler) :
    (s.touch (some a) f).Inv := by
  refine ⟨h.touch ha f, ?_⟩
  rw [h.active_touch ha hf]
  simpa using hstage

theorem Inv.use (h : s.Inv) {reqMode : Option WifiMode} {sync : Bool}
    (hlegal : s.Legal (.use reqMode sync)) : (s.use reqMode sync).Inv := by
  obtain ⟨a, ha⟩ := Option.ne_none_iff_exists'.mp hlegal
  have htouch :
      (s.touch s.wifiData9 fun d => { d with reqMode := reqMode.getD d.reqMode }).Inv := by
    rw [h.data9 a ha]
    exact h.inv_touch ha (fun d hd => hd) h.stage
  unfold Lifetime.use
  dsimp only
  split
  · refine ⟨⟨htouch.noFault, htouch.heap, htouch.data9⟩, ?_⟩
    dsimp only
    rw [pending_append, pending_cons_sync, pending_nil, List.append_nil]
    exact htouch.stage
  · exact htouch

theorem Inv.startAccesses (h : s.Inv) (hidle : s.handler = []) (accesses : Nat) :
    (s.startAccesses accesses).Inv := by
  unfold Lifetime.startAccesses
  split
  · exact h
  · have hstage := h.stage
    rw [hidle] at hstage
    exact ⟨⟨h.noFault, h.heap, h.data9⟩, hstage.startAccesses ‹_› accesses⟩

theorem Inv.receive (h : s.Inv) (accesses : Nat) : (s.receive accesses).Inv := by
  have hstage := h.stage
  unfold Lifetime.receive
  split
  · rename_i queue hidle hqueue
    rw [hqueue] at hstage
    have hinv : Inv { s with queue } := ⟨⟨h.noFault, h.heap, h.data9⟩, hstage⟩
    exact hinv.startAccesses hidle accesses
  · rename_i queue hidle hqueue
    rw [hqueue, hidle] at hstage
    rcases hstage.take with ⟨-, htaken⟩ | ⟨a, haddress, -⟩
    · exact ⟨⟨h.noFault, h.heap, h.data9⟩, htaken⟩
    · cases haddress
  · rename_i wifidata queue hidle hqueue
    rw [hqueue, hidle] at hstage
    rcases hstage.take with ⟨hdeinit, -⟩ | ⟨a, haddress, htaken⟩
    · cases hdeinit
    · cases haddress
      exact ⟨⟨h.noFault, h.heap, h.data9⟩, htaken⟩
  · exact h

/-- A statement of the ARM7 that is not about its pointer uses the structure of the ARM9. -/
theorem Owned.exec (h : s.Owned) (ha : s.wifiDataCached = some a) (hdata7 : s.wifiData7 = some a)
    {curMode : Option WifiMode} {stmt : Arm7Statement}
    (hstage : Stage s.call s.wifiDataCached (nextActive s.active stmt) (pending s.queue)
      (nextData s.wifiData7 stmt) s.handler) : (s.exec curMode stmt).Inv := by
  cases stmt with
  | setData b => exact ⟨⟨h.noFault, h.heap, h.data9⟩, hstage⟩
  | clearData => exact ⟨⟨h.noFault, h.heap, h.data9⟩, hstage⟩
  | ntrInit =>
    rw [Lifetime.exec, hdata7]
    exact h.inv_touch ha (fun d hd => hd) hstage
  | setActive =>
    rw [Lifetime.exec, hdata7]
    exact h.inv_touch ha (fun d hd => rfl) hstage
  | ntrDeinit =>
    rw [Lifetime.exec, hdata7]
    exact h.inv_touch ha (fun d hd => hd) hstage
  | clearActive =>
    rw [Lifetime.exec, hdata7]
    exact h.inv_touch ha (fun d hd => rfl) hstage
  | access =>
    rw [Lifetime.exec, hdata7]
    exact h.inv_touch ha (fun d hd => hd) hstage

theorem Inv.turn (h : s.Inv) (curMode : Option WifiMode) : (s.step (.turn curMode)).Inv := by
  unfold Lifetime.step
  dsimp only
  split
  · exact h
  · rename_i stmt handler hhandler
    have hstage := h.stage
    rw [hhandler] at hstage
    have howned : Owned { s with handler } := ⟨h.noFault, h.heap, h.data9⟩
    have hexec := hstage.exec
    rcases hstage.uses with ⟨b, rfl⟩ | rfl | ⟨a, ha, hdata7⟩
    · exact ⟨⟨h.noFault, h.heap, h.data9⟩, hexec⟩
    · exact ⟨⟨h.noFault, h.heap, h.data9⟩, hexec⟩
    · exact howned.exec ha hdata7 hexec

/-- **Every step keeps the invariant.** -/
theorem Inv.step (h : s.Inv) {e : LifetimeEvent} (hlegal : s.Legal e) : (s.step e).Inv := by
  cases e with
  | init localOnly allocated => exact h.initDefault hlegal
  | poll lwipInit => exact h.poll lwipInit
  | deinit => exact h.deinit hlegal
  | use reqMode sync => exact h.use hlegal
  | receive accesses => exact h.receive accesses
  | interrupt accesses =>
    unfold Lifetime.step
    dsimp only
    split
    · exact h.startAccesses ‹_› accesses
    · exact h
  | turn curMode => exact h.turn curMode

theorem free_call (s : Lifetime) : s.free.call = .outside ∨ s.free.call = .crashed := by
  unfold Lifetime.free
  split
  · exact .inr rfl
  · split
    · exact .inl rfl
    · exact .inl rfl

theorem Inv.safe (h : s.Inv) : s.Safe where
  noFault := h.noFault
  heap := h.heap
  ready a hcall ha := by
    have hstage := h.stage
    rw [hcall, ha] at hstage
    obtain ⟨hdata7, hset⟩ := hstage.ready
    obtain ⟨d, hd, hactive⟩ := h.heap_eq ha
    refine ⟨hdata7, d, hd, ?_⟩
    rw [hactive, hset]
  released hqueue hhandler lwipInit := by
    have hstage := h.stage
    have hread (hcall : s.call ≠ .outside) := h.read_eq (hstage.cached_ne_none hcall)
    rw [hqueue, hhandler] at hstage
    obtain ⟨hinit, hdeinit⟩ := hstage.released
    unfold Lifetime.poll
    cases hcall : s.call with
    | outside => exact .inl hcall
    | crashed => exact .inr hcall
    | waitsForActive localOnly =>
      obtain ⟨d, hd, hactive⟩ := hread (by rw [hcall]; nofun)
      rw [hd]
      dsimp only
      rw [hactive, hinit localOnly hcall]
      exact .inl rfl
    | waitsForInactive =>
      obtain ⟨d, hd, hactive⟩ := hread (by rw [hcall]; nofun)
      rw [hd]
      dsimp only
      rw [hactive, hdeinit hcall]
      exact s.free_call

end Lifetime

/-- **The structure is used in its lifetime only**, whatever order the two CPUs work in, however
often the library is started and stopped, and wherever the structure is allocated. -/
theorem lifetimes_safe {es : List LifetimeEvent}
    (hlegal : Along Lifetime.step Lifetime.Legal .off es) :
    (run Lifetime.step .off es).Safe := by
  have hinv := hlegal.inv Lifetime.Inv (fun _ _ h hlegal => h.step hlegal) .off
  exact hinv.safe

/-- The library is stopped and started again, and the new structure is where the old one was, when
the ARM7 has not forgotten it. -/
def startedAgain : List LifetimeEvent :=
  [.init true (some 0x2000), .receive 0, .turn none, .turn none, .poll true, .use none true,
    .turn none, .poll true, .interrupt 2, .use none true, .deinit, .turn none, .turn none,
    .receive 1, .turn none, .receive 0, .receive 0, .turn none, .turn none, .poll true,
    .init true (some 0x2000), .interrupt 1, .turn none, .receive 0, .turn none]

theorem lifetimes_safe_startedAgain : (run Lifetime.step .off startedAgain).Safe :=
  lifetimes_safe (by decide)

end Wifi
