import DsWifi.Common.Shared

/-!
# Chains of buffers

lwIP keeps a packet in a chain of buffers, each with its own length and with that of all from there
on. `dswifi_link_output` joins the buffers of a packet that is sent, and `dswifi_send_data_to_lwip`
splits a packet that has been received (`source/arm9/lwip/netif.c`). Both stop at a buffer whose two
lengths are the same, which needn't be the last one if there are empty ones.

* `pbufs_lossless` — nothing gets lost or comes in addition, in either direction
-/

namespace Wifi

open Infra Infra.Mem

/-! ## Chains -/

/-- `struct pbuf`, without `next`. -/
structure Pbuf where
  totLen : Nat
  payload : List UInt8
  deriving DecidableEq

namespace Pbuf

/-- `len`, the size of the payload. -/
def len (p : Pbuf) : Nat := p.payload.length

/-- What the fields of a chain have in common. -/
def Chained : Pbuf → List Pbuf → Prop
  | p, [] => p.totLen = p.len
  | p, next :: rest => p.totLen = p.len + next.totLen ∧ Chained next rest

/-- The packet. -/
def bytes (chain : List Pbuf) : List UInt8 := chain.flatMap payload

/-- The lengths of the buffers. -/
def lengths (chain : List Pbuf) : List (Nat × Nat) := chain.map fun p => (p.totLen, p.len)

/-- `PBUF_POOL_BUFSIZE_ALIGNED`. -/
def poolBufsize : Nat := roundUp32 (1460 + 40 + 20 + 14)

/-- `PBUF_IP`. -/
def pbufIp : Nat := 14 + 40

theorem poolBufsize_pos : 0 < poolBufsize := by decide

theorem poolBufsize_pbufIp_pos : 0 < poolBufsize - roundUp32 pbufIp := by decide

/-- The loop of `pbuf_alloc`. `pool` has what `memp_malloc` returns each time, and a buffer has room
for `room` bytes. -/
def pbufAllocLoop (pool : Nat → Option Mem) (i remLen room : Nat) (_hroom : 0 < room) :
    Option (Pbuf × List Pbuf) :=
  match pool i with
  | none => none
  | some memory =>
    let qlen := if remLen < room then remLen else room
    let q : Pbuf := { totLen := remLen, payload := loadBytes memory 0 qlen }
    if remLen - qlen = 0 then some (q, [])
    else (pbufAllocLoop pool (i + 1) (remLen - qlen) poolBufsize poolBufsize_pos).map
      fun (next, rest) => (q, next :: rest)
termination_by remLen
decreasing_by
  split_ifs at * <;> omega

/-- `pbuf_alloc`, for `PBUF_IP` and `PBUF_POOL`. -/
def pbufAlloc (pool : Nat → Option Mem) (length : Nat) : Option (Pbuf × List Pbuf) :=
  pbufAllocLoop pool 0 length (poolBufsize - roundUp32 pbufIp) poolBufsize_pbufIp_pos

end Pbuf

/-! ## Functions -/

/-- `err_t`. -/
inductive LwipErr
  | ok
  | mem
  deriving DecidableEq

/-- What `dswifi_link_output` does. -/
structure LinkOutput where
  /-- The data that is passed to `Wifi_TransmitFunctionLink`, and its size. -/
  passed : Option (List UInt8 × Nat)
  err : LwipErr
  deriving DecidableEq

/-- `dswifi_send_data_to_lwip` has dropped the packet, or has passed it to lwIP. -/
inductive SentToLwip
  | dropped
  /-- `len` is what the assertion looks at. -/
  | passed (chain : List Pbuf) (len : Nat) (freed : Bool)
  deriving DecidableEq

namespace Pbuf

/-- The loop of `dswifi_link_output`. It returns nothing if it follows a null pointer. -/
def joinLoop : (buf : Mem) → (wrPtr : Nat) → Pbuf → List Pbuf → Option Mem
  | buf, wrPtr, p, rest =>
    let buf := buf.storeBytes wrPtr p.payload
    if p.totLen = p.len then some buf
    else
      match rest with
      | [] => none
      | next :: rest => joinLoop buf (wrPtr + p.len) next rest

/-- What `Wifi_TransmitFunctionLink` is called with, and what comes of it. -/
def transmitted (transmit : List UInt8 → Nat → Int) (data : List UInt8) (size : Nat) :
    LinkOutput where
  passed := some (data, size)
  err := if transmit data size ≠ 0 then .mem else .ok

/-- `dswifi_link_output`. It returns nothing if it follows a null pointer. -/
def linkOutput (transmit : List UInt8 → Nat → Int) (malloc : Nat → Option Mem) (p : Pbuf)
    (rest : List Pbuf) : Option LinkOutput :=
  if p.totLen = 0 then some { passed := none, err := .ok }
  else if p.totLen = p.len then some (transmitted transmit p.payload p.totLen)
  else
    match malloc p.totLen with
    | none => some { passed := none, err := .mem }
    | some buf =>
      (joinLoop buf 0 p rest).map fun buf =>
        transmitted transmit (loadBytes buf 0 p.totLen) p.totLen

/-- A buffer after a `memcpy` to its start. -/
def copyTo (p : Pbuf) (data : Mem) (src n : Nat) : Pbuf :=
  { p with payload := loadBytes data src n ++ p.payload.drop n }

/-- The loop of `dswifi_send_data_to_lwip`, with what `len` is after it. It returns nothing if it
follows a null pointer. -/
def splitLoop (data : Mem) : (src len : Nat) → Pbuf → List Pbuf → Option (List Pbuf × Nat)
  | src, len, iter, rest =>
    let copySize := if iter.len < len then iter.len else len
    let filled := iter.copyTo data src copySize
    if iter.totLen = iter.len then some (filled :: rest, len - copySize)
    else
      match rest with
      | [] => none
      | next :: rest =>
        (splitLoop data (src + copySize) (len - copySize) next rest).map
          fun (chain, len) => (filled :: chain, len)

/-- `dswifi_send_data_to_lwip`, after `pbuf_alloc`. It returns nothing if it follows a null
pointer. -/
def sendDataToLwip (input : List Pbuf → LwipErr) (data : Mem) (len : Nat)
    (p : Option (Pbuf × List Pbuf)) : Option SentToLwip :=
  match p with
  | none => some .dropped
  | some (p, rest) =>
    if p.totLen < len then some .dropped
    else
      (splitLoop data 0 len p rest).map fun (chain, len) =>
        .passed chain len (input chain ≠ .ok)

/-! ## What is expected of them -/

/-- A packet that isn't empty is passed on as a whole, if there is memory for it. -/
def JoinedWhole (transmit : List UInt8 → Nat → Int) (malloc : Nat → Option Mem) (p : Pbuf)
    (rest : List Pbuf) : Prop :=
  linkOutput transmit malloc p rest =
    if p.totLen = 0 then some { passed := none, err := .ok }
    else if p.totLen ≠ p.len ∧ malloc p.totLen = none then some { passed := none, err := .mem }
    else some (transmitted transmit (bytes (p :: rest)) (bytes (p :: rest)).length)

/-- A packet that 16 bits can count fills the chain, and other ones are dropped. -/
def SplitWhole (input : List Pbuf → LwipErr) (data : Mem) (len : Nat) (p : Pbuf)
    (rest : List Pbuf) : Prop :=
  if len < 2 ^ 16 then
    ∃ chain, sendDataToLwip input data len (some (p, rest)) =
        some (.passed chain 0 (input chain ≠ .ok)) ∧
      bytes chain = loadBytes data 0 len ∧ lengths chain = lengths (p :: rest)
  else sendDataToLwip input data len (some (p, rest)) = some .dropped

/-! ## Lengths -/

variable {p : Pbuf} {rest : List Pbuf}

@[simp] theorem bytes_cons (p : Pbuf) (rest : List Pbuf) :
    bytes (p :: rest) = p.payload ++ bytes rest := rfl

/-- The first buffer knows the length of the packet. -/
theorem Chained.length_bytes (h : Chained p rest) : (bytes (p :: rest)).length = p.totLen := by
  induction rest generalizing p with
  | nil =>
    rw [bytes_cons, List.length_append, show p.totLen = p.len from h]
    rfl
  | cons next rest ih =>
    rw [bytes_cons, List.length_append, ih h.2, h.1]
    rfl

/-- Behind a buffer with two equal lengths there is nothing. -/
theorem Chained.bytes_rest (h : Chained p rest) (hstop : p.totLen = p.len) : bytes rest = [] := by
  have hlength := h.length_bytes
  rw [bytes_cons, List.length_append, hstop, len] at hlength
  exact List.length_eq_zero_iff.mp (by omega)

/-! ## Joining -/

/-- **The loop ends, with the packet in the buffer.** -/
theorem Chained.joinLoop_eq (h : Chained p rest) (buf : Mem) (wrPtr : Nat) :
    joinLoop buf wrPtr p rest = some (buf.storeBytes wrPtr (bytes (p :: rest))) := by
  induction rest generalizing p buf wrPtr with
  | nil =>
    have hstop : p.totLen = p.len := h
    rw [joinLoop, if_pos hstop, bytes_cons, h.bytes_rest hstop, List.append_nil]
  | cons next rest ih =>
    rw [joinLoop]
    by_cases hstop : p.totLen = p.len
    · rw [if_pos hstop, bytes_cons, h.bytes_rest hstop, List.append_nil]
    · rw [if_neg hstop, bytes_cons, storeBytes_append]
      exact ih h.2 _ _

theorem Chained.joinedWhole (h : Chained p rest) (transmit : List UInt8 → Nat → Int)
    (malloc : Nat → Option Mem) : JoinedWhole transmit malloc p rest := by
  have hlength := h.length_bytes
  unfold JoinedWhole linkOutput
  by_cases hempty : p.totLen = 0
  · rw [if_pos hempty, if_pos hempty]
  rw [if_neg hempty, if_neg hempty]
  by_cases hstop : p.totLen = p.len
  · rw [if_pos hstop, if_neg fun hsplit => hsplit.1 hstop, hlength, bytes_cons,
      h.bytes_rest hstop, List.append_nil]
  rw [if_neg hstop]
  cases hmalloc : malloc p.totLen with
  | none => rw [if_pos ⟨hstop, rfl⟩]
  | some buf =>
    rw [if_neg fun hsplit => absurd hsplit.2 (Option.some_ne_none buf)]
    dsimp only
    rw [h.joinLoop_eq, Option.map_some, ← hlength, loadBytes_storeBytes]

/-! ## Splitting -/

/-- A buffer is filled if there is enough left for it. -/
theorem copySize_eq {len : Nat} (h : p.len ≤ len) :
    (if p.len < len then p.len else len) = p.len := by
  split <;> omega

/-- A buffer that has been filled is as long as before. -/
theorem copyTo_len (p : Pbuf) (data : Mem) (src : Nat) :
    (p.copyTo data src p.len).payload = loadBytes data src p.len ∧
      ∀ rest, lengths (p.copyTo data src p.len :: rest) = (p.totLen, p.len) :: lengths rest := by
  have hpayload : (p.copyTo data src p.len).payload = loadBytes data src p.len := by
    rw [copyTo, len, List.drop_length, List.append_nil]
  refine ⟨hpayload, fun rest => ?_⟩
  have hlen : (p.copyTo data src p.len).len = p.len := by
    unfold len at hpayload ⊢
    rw [hpayload, length_loadBytes]
  rw [lengths, List.map_cons, hlen]
  rfl

/-- At a buffer with two equal lengths the packet is complete. -/
theorem Chained.split_stop (h : Chained p rest) (hstop : p.totLen = p.len) (data : Mem)
    (src : Nat) :
    ∃ chain, some (p.copyTo data src p.len :: rest, p.totLen - p.len) = some (chain, 0) ∧
      bytes chain = loadBytes data src p.totLen ∧ lengths chain = lengths (p :: rest) := by
  obtain ⟨hpayload, hlengths⟩ := p.copyTo_len data src
  refine ⟨p.copyTo data src p.len :: rest, ?_, ?_, hlengths rest⟩
  · rw [hstop, Nat.sub_self]
  · rw [bytes_cons, hpayload, h.bytes_rest hstop, List.append_nil, hstop]

/-- **The loop ends, with the packet in the chain.** -/
theorem Chained.splitLoop_eq (h : Chained p rest) (data : Mem) (src : Nat) :
    ∃ chain, splitLoop data src p.totLen p rest = some (chain, 0) ∧
      bytes chain = loadBytes data src p.totLen ∧ lengths chain = lengths (p :: rest) := by
  induction rest generalizing p src with
  | nil =>
    have hstop : p.totLen = p.len := h
    rw [splitLoop, copySize_eq (Nat.le_of_eq hstop.symm), if_pos hstop]
    exact h.split_stop hstop data src
  | cons next rest ih =>
    obtain ⟨htot, hnext⟩ := id h
    rw [splitLoop, copySize_eq (by omega)]
    by_cases hstop : p.totLen = p.len
    · rw [if_pos hstop]
      exact h.split_stop hstop data src
    · obtain ⟨hpayload, hlengths⟩ := p.copyTo_len data src
      obtain ⟨chain, hloop, hbytes, hsame⟩ := ih hnext (src + p.len)
      rw [if_neg hstop, show p.totLen - p.len = next.totLen by omega, hloop]
      refine ⟨p.copyTo data src p.len :: chain, rfl, ?_, ?_⟩
      · rw [bytes_cons, hpayload, hbytes, htot, loadBytes_add]
      · rw [hlengths, hsame]
        rfl

theorem Chained.splitWhole (h : Chained p rest) {len : Nat} (htot : p.totLen = u16 len)
    (input : List Pbuf → LwipErr) (data : Mem) : SplitWhole input data len p rest := by
  unfold SplitWhole sendDataToLwip u16 at *
  dsimp only
  split
  · rename_i hlen
    rw [Nat.mod_eq_of_lt hlen] at htot
    obtain ⟨chain, hloop, hbytes, hlengths⟩ := h.splitLoop_eq data 0
    rw [htot] at hloop hbytes
    refine ⟨chain, ?_, hbytes, hlengths⟩
    rw [if_neg (by omega), hloop]
    rfl
  · rename_i hlen
    have := Nat.mod_lt len (show 0 < 2 ^ 16 by decide)
    rw [if_pos (by omega)]

/-! ## Allocation -/

/-- **The chains that are allocated**: their lengths fit together and add up. -/
theorem pbufAllocLoop_chained (pool : Nat → Option Mem) {i remLen room : Nat} {hroom : 0 < room}
    (h : pbufAllocLoop pool i remLen room hroom = some (p, rest)) :
    Chained p rest ∧ p.totLen = remLen := by
  induction remLen using Nat.strong_induction_on generalizing i room p rest with
  | _ remLen ih =>
    rw [pbufAllocLoop] at h
    cases hmemory : pool i with
    | none =>
      rw [hmemory] at h
      exact absurd h nofun
    | some memory =>
      rw [hmemory] at h
      dsimp only at h
      have hqlen : (if remLen < room then remLen else room) ≤ remLen ∧
          (0 < remLen → 0 < if remLen < room then remLen else room) := by
        split <;> omega
      generalize (if remLen < room then remLen else room) = qlen at h hqlen
      split at h
      · rename_i hdone
        obtain ⟨rfl, rfl⟩ := Prod.mk.inj (Option.some_inj.mp h)
        refine ⟨?_, rfl⟩
        rw [Chained, len, length_loadBytes]
        dsimp only
        omega
      · rename_i hmore
        obtain ⟨⟨next, rest'⟩, hnext, heq⟩ := Option.map_eq_some_iff.mp h
        obtain ⟨rfl, rfl⟩ := Prod.mk.inj heq
        obtain ⟨hchained, htot⟩ := ih (remLen - qlen) (by omega) hnext
        refine ⟨⟨?_, hchained⟩, rfl⟩
        rw [len, length_loadBytes, htot]
        dsimp only
        omega

end Pbuf

/-- **Nothing gets lost or comes in addition.** A chain that is sent is passed on as a whole, unless
it is empty or has to be joined and there is no memory for that. A packet that is received fills
every chain that `pbuf_alloc` could return for it, and is dropped if its length has more than 16
bits. -/
theorem pbufs_lossless (transmit : List UInt8 → Nat → Int) (malloc pool : Nat → Option Mem)
    (input : List Pbuf → LwipErr) (data : Mem) (len : Nat) :
    (∀ p rest, Pbuf.Chained p rest → Pbuf.JoinedWhole transmit malloc p rest) ∧
    (∀ p rest, Pbuf.Chained p rest → p.totLen = u16 len →
      Pbuf.SplitWhole input data len p rest) ∧
    (∀ p rest, Pbuf.pbufAlloc pool (u16 len) = some (p, rest) →
      Pbuf.Chained p rest ∧ p.totLen = u16 len) :=
  ⟨fun _ _ h => h.joinedWhole transmit malloc, fun _ _ h htot => h.splitWhole htot input data,
    fun _ _ h => Pbuf.pbufAllocLoop_chained pool h⟩

/-- Three buffers, one of them empty. -/
def threePbufs : Pbuf × List Pbuf :=
  ({ totLen := 3, payload := [1, 2] },
    [{ totLen := 1, payload := [] }, { totLen := 1, payload := [3] }])

theorem threePbufs_chained : Pbuf.Chained threePbufs.1 threePbufs.2 := ⟨rfl, rfl, rfl⟩

/-- The three buffers are joined, three bytes fill them, and the pool has a buffer for them. -/
theorem pbufs_lossless_threePbufs :
    Pbuf.linkOutput (fun _ _ => 0) (fun _ => some fun _ => 0) threePbufs.1 threePbufs.2 =
        some { passed := some ([1, 2, 3], 3), err := .ok } ∧
      Pbuf.SplitWhole (fun _ => .ok) (fun _ => 7) 3 threePbufs.1 threePbufs.2 ∧
      ∃ p rest, Pbuf.pbufAlloc (fun _ => some fun _ => 0) (u16 3) = some (p, rest) ∧
        Pbuf.Chained p rest := by
  obtain ⟨hjoin, hsplit, halloc⟩ := pbufs_lossless (fun _ _ => 0) (fun _ => some fun _ => 0)
    (fun _ => some fun _ => 0) (fun _ => .ok) (fun _ => 7) 3
  refine ⟨hjoin _ _ threePbufs_chained, hsplit _ _ threePbufs_chained rfl, ?_⟩
  have hpool : Pbuf.pbufAlloc (fun _ => some fun _ => 0) (u16 3) =
      some ({ totLen := 3, payload := [0, 0, 0] }, []) := by
    rw [Pbuf.pbufAlloc, Pbuf.pbufAllocLoop]
    rfl
  exact ⟨_, _, hpool, (halloc _ _ hpool).1⟩

/-- A buffer without bytes. -/
def emptyPbuf : Pbuf := { totLen := 0, payload := [] }

/-- A packet without bytes, and one that there is no memory for, are not passed on. -/
theorem linkOutput_notPassed :
    (Pbuf.Chained emptyPbuf [] ∧
      ¬ ∃ err, Pbuf.linkOutput (fun _ _ => 0) (fun _ => some fun _ => 0) emptyPbuf [] =
        some { passed := some ([], 0), err }) ∧
    Pbuf.Chained threePbufs.1 threePbufs.2 ∧
      ¬ ∃ err, Pbuf.linkOutput (fun _ _ => 0) (fun _ => none) threePbufs.1 threePbufs.2 =
        some { passed := some ([1, 2, 3], 3), err } := by
  refine ⟨⟨rfl, ?_⟩, threePbufs_chained, ?_⟩
  · rintro ⟨err, h⟩
    cases err <;> exact absurd h (by decide)
  · rintro ⟨err, h⟩
    cases err <;> exact absurd h (by decide)

end Wifi
