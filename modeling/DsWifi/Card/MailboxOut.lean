import DsWifi.Card.Mailbox
import DsWifi.Common.Shared

/-!
# Packets to the card

`wifi_card_mbox0_send_packet` and `wmi_send_pkt` (`source/arm7/twl/card.twl.c`) put a header and a
payload in `mbox_out_buffer` and send whole blocks of it, and `htc_send_pkt` (`htc.twl.c`) has a
small buffer of its own before that. The length in the header is written first, and what doesn't
fit is cut off afterwards.

* `mailboxHeader_matches_iff` — the payloads that are sent as the header says
-/

namespace Wifi

open Infra Infra.Mem

namespace Mbox

/-! ## Functions -/

/-- `mbox_out_buffer` and the length that `wifi_card_mbox0_sendbytes` is called with. -/
structure OutPacket where
  buffer : Mem
  /-- How much of the buffer has been written. -/
  written : Nat
  len : Nat

/-- `round_up(n, 0x80)`. -/
def roundUpBlock (n : Nat) : Nat := (n + 0x7F) / 0x80 * 0x80

/-- What is copied of a payload, if there is one. -/
def copyPayload (buffer : Mem) (start : Nat) (data : Option Mem) (n : Nat) : Mem :=
  match data with
  | some data => buffer.storeBytes start (loadBytes data 0 n)
  | none => buffer

/-- The length that fits behind a header. -/
def truncated (start : Nat) (len : UInt16) : Nat :=
  if tmpbufSize - start < len.toNat then tmpbufSize - start else len.toNat

/-- A header and the payload behind it. -/
def outPacket (buffer : Mem) (header : List UInt8) (data : Option Mem) (len : UInt16) :
    OutPacket where
  buffer := copyPayload (buffer.storeBytes 0 header) header.length data
    (truncated header.length len)
  written := header.length + truncated header.length len
  len := u16 (roundUpBlock (u16 (truncated header.length len + header.length)))

/-- `wifi_card_mbox0_send_packet`. -/
def sendPacket (buffer : Mem) (type ackType : UInt8) (data : Option Mem) (len idk : UInt16) :
    OutPacket :=
  outPacket buffer ([type, ackType] ++ halfBytes len.toNat ++ halfBytes idk.toNat) data len

/-- `data_send_pkt`. -/
def dataSendPkt (buffer : Mem) (data : Option Mem) (len : UInt32) : OutPacket :=
  sendPacket buffer 2 0 data len.toUInt16 0

/-- `data_send_pkt_idk`. -/
def dataSendPktIdk (buffer : Mem) (data : Option Mem) (len : UInt32) : OutPacket :=
  sendPacket buffer 2 0 data len.toUInt16 0x2008

/-- `wmi_send_pkt`. -/
def wmiSendPkt (wmiIdk : UInt16) (buffer : Mem) (wmiType : UInt16) (ackType : UInt8)
    (data : Option Mem) (len : UInt16) : OutPacket :=
  outPacket (buffer.storeBytes 0 (List.replicate 8 0))
    ([1, ackType] ++ halfBytes (len.toNat + 2) ++ halfBytes wmiIdk.toNat ++
      halfBytes wmiType.toNat) data len

/-- `sizeof(htc_buffer)`. -/
def htcBufferSize : Nat := 0x80

/-- The length that fits in `htc_buffer`. -/
def htcTruncated (len : UInt16) : UInt16 :=
  if htcBufferSize - 2 < len.toNat then UInt16.ofNat (htcBufferSize - 2) else len

/-- `htc_buffer`. -/
def htcBuffer (htcType : UInt16) (data : Option Mem) (len : UInt16) : Mem :=
  copyPayload (storeBytes (fun _ => 0) 0 (halfBytes htcType.toNat)) 2 data
    (htcTruncated len).toNat

/-- `htc_send_pkt`. -/
def htcSendPkt (buffer : Mem) (htcType : UInt16) (ackType : UInt8) (data : Option Mem)
    (len : UInt16) : OutPacket :=
  sendPacket buffer 0 ackType (some (htcBuffer htcType data len)) (htcTruncated len + 2) 0

/-- A call of one of the functions. -/
inductive SendCall
  | sendPacket (type ackType : UInt8) (len idk : UInt16)
  | dataSendPkt (len : UInt32)
  | dataSendPktIdk (len : UInt32)
  | htcSendPkt (htcType : UInt16) (ackType : UInt8) (len : UInt16)
  | wmiSendPkt (wmiIdk wmiType : UInt16) (ackType : UInt8) (len : UInt16)

namespace SendCall

def run (buffer : Mem) (data : Option Mem) : SendCall → OutPacket
  | sendPacket type ackType len idk => Mbox.sendPacket buffer type ackType data len idk
  | dataSendPkt len => Mbox.dataSendPkt buffer data len
  | dataSendPktIdk len => Mbox.dataSendPktIdk buffer data len
  | htcSendPkt htcType ackType len => Mbox.htcSendPkt buffer htcType ackType data len
  | wmiSendPkt wmiIdk wmiType ackType len => Mbox.wmiSendPkt wmiIdk buffer wmiType ackType data len

/-- The length of the payload. -/
def size : SendCall → Nat
  | sendPacket _ _ len _ => len.toNat
  | dataSendPkt len => len.toNat
  | dataSendPktIdk len => len.toNat
  | htcSendPkt _ _ len => len.toNat
  | wmiSendPkt _ _ _ len => len.toNat

/-- Commands have their number in front of the payload, behind the header. -/
def commandSize : SendCall → Nat
  | sendPacket _ _ _ _ => 0
  | dataSendPkt _ => 0
  | dataSendPktIdk _ => 0
  | htcSendPkt _ _ _ => 2
  | wmiSendPkt _ _ _ _ => 2

/-- The longest payload that there is room for. -/
def room : SendCall → Nat
  | sendPacket _ _ _ _ => 0x5FA
  | dataSendPkt _ => 0x5FA
  | dataSendPktIdk _ => 0x5FA
  | htcSendPkt _ _ _ => 0x7E
  | wmiSendPkt _ _ _ _ => 0x5F8

end SendCall

/-! ## What is expected of them -/

/-- The whole payload is sent, and the header has its length. -/
structure OutPacket.Matches (p : OutPacket) (data : Option Mem) (commandSize size : Nat) :
    Prop where
  header : load16 p.buffer 2 = commandSize + size
  whole : 6 + commandSize + size ≤ p.len
  payload : ∀ source, data = some source →
    loadBytes p.buffer (6 + commandSize) size = loadBytes source 0 size

/-- The buffer is kept to, and whole blocks are sent, with nothing lost in 16 bits. -/
structure OutPacket.Inside (p : OutPacket) (buffer : Mem) : Prop where
  buffer : ∀ a, tmpbufSize ≤ a → p.buffer a = buffer a
  written : p.written ≤ tmpbufSize
  len : p.len = roundUpBlock p.written ∧ p.len ≤ tmpbufSize

/-! ## Header and payload -/

section

variable {header : List UInt8} {data : Option Mem} {len : UInt16} {a : Nat}

theorem copyPayload_of_lt {buffer : Mem} {start n : Nat} (h : a < start) :
    copyPayload buffer start data n a = buffer a := by
  unfold copyPayload
  cases data with
  | none => rfl
  | some source => exact storeBytes_of_lt h

theorem copyPayload_of_le {buffer : Mem} {start n : Nat} (h : start + n ≤ a) :
    copyPayload buffer start data n a = buffer a := by
  unfold copyPayload
  cases data with
  | none => rfl
  | some source => exact storeBytes_of_le (by rwa [length_loadBytes])

theorem truncated_le (start : Nat) (len : UInt16) : truncated start len ≤ tmpbufSize - start := by
  unfold truncated
  split <;> omega

/-- **The buffer is kept to**, whatever the length is. -/
theorem outPacket_inside (buffer : Mem) (header : List UInt8) (data : Option Mem) (len : UInt16)
    (hheader : header.length ≤ tmpbufSize) :
    (outPacket buffer header data len).Inside buffer := by
  have hle := truncated_le header.length len
  refine ⟨fun a ha => ?_, ?_, ?_⟩
  · dsimp only [outPacket]
    rw [copyPayload_of_le (by omega), storeBytes_of_le (by omega)]
  · dsimp only [outPacket]
    omega
  · dsimp only [outPacket]
    unfold tmpbufSize at *
    unfold u16 roundUpBlock
    omega

/-- The field of the header that the payload doesn't reach. -/
theorem outPacket_header (buffer : Mem) (data : Option Mem) (len : UInt16) {v : Nat}
    (hheader : 4 ≤ header.length) (hfield : (header.drop 2).take 2 = halfBytes v)
    (hv : v < 2 ^ 16) :
    load16 (outPacket buffer header data len).buffer 2 = v := by
  refine load16_eq _ _ _ hv ?_
  rw [← hfield, ← loadBytes_slice (loadBytes_storeBytes buffer 0 header) (by omega)]
  exact loadBytes_congr fun a ha => copyPayload_of_lt (ha.2.trans_le hheader)

/-- The payload that fits, behind the header. -/
theorem outPacket_payload (buffer source : Mem)
    (hfits : len.toNat ≤ tmpbufSize - header.length) :
    loadBytes (outPacket buffer header (some source) len).buffer header.length len.toNat =
      loadBytes source 0 len.toNat := by
  have htruncated : truncated header.length len = len.toNat := if_neg (Nat.not_lt.mpr hfits)
  dsimp only [outPacket, copyPayload]
  rw [htruncated]
  have hload := loadBytes_storeBytes (buffer.storeBytes 0 header) header.length
    (loadBytes source 0 len.toNat)
  rwa [length_loadBytes] at hload

/-- A packet matches its header if the header is right and there is room for the payload. -/
theorem outPacket_matches_iff (buffer : Mem) (header : List UInt8) (data : Option Mem)
    (len : UInt16) (commandSize size v : Nat) (hheader : header.length = 6 + commandSize)
    (hcommand : commandSize ≤ 2)
    (hfield : (header.drop 2).take 2 = halfBytes v) (hv : v < 2 ^ 16)
    (hlen : v = commandSize + size → len.toNat = size) :
    (outPacket buffer header data len).Matches data commandSize size ↔
      v = commandSize + size ∧ 6 + commandSize + size ≤ tmpbufSize := by
  have hload := outPacket_header buffer data len (by omega) hfield hv
  constructor
  · rintro ⟨hmatch, hwhole, -⟩
    have hinside := outPacket_inside buffer header data len
      (show header.length ≤ tmpbufSize by unfold tmpbufSize; omega)
    exact ⟨hload.symm.trans hmatch, hwhole.trans hinside.len.2⟩
  · rintro ⟨rfl, hroom⟩
    obtain rfl := hlen rfl
    have htruncated : truncated header.length len = len.toNat := if_neg (by omega)
    refine ⟨hload, ?_, ?_⟩
    · dsimp only [outPacket]
      rw [htruncated, hheader]
      unfold tmpbufSize at hroom
      unfold u16 roundUpBlock
      omega
    · rintro source rfl
      rw [← hheader]
      exact outPacket_payload buffer source (by omega)

end

/-! ## The calls -/

section

variable (buffer : Mem) (data : Option Mem)

theorem sendPacket_matches_iff (type ackType : UInt8) (len idk : UInt16) (size : Nat) :
    (sendPacket buffer type ackType data len idk).Matches data 0 size ↔
      len.toNat = size ∧ size ≤ 0x5FA := by
  have hmatches := outPacket_matches_iff buffer
    ([type, ackType] ++ halfBytes len.toNat ++ halfBytes idk.toNat) data len 0 size len.toNat rfl
    (by decide) rfl len.toNat_lt (fun h => h.trans (Nat.zero_add size))
  rw [sendPacket, hmatches, tmpbufSize]
  omega

theorem dataPacket_matches_iff (type ackType : UInt8) (len : UInt32) (idk : UInt16) :
    (sendPacket buffer type ackType data len.toUInt16 idk).Matches data 0 len.toNat ↔
      len.toNat ≤ 0x5FA := by
  rw [sendPacket_matches_iff, UInt32.toNat_toUInt16]
  omega

/-- A field has 16 bits. -/
theorem halfBytes_mod (n : Nat) : halfBytes (n % 2 ^ 16) = halfBytes n := by
  have hlow : UInt8.ofNat (n % 2 ^ 16) = UInt8.ofNat n := by
    refine UInt8.toNat_inj.mp ?_
    rw [UInt8.toNat_ofNat', UInt8.toNat_ofNat']
    omega
  have hhigh : UInt8.ofNat (n % 2 ^ 16 / 2 ^ 8) = UInt8.ofNat (n / 2 ^ 8) := by
    refine UInt8.toNat_inj.mp ?_
    rw [UInt8.toNat_ofNat', UInt8.toNat_ofNat']
    omega
  rw [halfBytes, hlow, hhigh]
  rfl

theorem wmiSendPkt_matches_iff (wmiIdk wmiType : UInt16) (ackType : UInt8) (len : UInt16) :
    (wmiSendPkt wmiIdk buffer wmiType ackType data len).Matches data 2 len.toNat ↔
      len.toNat ≤ 0x5F8 := by
  have hmatches := outPacket_matches_iff (buffer.storeBytes 0 (List.replicate 8 0))
    ([1, ackType] ++ halfBytes (len.toNat + 2) ++ halfBytes wmiIdk.toNat ++
      halfBytes wmiType.toNat) data len 2 len.toNat ((len.toNat + 2) % 2 ^ 16) rfl (by decide)
    (halfBytes_mod _).symm (by omega) (fun _ => rfl)
  rw [wmiSendPkt, hmatches, tmpbufSize]
  omega

theorem htcTruncated_le (len : UInt16) : (htcTruncated len).toNat ≤ 0x7E := by
  unfold htcTruncated htcBufferSize
  split
  · decide
  · omega

theorem htcTruncated_of_le {len : UInt16} (h : len.toNat ≤ 0x7E) : htcTruncated len = len :=
  if_neg (Nat.not_lt.mpr h)

/-- `htc_buffer` is kept to. -/
theorem htcBuffer_of_le (htcType len : UInt16) {a : Nat} (h : htcBufferSize ≤ a) :
    htcBuffer htcType data len a = 0 := by
  have hle := htcTruncated_le len
  unfold htcBufferSize at h
  rw [htcBuffer, copyPayload_of_le (by omega), storeBytes_of_le (by simpa using by omega)]

/-- The payload that fits in `htc_buffer`. -/
theorem htcBuffer_payload (htcType : UInt16) (source : Mem) {len : UInt16}
    (h : len.toNat ≤ 0x7E) :
    loadBytes (htcBuffer htcType (some source) len) 2 len.toNat =
      loadBytes source 0 len.toNat := by
  have hload := loadBytes_storeBytes (storeBytes (fun _ => 0) 0 (halfBytes htcType.toNat)) 2
    (loadBytes source 0 len.toNat)
  rw [length_loadBytes] at hload
  rw [htcBuffer, htcTruncated_of_le h]
  exact hload

theorem htcSendPkt_matches_iff (htcType : UInt16) (ackType : UInt8) (len : UInt16) :
    (htcSendPkt buffer htcType ackType data len).Matches data 2 len.toNat ↔
      len.toNat ≤ 0x7E := by
  have hle := htcTruncated_le len
  have hsum : (htcTruncated len + 2).toNat = (htcTruncated len).toNat + 2 := by
    rw [UInt16.toNat_add]
    exact Nat.mod_eq_of_lt (by simpa using by omega)
  -- To `wifi_card_mbox0_send_packet`, the number of the command is part of the payload.
  have hsend := (sendPacket_matches_iff buffer (some (htcBuffer htcType data len)) 0 ackType
    (htcTruncated len + 2) 0 (2 + (htcTruncated len).toNat)).mpr ⟨by omega, by omega⟩
  rw [htcSendPkt]
  generalize sendPacket buffer 0 ackType (some (htcBuffer htcType data len))
    (htcTruncated len + 2) 0 = p at hsend ⊢
  obtain ⟨hheader, hwhole, hpayload⟩ := hsend
  constructor
  · rintro ⟨hmatch, -, -⟩
    omega
  · intro hfits
    rw [htcTruncated_of_le hfits] at hheader hwhole hpayload
    refine ⟨by omega, by omega, ?_⟩
    rintro source rfl
    have hbuffer := hpayload _ rfl
    rw [loadBytes_add, loadBytes_add] at hbuffer
    have hrest := (List.append_inj hbuffer (by simp)).2
    exact hrest.trans (htcBuffer_payload htcType source hfits)

theorem sendPacket_inside (type ackType : UInt8) (len idk : UInt16) :
    (sendPacket buffer type ackType data len idk).Inside buffer :=
  outPacket_inside buffer _ data len (show 6 ≤ tmpbufSize by decide)

/-- **A call leaves the rest of memory alone**, whatever the length is. -/
theorem SendCall.inside (call : SendCall) : (call.run buffer data).Inside buffer := by
  cases call with
  | sendPacket type ackType len idk => exact sendPacket_inside buffer data type ackType len idk
  | dataSendPkt len => exact sendPacket_inside buffer data 2 0 len.toUInt16 0
  | dataSendPktIdk len => exact sendPacket_inside buffer data 2 0 len.toUInt16 0x2008
  | htcSendPkt htcType ackType len => exact sendPacket_inside buffer _ 0 ackType _ 0
  | wmiSendPkt wmiIdk wmiType ackType len =>
    obtain ⟨hbuffer, hwritten, hlen⟩ := outPacket_inside
      (buffer.storeBytes 0 (List.replicate 8 0))
      ([1, ackType] ++ halfBytes (len.toNat + 2) ++ halfBytes wmiIdk.toNat ++
        halfBytes wmiType.toNat) data len (show 8 ≤ tmpbufSize by decide)
    refine ⟨fun a ha => (hbuffer a ha).trans (storeBytes_of_le ?_), hwritten, hlen⟩
    rw [List.length_replicate]
    exact Nat.le_trans (by decide) ha

end

end Mbox

/-- **The payloads that are sent as the header says**: those that there is room for. The buffer is
kept to in any case. -/
theorem mailboxHeader_matches_iff (buffer : Mem) (data : Option Mem) (call : Mbox.SendCall) :
    (call.run buffer data).Inside buffer ∧
      ((call.run buffer data).Matches data call.commandSize call.size ↔
        call.size ≤ call.room) := by
  refine ⟨call.inside buffer data, ?_⟩
  cases call with
  | sendPacket type ackType len idk =>
    exact (Mbox.sendPacket_matches_iff buffer data type ackType len idk len.toNat).trans
      (and_iff_right rfl)
  | dataSendPkt len => exact Mbox.dataPacket_matches_iff buffer data 2 0 len 0
  | dataSendPktIdk len => exact Mbox.dataPacket_matches_iff buffer data 2 0 len 0x2008
  | htcSendPkt htcType ackType len =>
    exact Mbox.htcSendPkt_matches_iff buffer data htcType ackType len
  | wmiSendPkt wmiIdk wmiType ackType len =>
    exact Mbox.wmiSendPkt_matches_iff buffer data wmiIdk wmiType ackType len

/-- A frame of 1530 bytes and one more. -/
theorem mailboxHeader_longFrame :
    ¬ (Mbox.SendCall.run (fun _ => 0) (some fun _ => 1) (.dataSendPkt 0x5FB)).Matches
      (some fun _ => 1) 0 0x5FB := by
  intro h
  have hwhole := h.whole
  revert hwhole
  decide

end Wifi
