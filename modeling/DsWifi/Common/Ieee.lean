import DsWifi.Common.Shared

/-!
# Frame headers

`source/common/ieee_defs.h`, `common_ntr_defs.h`, `common_twl_defs.h` and `mac_addresses.h`. A
header is a structure under the names of the source, and its `bytes` are what lies in memory.
-/

namespace Wifi

open Infra Infra.Mem

/-- A MAC address. -/
abbrev MacAddr := Vector UInt8 6

def macAddrZero : MacAddr := #v[0, 0, 0, 0, 0, 0]

/-- `wifi_broadcast_addr`. -/
def wifiBroadcastAddr : MacAddr := #v[0xFF, 0xFF, 0xFF, 0xFF, 0xFF, 0xFF]

/-- `wifi_cmd_mac`. -/
def wifiCmdMac : MacAddr := #v[0x03, 0x09, 0xBF, 0x00, 0x00, 0x00]

/-- `wifi_reply_mac`. -/
def wifiReplyMac : MacAddr := #v[0x03, 0x09, 0xBF, 0x00, 0x00, 0x10]

/-! ## Frame control -/

def fcToDs : Nat := 2 ^ 8

def fcFromDs : Nat := 2 ^ 9

def fcProtectedFrame : Nat := 2 ^ 14

/-- `FC_TYPE_SUBTYPE_MASK`. -/
def fcTypeSubtypeMask : Nat := 3 <<< 2 ||| 0xF <<< 4

/-- `FORM_MANAGEMENT`. -/
def formManagement (s : Nat) : Nat := 0 <<< 2 ||| s <<< 4

/-- `FORM_DATA`. -/
def formData (s : Nat) : Nat := 2 <<< 2 ||| s <<< 4

def typeBeacon : Nat := formManagement 0x8

def typeAssocResponse : Nat := formManagement 0x1

def typeDeauthentication : Nat := formManagement 0xC

def typeData : Nat := formData 0x0

def typeDataCfAck : Nat := formData 0x1

def typeDataCfPoll : Nat := formData 0x2

/-! ## Headers -/

/-- `EthernetFrameHeader`. The type is kept in the byte order of the packet. -/
structure EthernetFrameHeader where
  destMac : List UInt8
  srcMac : List UInt8
  etherType : List UInt8

/-- The header as it lies in memory. -/
def EthernetFrameHeader.bytes (eth : EthernetFrameHeader) : List UInt8 :=
  eth.destMac ++ eth.srcMac ++ eth.etherType

/-- `sizeof(EthernetFrameHeader)`. -/
def sizeofEthernetFrameHeader : Nat := 14

/-- `Wifi_TxHeader`, the header that the hardware reads. -/
structure TxHeader where
  enableFlags : Nat := 0
  clientBits : Nat := 0
  countup : Nat := 0
  beaconfreq : Nat := 0
  txRate : Nat := 0
  txLength : Nat := 0

def TxHeader.bytes (tx : TxHeader) : List UInt8 :=
  halfBytes tx.enableFlags ++ halfBytes tx.clientBits ++ halfBytes tx.countup ++
    halfBytes tx.beaconfreq ++ halfBytes tx.txRate ++ halfBytes tx.txLength

/-- `sizeof(Wifi_TxHeader)`. -/
def sizeofTxHeader : Nat := 12

@[simp] theorem TxHeader.length_bytes (tx : TxHeader) : tx.bytes.length = sizeofTxHeader := rfl

/-- `WIFI_TRANSFER_RATE_1MBPS`. -/
def wifiTransferRate1Mbps : Nat := 0x0A

/-- `WIFI_TRANSFER_RATE_2MBPS`. -/
def wifiTransferRate2Mbps : Nat := 0x14

/-- `IEEE_DataFrameHeader`, and `IEEE_MgtFrameHeader` with its `da`, `sa` and `bssid`. -/
structure IeeeFrameHeader where
  frameControl : Nat
  duration : Nat := 0
  addr1 : MacAddr
  addr2 : MacAddr
  addr3 : MacAddr
  seqCtl : Nat := 0

def IeeeFrameHeader.bytes (ieee : IeeeFrameHeader) : List UInt8 :=
  halfBytes ieee.frameControl ++ halfBytes ieee.duration ++ ieee.addr1.toList ++
    ieee.addr2.toList ++ ieee.addr3.toList ++ halfBytes ieee.seqCtl

/-- `sizeof(IEEE_DataFrameHeader)` and `sizeof(IEEE_MgtFrameHeader)`. -/
def sizeofIeeeDataFrameHeader : Nat := 24

@[simp] theorem IeeeFrameHeader.length_bytes (ieee : IeeeFrameHeader) :
    ieee.bytes.length = sizeofIeeeDataFrameHeader := by
  simp [bytes, sizeofIeeeDataFrameHeader]

/-- `LLC_SNAP_Header` of an Ethernet type. -/
def llcSnapBytes (etherType : Vector UInt8 2) : List UInt8 :=
  [0xAA, 0xAA, 0x03, 0, 0, 0] ++ etherType.toList

/-- `sizeof(LLC_SNAP_Header)`. -/
def sizeofLlcSnapHeader : Nat := 8

@[simp] theorem length_llcSnapBytes (etherType : Vector UInt8 2) :
    (llcSnapBytes etherType).length = sizeofLlcSnapHeader := by
  simp [llcSnapBytes, sizeofLlcSnapHeader]

/-- `sizeof(mbox_hdr_rx_data_packet)`. -/
def sizeofMboxHdrRxDataPacket : Nat := 24

/-- `sizeof(mbox_hdr_tx_data_packet)`. -/
def sizeofMboxHdrTxDataPacket : Nat := 24

/-! ## Requests and tags -/

/-- `WFLAG_REQ_ALLOWCLIENTS`. -/
def wflagReqAllowclients : Nat := 0x40

/-- `WFLAG_REQ_DSI_MODE`. -/
def wflagReqDsiMode : Nat := 0x80

/-- `WFLAG_REQ_LOAD_WFC_KEY`. -/
def wflagReqLoadWfcKey : Nat := 0x100

def wflagSendAsData : Nat := 0x10000000

def wflagSendAsBeacon : Nat := 0x20000000

def wflagSendAsReply : Nat := 0x40000000

def wflagSendAsCmd : Nat := 0x80000000

def wflagSendSizeMask : Nat := 0x0FFFFFFF

/-- The type bits that a size tag can have. -/
def txFlags : List Nat :=
  [0, wflagSendAsData, wflagSendAsBeacon, wflagSendAsReply, wflagSendAsCmd]

end Wifi
