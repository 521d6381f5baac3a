import DsWifi.Common.Spinlock
import DsWifi.Common.Alloc
import DsWifi.Infra.Run
import DsWifi.Rx.Fifo
import DsWifi.Rx.Lwip
import DsWifi.Rx.Ethernet
import DsWifi.Rx.OwnBytes
import DsWifi.Rx.Traversal
import DsWifi.Tx.Tags
import DsWifi.Tx.Reply
import DsWifi.Tx.Transfers
import DsWifi.Tx.Sizes
import DsWifi.Connect.ApList
import DsWifi.Connect.FindAp
import DsWifi.Connect.Association
import DsWifi.Connect.Loss
import DsWifi.Connect.Modes
import DsWifi.Connect.Station
import DsWifi.Connect.Attempt
import DsWifi.Connect.Handshake
import DsWifi.Connect.Retry
import DsWifi.Host.HostBit
import DsWifi.Host.Packets
import DsWifi.Host.Deauth
import DsWifi.Host.Lobby
import DsWifi.Host.Players
import DsWifi.Host.Session
import DsWifi.Host.Sizes
import DsWifi.Host.AssocRequest
import DsWifi.Host.Payload
import DsWifi.Host.Rates
import DsWifi.Beacon.RoundTrip
import DsWifi.Beacon.Suites
import DsWifi.Connect.PairwiseKey
import DsWifi.Wfc.Settings
import DsWifi.Card.BssInfo
import DsWifi.Card.ConnectCmd
import DsWifi.Card.Scan
import DsWifi.Connect.AutoConnect
import DsWifi.Beacon.HostName
import DsWifi.Card.Mailbox
import DsWifi.Connect.GroupKey
import DsWifi.Common.Random
import DsWifi.Connect.Timers
import DsWifi.Lwip.HostName
import DsWifi.Lwip.Mailbox
import DsWifi.Lwip.Pbuf
import DsWifi.Tx.OneFrame
import DsWifi.Tx.Stats
import DsWifi.Card.MailboxOut
import DsWifi.Infra.Counters
import DsWifi.Infra.RingQueue
import DsWifi.Infra.Undo
import DsWifi.Infra.BigEndian
import DsWifi.Infra.BlockHash
import DsWifi.Infra.Exchange
import DsWifi.Infra.Interrupt
import DsWifi.Crypto.Bytes
import DsWifi.Crypto.KeyWrap
import DsWifi.Crypto.Sha1
import DsWifi.Crypto.Hmac
import DsWifi.Connect.WrappedKey
import DsWifi.Connect.Answers
import DsWifi.Connect.Agreement
import DsWifi.Rx.Interrupt
import DsWifi.Lwip.Threads
import DsWifi.Connect.Lifetime
import DsWifi.Infra.ByteField
import DsWifi.Infra.RoundCipher
import DsWifi.Crypto.Rijndael
import DsWifi.Crypto.AesTables
import DsWifi.Crypto.Aes
import DsWifi.Crypto.Cipher
import DsWifi.Connect.StandardAp
import DsWifi.Crypto.BufferAlloc
import DsWifi.Crypto.BufferBlocks
import DsWifi.Crypto.BufferFree
import DsWifi.Crypto.BufferRuns
import DsWifi.Crypto.WpaHeap
