import DsWifi.Connect.Answers
import DsWifi.Connect.PairwiseKey
import DsWifi.Connect.WrappedKey
import DsWifi.Infra.Exchange

/-!
# Agreement with the access point (TWL)

`data_handle_auth` looks neither at the replay counter of a message nor at its MIC. Here it talks to
an access point of 802.11i: each message carries a larger counter, an answer is only taken with the
last counter and the right MIC, and handshakes can be started again at any time. Both directions
lose packets, but keep their order.

* `Link.inv_step` — the invariant of the console, the access point, and what is under way
* `handshake_agrees` — the two agree on the keys
-/

namespace Wifi

open Infra

/-! ## The access point -/

/-- What the console and the access point share. -/
structure Network where
  sha1Hmac (key input : List UInt8) : Vector UInt8 20
  /-- The block cipher of the access point. -/
  enc (kek : List UInt8) : CipherUpdate
  /-- The one of the console. -/
  dec (kek : List UInt8) : CipherUpdate
  pmk : List UInt8
  apMac : MacAddr
  staMac : MacAddr
  decrypts : ∀ kek, Decrypts (dec kek) (enc kek)

/-- The cryptography of the console. -/
def Network.crypto (net : Network) : Crypto := .ofCipher net.sha1Hmac net.dec

/-- How far a handshake has come for the access point. -/
inductive Phase
  | idle
  /-- A message 1/4 with this nonce waits for an answer. -/
  | waiting (nonce : Vector UInt8 32)
  | keyed (ptk : PtkKeyinfo)

/-- The access point. -/
structure Authenticator where
  /-- The replay counter of the last message. -/
  replay : Nat
  phase : Phase
  /-- The last message of the handshake has been taken. -/
  done : Bool

/-- The key that the access point derives from an answer. -/
def Network.derive (net : Network) (nonce : Vector UInt8 32) (a : Answer) : PtkKeyinfo :=
  net.crypto.wpaCalcPtk net.apMac net.staMac nonce.toList a.nonce net.pmk

/-- Both sides derive the same key. -/
theorem Network.derive_eq (net : Network) (nonce : Vector UInt8 32) {a : Answer}
    (hlen : a.nonce.length = 32) : net.derive nonce a =
      net.crypto.wpaCalcPtk net.staMac net.apMac a.nonce nonce.toList net.pmk := by
  let deviceNonce : Vector UInt8 32 := ⟨a.nonce.toArray, hlen⟩
  exact wpaCalcPtk_comm net.crypto net.apMac net.staMac nonce deviceNonce net.pmk

/-- Take an answer with the last counter. -/
def Authenticator.take (net : Network) (ap : Authenticator) (a : Answer) : Option Authenticator :=
  match ap.phase with
  | .idle => none
  | .waiting nonce =>
    if a.keyinfo = 0x010A ∧ a.Verifies net.crypto (net.derive nonce a).kck then
      some { ap with phase := .keyed (net.derive nonce a) }
    else none
  | .keyed ptk =>
    if (a.keyinfo = 0x030A ∨ a.keyinfo = 0x0302) ∧ a.Verifies net.crypto ptk.kck then
      some { ap with done := ap.done || a.keyinfo = 0x030A }
    else none

/-- A message under way to the console. One with keys is kept with what the access point has put
there. -/
inductive Message
  | first (frame : EapolKey)
  | keys (frame : EapolKey) (ptk : PtkKeyinfo) (kde : Element)

namespace Message

def frame : Message → EapolKey
  | .first frame => frame
  | .keys frame _ _ => frame

def replay (m : Message) : Nat := m.frame.replay

/-- A message 1/4. -/
def IsFirst : Message → Prop
  | .first _ => True
  | .keys .. => False

/-- The keys that the console has to hand to the card. -/
def cardKeys (s : Wpa) : Message → List CipherKey
  | .first _ => []
  | .keys frame ptk kde =>
    let gtk := GtkKeyinfo.ofKde kde
    [Wpa.pairwiseKey ptk, s.cipherKey gtk.keyidx 1 gtk.key (some frame.wpaRsc)]

end Message

/-- The key data of a frame is a sequence of elements with one group key, wrapped. -/
def Wraps (enc : CipherUpdate) (kde : Element) (frame : EapolKey) : Prop :=
  ∃ es outSize, es.filter IsGtkKde = [kde] ∧ (elementsBytes es).length ≤ 0x200 ∧
    (nistKwWrap enc .kw (elementsBytes es) outSize).ret = 0 ∧
    frame.body = (nistKwWrap enc .kw (elementsBytes es) outSize).text

/-! ## Both sides -/

/-- The console, the access point, and what is under way between them. -/
structure Link where
  console : Wpa
  ap : Authenticator
  requests : List Message
  answers : List Answer

inductive Event
  /-- The access point starts a handshake, or starts it again. -/
  | start (nonce : Vector UInt8 32) (frame : EapolKey)
  /-- It sends a message 3/4 or a group message. -/
  | sendKeys (kde : Element) (frame : EapolKey)
  /-- The console handles a message. -/
  | handle
  | loseRequest
  /-- An answer reaches the access point. -/
  | receive
  | loseAnswer

namespace Link

variable (net : Network)

/-- A connection: the access point hasn't begun a handshake. -/
def begin (console : Wpa) (replay : Nat) : Link := ⟨console, ⟨replay, .idle, false⟩, [], []⟩

/-- An access point sends what the standard allows. -/
def Legal (l : Link) : Event → Prop
  | .start nonce frame => frame.keyinfo = keyinfoMessage1 ∧ l.ap.replay < frame.replay ∧
      frame.wpaNonce = nonce.toList ∧ frame.devBssid = net.staMac ∧ frame.apBssid = net.apMac
  | .sendKeys kde frame => LoadsKeys frame.keyinfo ∧ l.ap.replay < frame.replay ∧
      ∃ ptk, l.ap.phase = .keyed ptk ∧ Wraps (net.enc ptk.kek) kde frame
  | _ => True

def step (l : Link) : Event → Link
  | .start nonce frame => { l with
      ap := ⟨frame.replay, .waiting nonce, false⟩
      requests := l.requests ++ [.first frame] }
  | .sendKeys kde frame =>
    match l.ap.phase with
    | .keyed ptk => { l with
        ap := { l.ap with replay := frame.replay }
        requests := l.requests ++ [.keys frame ptk kde] }
    | _ => l
  | .handle =>
    match l.requests with
    | [] => l
    | m :: requests => { l with
        console := l.console.dataHandleAuth net.crypto m.frame
        requests
        answers := l.answers ++ Wpa.newAnswers net.crypto l.console m.frame }
  | .loseRequest => { l with requests := l.requests.tail }
  | .receive =>
    match l.answers with
    | [] => l
    | a :: answers =>
      let ap := if a.replay = l.ap.replay then (l.ap.take net a).getD l.ap else l.ap
      { l with ap, answers }
  | .loseAnswer => { l with answers := l.answers.tail }

/-- The console hands the keys of the access point to the card, and the access point takes every
answer with the last counter. -/
def Agrees (l : Link) : Event → Prop
  | .handle => ∀ m ∈ l.requests.head?,
      Wpa.newKeys net.crypto l.console m.frame = m.cardKeys l.console
  | .receive => ∀ a ∈ l.answers.head?, a.replay = l.ap.replay → (l.ap.take net a).isSome
  | _ => True

/-- The pairwise key that the card uses. -/
def pairwise (s : Wpa) : Option CipherKey := (s.cipherKeys.filter (·.keyUsage = 0)).getLast?

/-- When the handshake is done for the access point, the card uses its key. -/
def Settled (l : Link) : Prop :=
  l.ap.done = true → ∃ ptk, l.ap.phase = .keyed ptk ∧
    pairwise l.console = some (Wpa.pairwiseKey ptk)

/-! ## The invariant -/

/-- Messages with keys of this pair, and behind them nothing but messages 1/4. -/
def KeysFirst (ptk : PtkKeyinfo) : List Message → Prop
  | [] => True
  | .keys _ ptk' _ :: ms => ptk' = ptk ∧ KeysFirst ptk ms
  | .first _ :: ms => ∀ m ∈ ms, m.IsFirst

/-- What has been sent. -/
inductive Sent : Message → Prop
  | first {frame : EapolKey} (hinfo : frame.keyinfo = keyinfoMessage1)
      (hdev : frame.devBssid = net.staMac) (hap : frame.apBssid = net.apMac) : Sent (.first frame)
  | keys {frame : EapolKey} {ptk : PtkKeyinfo} {kde : Element} (hinfo : LoadsKeys frame.keyinfo)
      (hwraps : Wraps (net.enc ptk.kek) kde frame) : Sent (.keys frame ptk kde)

/-- The last message goes with how far the access point is. -/
inductive GoesWith : Phase → Message → Prop
  | waiting {nonce : Vector UInt8 32} {frame : EapolKey} (hnonce : frame.wpaNonce = nonce.toList) :
      GoesWith (.waiting nonce) (.first frame)
  | keyed {frame : EapolKey} {ptk : PtkKeyinfo} {kde : Element} :
      GoesWith (.keyed ptk) (.keys frame ptk kde)

/-- The access point takes this answer, and the console has the key for it. -/
inductive Taken (console : Wpa) : Phase → Answer → Prop
  | waiting {nonce : Vector UInt8 32} {a : Answer} (hinfo : a.keyinfo = 0x010A)
      (hptk : console.devicePtk = net.derive nonce a)
      (hmic : a.Verifies net.crypto console.devicePtk.kck) : Taken console (.waiting nonce) a
  | keyed {ptk : PtkKeyinfo} {a : Answer} (hinfo : a.keyinfo = 0x030A ∨ a.keyinfo = 0x0302)
      (hcard : pairwise console = some (Wpa.pairwiseKey ptk))
      (hmic : a.Verifies net.crypto ptk.kck) : Taken console (.keyed ptk) a

/-- The invariant of a connection. -/
structure Inv (l : Link) : Prop where
  wpa2 : l.console.curAp.securityType = .wpa2
  pmk : l.console.curApSecurity.pmk = net.pmk
  numbered : Numbered Message.replay Answer.replay l.ap.replay l.requests l.answers
  sent : ∀ m ∈ l.requests, Sent net m
  keysFirst : KeysFirst l.console.devicePtk l.requests
  /-- While the access point has a key, the console has the same one and keeps it. -/
  keyed : ∀ ptk, l.ap.phase = .keyed ptk →
    l.console.devicePtk = ptk ∧ ∀ m ∈ l.requests, ¬m.IsFirst
  lastRequest : ∀ m ∈ l.requests, m.replay = l.ap.replay → GoesWith l.ap.phase m
  lastAnswer : ∀ a ∈ l.answers, a.replay = l.ap.replay → Taken net l.console l.ap.phase a
  settled : l.Settled

variable {net} {l : Link} {ptk : PtkKeyinfo} {ms : List Message}

theorem Inv.begin {s : Wpa} (hsec : s.curAp.securityType = .wpa2)
    (hpmk : s.curApSecurity.pmk = net.pmk) (replay : Nat) : Inv net (begin s replay) where
  wpa2 := hsec
  pmk := hpmk
  numbered := .nil _ _ _
  sent := nofun
  keysFirst := trivial
  keyed := nofun
  lastRequest := nofun
  lastAnswer := nofun
  settled := nofun

theorem keysFirst_of_forall (h : ∀ m ∈ ms, m.IsFirst) : KeysFirst ptk ms := by
  cases ms with
  | nil => trivial
  | cons m ms =>
    cases m with
    | first frame => exact fun m' hm' => h m' (List.mem_cons_of_mem _ hm')
    | keys frame ptk' kde => exact (h _ (List.mem_cons_self ..)).elim

theorem KeysFirst.tail (h : KeysFirst ptk ms) : KeysFirst ptk ms.tail := by
  cases ms with
  | nil => exact h
  | cons m ms =>
    cases m with
    | first frame => exact keysFirst_of_forall h
    | keys frame ptk' kde => exact h.2

theorem KeysFirst.append_first (h : KeysFirst ptk ms) (frame : EapolKey) :
    KeysFirst ptk (ms ++ [.first frame]) := by
  induction ms with
  | nil => exact fun m hm => nomatch hm
  | cons m ms ih =>
    cases m with
    | first other =>
      intro m' hm'
      rcases List.mem_append.mp hm' with hm' | hm'
      · exact h m' hm'
      · rw [List.mem_singleton.mp hm']
        trivial
    | keys other ptk' kde => exact ⟨h.1, ih h.2⟩

theorem KeysFirst.append_keys (h : KeysFirst ptk ms) (hnone : ∀ m ∈ ms, ¬m.IsFirst)
    (frame : EapolKey) (kde : Element) : KeysFirst ptk (ms ++ [.keys frame ptk kde]) := by
  induction ms with
  | nil => exact ⟨rfl, trivial⟩
  | cons m ms ih =>
    cases m with
    | first other => exact (hnone _ (List.mem_cons_self ..) trivial).elim
    | keys other ptk' kde' =>
      exact ⟨h.1, ih h.2 fun m' hm' => hnone m' (List.mem_cons_of_mem _ hm')⟩

/-! ## What is sent to the console -/

section

variable (h : Inv net l) {new m : Message} (hnew : l.ap.replay < new.replay)
include h hnew

/-- Only the new message goes with its counter. -/
theorem Inv.eq_new (hm : m ∈ l.requests ++ [new]) (hcur : m.replay = new.replay) : m = new := by
  rcases List.mem_append.mp hm with hm | hm
  · have hle := h.numbered.request_le hm
    exact absurd hcur (Nat.ne_of_lt (Nat.lt_of_le_of_lt hle hnew))
  · exact List.mem_singleton.mp hm

theorem Inv.answer_ne {a : Answer} (ha : a ∈ l.answers) : a.replay ≠ new.replay :=
  Nat.ne_of_lt (Nat.lt_of_le_of_lt (h.numbered.answer_le ha) hnew)

/-- A message with a larger counter is sent. -/
theorem Inv.send {phase : Phase} {done : Bool} (hsent : Sent net new)
    (hkeysFirst : KeysFirst l.console.devicePtk (l.requests ++ [new]))
    (hkeyed : ∀ ptk, phase = .keyed ptk →
      l.console.devicePtk = ptk ∧ ∀ m ∈ l.requests ++ [new], ¬m.IsFirst)
    (hgoes : GoesWith phase new)
    (hsettled : Settled { l with ap := ⟨new.replay, phase, done⟩ }) :
    Inv net { l with
      ap := ⟨new.replay, phase, done⟩
      requests := l.requests ++ [new] } where
  wpa2 := h.wpa2
  pmk := h.pmk
  numbered := h.numbered.send hnew
  sent m hm := (List.mem_append.mp hm).elim (h.sent m) fun hm => List.mem_singleton.mp hm ▸ hsent
  keysFirst := hkeysFirst
  keyed := hkeyed
  lastRequest _ hm hcur := h.eq_new hnew hm hcur ▸ hgoes
  lastAnswer _ ha hcur := absurd hcur (h.answer_ne hnew ha)
  settled := hsettled

end

theorem Inv.start (h : Inv net l) {nonce : Vector UInt8 32} {frame : EapolKey}
    (hlegal : Legal net l (.start nonce frame)) : Inv net (step net l (.start nonce frame)) := by
  obtain ⟨hinfo, hreplay, hnonce, hdev, hap⟩ := hlegal
  have hnew : l.ap.replay < (Message.first frame).replay := hreplay
  exact h.send hnew (.first hinfo hdev hap) (h.keysFirst.append_first frame) nofun
    (.waiting hnonce) nofun

theorem step_sendKeys (hphase : l.ap.phase = .keyed ptk) (kde : Element) (frame : EapolKey) :
    step net l (.sendKeys kde frame) = { l with
      ap := { l.ap with replay := frame.replay }
      requests := l.requests ++ [.keys frame ptk kde] } := by
  rw [step, hphase]

theorem Inv.sendKeys (h : Inv net l) {kde : Element} {frame : EapolKey}
    (hlegal : Legal net l (.sendKeys kde frame)) : Inv net (step net l (.sendKeys kde frame)) := by
  obtain ⟨hinfo, hreplay, ptk, hphase, hwraps⟩ := hlegal
  obtain ⟨hptk, hnone⟩ := h.keyed ptk hphase
  have hnew : l.ap.replay < (Message.keys frame ptk kde).replay := hreplay
  rw [step_sendKeys hphase]
  refine h.send hnew (.keys hinfo hwraps) ?_ ?_ (hphase ▸ .keyed) h.settled
  · have hkeys := h.keysFirst
    rw [hptk] at hkeys ⊢
    exact hkeys.append_keys hnone frame kde
  · intro ptk' hphase'
    refine ⟨(h.keyed ptk' hphase').1, fun m hm => ?_⟩
    rcases List.mem_append.mp hm with hm | hm
    · exact hnone m hm
    · rw [List.mem_singleton.mp hm]
      exact id

/-! ## What the console does -/

/-- The console finds the group key of the access point. -/
theorem groupKey_of_wraps {kde : Element} {frame : EapolKey} (s : Wpa)
    (hwraps : Wraps (net.enc ptk.kek) kde frame) :
    Wpa.groupKey net.crypto s ptk frame = s.cipherKey (GtkKeyinfo.ofKde kde).keyidx 1
      (GtkKeyinfo.ofKde kde).key (some frame.wpaRsc) := by
  obtain ⟨es, outSize, hkdes, hlen, hret, hbody⟩ := hwraps
  have hgtk : net.crypto.wpaDecryptGtk ptk.kek frame.body frame.stack = .ofKde kde := by
    rw [hbody, Network.crypto,
      wpaDecryptGtk_wrapped net.sha1Hmac ptk.kek (net.decrypts ptk.kek) es hret hlen]
    rw [GtkKeyinfo.ofElements, hkdes]
    rfl
  rw [Wpa.groupKey, hgtk]

/-- The last pairwise key is the one that a frame has loaded. -/
theorem pairwise_loaded {s s' : Wpa} {frame : EapolKey}
    (hkeys : s'.cipherKeys = s.cipherKeys ++
      [Wpa.pairwiseKey s.devicePtk, Wpa.groupKey net.crypto s s.devicePtk frame]) :
    pairwise s' = some (Wpa.pairwiseKey s.devicePtk) := by
  have hloaded : ([Wpa.pairwiseKey s.devicePtk, Wpa.groupKey net.crypto s s.devicePtk frame].filter
      fun key => key.keyUsage = 0) = [Wpa.pairwiseKey s.devicePtk] := rfl
  rw [pairwise, hkeys, List.filter_append, hloaded, List.getLast?_concat]

section

variable (h : Inv net l) {m : Message} {requests : List Message}
  (hrequests : l.requests = m :: requests)
include h hrequests

/-- A message is handled: what the console answers, and what it has then. -/
theorem Inv.handled {a : Answer}
    (hanswer : Wpa.newAnswers net.crypto l.console m.frame = [a]) (hreplay : a.replay = m.replay)
    (hkeysFirst : KeysFirst (l.console.dataHandleAuth net.crypto m.frame).devicePtk requests)
    (hkeyed : ∀ ptk, l.ap.phase = .keyed ptk →
      (l.console.dataHandleAuth net.crypto m.frame).devicePtk = ptk)
    (htaken : GoesWith l.ap.phase m →
      Taken net (l.console.dataHandleAuth net.crypto m.frame) l.ap.phase a)
    (hsettled : l.ap.done = true → ∃ ptk, l.ap.phase = .keyed ptk ∧
      pairwise (l.console.dataHandleAuth net.crypto m.frame) = some (Wpa.pairwiseKey ptk)) :
    Inv net (step net l .handle) := by
  have hconfig := Wpa.dataHandleAuth_sameConfig net.crypto l.console m.frame
  have hstep : step net l .handle = { l with
      console := l.console.dataHandleAuth net.crypto m.frame
      requests
      answers := l.answers ++ [a] } := by
    rw [step, hrequests, ← hanswer]
  have hmem (m' : Message) (hm' : m' ∈ requests) : m' ∈ l.requests :=
    hrequests ▸ List.mem_cons_of_mem _ hm'
  have hhead : m ∈ l.requests := hrequests ▸ List.mem_cons_self ..
  rw [hstep]
  exact {
    wpa2 := hconfig.curAp ▸ h.wpa2
    pmk := hconfig.curApSecurity ▸ h.pmk
    numbered := (hrequests ▸ h.numbered).answer hreplay
    sent := fun m' hm' => h.sent m' (hmem m' hm')
    keysFirst := hkeysFirst
    keyed := fun ptk hphase =>
      ⟨hkeyed ptk hphase, fun m' hm' => (h.keyed ptk hphase).2 m' (hmem m' hm')⟩
    lastRequest := fun m' hm' => h.lastRequest m' (hmem m' hm')
    lastAnswer := by
      intro a' ha' hcur
      rcases List.mem_append.mp ha' with ha' | ha'
      · -- What has been answered before is older than this message.
        exact absurd hcur (Nat.ne_of_lt (h.numbered.answer_lt ha' hhead))
      · rw [List.mem_singleton.mp ha'] at hcur ⊢
        exact htaken (h.lastRequest m hhead (hreplay.symm.trans hcur))
    settled := hsettled }

end

theorem Inv.handle_first (h : Inv net l) {frame : EapolKey} {requests : List Message}
    (hrequests : l.requests = .first frame :: requests) : Inv net (step net l .handle) := by
  have hmem : Message.first frame ∈ l.requests := hrequests ▸ List.mem_cons_self ..
  have hunkeyed (ptk : PtkKeyinfo) : l.ap.phase ≠ .keyed ptk := fun hphase =>
    (h.keyed ptk hphase).2 _ hmem trivial
  have hkeysFirst : ∀ m ∈ requests, m.IsFirst := by
    have hkeys := h.keysFirst
    rwa [hrequests] at hkeys
  cases h.sent _ hmem with
  | first hinfo hdev hap =>
    have hanswer := Wpa.newAnswers_message1 net.crypto l.console hinfo
    refine h.handled hrequests hanswer rfl (keysFirst_of_forall hkeysFirst)
      (fun ptk hphase => absurd hphase (hunkeyed ptk)) ?_ ?_
    · intro hgoes
      cases hphase : l.ap.phase with
      | idle => rw [hphase] at hgoes; nomatch hgoes
      | keyed ptk => exact absurd hphase (hunkeyed ptk)
      | waiting nonce =>
        rw [hphase] at hgoes
        cases hgoes with
        | waiting hnonce =>
          refine .waiting rfl ?_ (Crypto.verifies_answer _ _ _ _ _ _)
          rw [net.derive_eq nonce (Wpa.length_deviceNonce net.crypto l.console hinfo)]
          cases Wpa.dataHandleAuth_handles net.crypto h.wpa2 frame with
          | answered _ hptk =>
            rw [hdev, hap, hnonce, h.pmk] at hptk
            exact hptk
          | loaded hload => exact absurd (hinfo ▸ hload) not_loadsKeys_message1
          | ignored hne => exact absurd hinfo hne
    · intro hdone
      obtain ⟨ptk, hphase, -⟩ := h.settled hdone
      exact absurd hphase (hunkeyed ptk)

theorem Inv.handle_keys (h : Inv net l) {frame : EapolKey} {kde : Element}
    {requests : List Message} (hrequests : l.requests = .keys frame ptk kde :: requests) :
    Inv net (step net l .handle) := by
  have hmem : Message.keys frame ptk kde ∈ l.requests := hrequests ▸ List.mem_cons_self ..
  obtain ⟨hptk, hkeysFirst⟩ : ptk = l.console.devicePtk ∧
      KeysFirst l.console.devicePtk requests := by
    have hkeys := h.keysFirst
    rwa [hrequests] at hkeys
  cases h.sent _ hmem with
  | keys hinfo hwraps =>
    have hanswer := Wpa.newAnswers_loads net.crypto l.console hinfo
    cases Wpa.dataHandleAuth_handles net.crypto h.wpa2 frame with
    | answered hfirst => exact absurd (hfirst ▸ hinfo) not_loadsKeys_message1
    | ignored _ hother => exact absurd hinfo hother
    | loaded _ hsame _ _ hkeys =>
      have hcard := pairwise_loaded hkeys
      refine h.handled hrequests hanswer rfl (hsame ▸ hkeysFirst)
        (fun ptk' hphase => hsame.trans (h.keyed ptk' hphase).1) ?_ ?_
      · intro hgoes
        cases hphase : l.ap.phase with
        | idle => rw [hphase] at hgoes; nomatch hgoes
        | waiting nonce => rw [hphase] at hgoes; nomatch hgoes
        | keyed ptk' =>
          obtain ⟨hptk', -⟩ := h.keyed ptk' hphase
          refine .keyed ?_ (hptk' ▸ hcard) (hptk' ▸ Crypto.verifies_answer _ _ _ _ _ _)
          dsimp only [Crypto.answer]
          split
          · exact .inl rfl
          · exact .inr rfl
      · intro hdone
        obtain ⟨ptk', hphase, -⟩ := h.settled hdone
        exact ⟨ptk', hphase, (h.keyed ptk' hphase).1 ▸ hcard⟩

theorem Inv.handle (h : Inv net l) : Inv net (step net l .handle) := by
  cases hrequests : l.requests with
  | nil =>
    have hstep : step net l .handle = l := by rw [step, hrequests]
    exact hstep.symm ▸ h
  | cons m requests =>
    cases m with
    | first frame => exact h.handle_first hrequests
    | keys frame ptk kde => exact h.handle_keys hrequests

/-- **The console hands the keys of the access point to the card.** -/
theorem Inv.agrees_handle (h : Inv net l) : Agrees net l .handle := by
  intro m hm
  have hmem := List.mem_of_mem_head? hm
  cases h.sent m hmem with
  | @first frame hinfo hdev hap =>
    unfold Wpa.newKeys
    cases Wpa.dataHandleAuth_handles net.crypto h.wpa2 frame with
    | answered _ _ _ _ hkeys => exact hkeys ▸ List.drop_length
    | loaded hload => exact absurd (hinfo ▸ hload) not_loadsKeys_message1
    | ignored hne => exact absurd hinfo hne
  | @keys frame ptk kde hinfo hwraps =>
    obtain ⟨requests, hrequests⟩ := List.head?_eq_some_iff.mp hm
    have hptk : ptk = l.console.devicePtk := by
      have hkeys := h.keysFirst
      rw [hrequests] at hkeys
      exact hkeys.1
    have hnew : Wpa.newKeys net.crypto l.console frame = [Wpa.pairwiseKey l.console.devicePtk,
        Wpa.groupKey net.crypto l.console l.console.devicePtk frame] :=
      Wpa.newKeys_of_loads h.wpa2 hinfo
    rw [← hptk, groupKey_of_wraps l.console hwraps] at hnew
    exact hnew

/-! ## What the access point does -/

/-- Whether an answer has been taken or not, only the access point is another, and nothing has the
last counter any more. -/
theorem Inv.received (h : Inv net l) {phase : Phase} {done : Bool}
    (hnone : l.requests = []) (hkeyed : ∀ ptk, phase = .keyed ptk → l.console.devicePtk = ptk)
    (hsettled : done = true → ∃ ptk, phase = .keyed ptk ∧
      pairwise l.console = some (Wpa.pairwiseKey ptk)) :
    Inv net { l with
      ap := ⟨l.ap.replay, phase, done⟩
      answers := [] } where
  wpa2 := h.wpa2
  pmk := h.pmk
  numbered := hnone ▸ .nil _ _ _
  sent := h.sent
  keysFirst := h.keysFirst
  keyed ptk hphase := ⟨hkeyed ptk hphase, fun _ hm => nomatch hnone ▸ hm⟩
  lastRequest _ hm := nomatch hnone ▸ hm
  lastAnswer := nofun
  settled := hsettled

/-- An answer is lost. -/
theorem Inv.drop_answer (h : Inv net l) : Inv net { l with answers := l.answers.tail } where
  wpa2 := h.wpa2
  pmk := h.pmk
  numbered := by
    have hnumbered := h.numbered
    revert hnumbered
    cases l.answers with
    | nil => exact id
    | cons a answers => exact Numbered.lose_answer
  sent := h.sent
  keysFirst := h.keysFirst
  keyed := h.keyed
  lastRequest := h.lastRequest
  lastAnswer a ha := h.lastAnswer a (List.mem_of_mem_tail ha)
  settled := h.settled

/-- A message is lost. -/
theorem Inv.drop_request (h : Inv net l) : Inv net { l with requests := l.requests.tail } where
  wpa2 := h.wpa2
  pmk := h.pmk
  numbered := by
    have hnumbered := h.numbered
    revert hnumbered
    cases l.requests with
    | nil => exact id
    | cons m requests => exact Numbered.lose_request
  sent m hm := h.sent m (List.mem_of_mem_tail hm)
  keysFirst := h.keysFirst.tail
  keyed ptk hphase :=
    ⟨(h.keyed ptk hphase).1, fun m hm => (h.keyed ptk hphase).2 m (List.mem_of_mem_tail hm)⟩
  lastRequest m hm := h.lastRequest m (List.mem_of_mem_tail hm)
  lastAnswer := h.lastAnswer
  settled := h.settled

/-- What the access point has after it has taken an answer. -/
theorem Inv.take (h : Inv net l) {a : Answer} (htaken : Taken net l.console l.ap.phase a)
    (hnone : l.requests = []) : ∃ ap, l.ap.take net a = some ap ∧ ap.replay = l.ap.replay ∧
      (∃ ptk, ap.phase = .keyed ptk) ∧ (a.keyinfo = 0x030A → ap.done = true) ∧
      Inv net { l with
        ap
        answers := [] } := by
  obtain ⟨console, ⟨replay, phase, done⟩, requests, answers⟩ := l
  cases htaken with
  | @waiting nonce _ hinfo hptk hmic =>
    refine ⟨_, if_pos ⟨hinfo, hptk ▸ hmic⟩, rfl, ⟨_, rfl⟩, ?_, h.received hnone ?_ ?_⟩
    · intro hthird
      exact absurd (hinfo.symm.trans hthird) (by decide)
    · rintro _ ⟨⟩
      exact hptk
    · intro hdone
      obtain ⟨ptk, hphase, -⟩ := h.settled hdone
      nomatch hphase
  | @keyed ptk _ hinfo hcard hmic =>
    refine ⟨_, if_pos ⟨hinfo, hmic⟩, rfl, ⟨ptk, rfl⟩, ?_, h.received hnone ?_
      fun _ => ⟨ptk, rfl, hcard⟩⟩
    · intro hthird
      simp [hthird]
    · exact fun ptk' hphase => (h.keyed ptk' hphase).1

/-- An answer with the last counter is taken, and is all that is under way. -/
theorem Inv.current (h : Inv net l) {a : Answer} {answers : List Answer}
    (hanswers : l.answers = a :: answers) (hcur : a.replay = l.ap.replay) :
    Taken net l.console l.ap.phase a ∧ l.requests = [] ∧ answers = [] :=
  ⟨h.lastAnswer a (hanswers ▸ List.mem_cons_self ..) hcur, (hanswers ▸ h.numbered).current hcur⟩

/-- **The access point takes every answer with the last counter.** -/
theorem Inv.agrees_receive (h : Inv net l) : Agrees net l .receive := by
  intro a ha hcur
  obtain ⟨answers, hanswers⟩ := List.head?_eq_some_iff.mp ha
  obtain ⟨htaken, hnone, -⟩ := h.current hanswers hcur
  obtain ⟨ap, hap, -⟩ := h.take htaken hnone
  exact hap ▸ rfl

/-- The answer with the last counter arrives. -/
theorem Inv.receive_current (h : Inv net l) {a : Answer} {answers : List Answer}
    (hanswers : l.answers = a :: answers) (hcur : a.replay = l.ap.replay) :
    Inv net (step net l .receive) ∧ (step net l .receive).requests = [] ∧
      (step net l .receive).answers = [] ∧ (step net l .receive).ap.replay = l.ap.replay ∧
      (∃ ptk, (step net l .receive).ap.phase = .keyed ptk) ∧
      (a.keyinfo = 0x030A → (step net l .receive).ap.done = true) := by
  obtain ⟨htaken, hnone, rfl⟩ := h.current hanswers hcur
  obtain ⟨ap, hap, hreplay, hphase, hdone, hinv⟩ := h.take htaken hnone
  have hstep : step net l .receive = { l with
      ap
      answers := [] } := by
    rw [step, hanswers]
    dsimp only
    rw [if_pos hcur, hap]
    rfl
  rw [hstep]
  exact ⟨hinv, hnone, rfl, hreplay, hphase, hdone⟩

theorem Inv.receive (h : Inv net l) : Inv net (step net l .receive) := by
  cases hanswers : l.answers with
  | nil =>
    have hstep : step net l .receive = l := by rw [step, hanswers]
    exact hstep.symm ▸ h
  | cons a answers =>
    by_cases hcur : a.replay = l.ap.replay
    · exact (h.receive_current hanswers hcur).1
    · have hstep : step net l .receive = { l with answers := l.answers.tail } := by
        rw [step, hanswers]
        dsimp only
        rw [if_neg hcur]
        rfl
      exact hstep.symm ▸ h.drop_answer

/-! ## All steps -/

/-- **A step of either side, or a loss, keeps the invariant.** -/
theorem inv_step (l : Link) (e : Event) (h : Inv net l) (hlegal : Legal net l e) :
    Inv net (step net l e) := by
  cases e with
  | start nonce frame => exact h.start hlegal
  | sendKeys kde frame => exact h.sendKeys hlegal
  | handle => exact h.handle
  | loseRequest => exact h.drop_request
  | receive => exact h.receive
  | loseAnswer => exact h.drop_answer

theorem Inv.agrees (h : Inv net l) (e : Event) : Agrees net l e := by
  cases e with
  | handle => exact h.agrees_handle
  | receive => exact h.agrees_receive
  | _ => trivial

/-- **The console and the access point agree**, whatever is lost and however often a handshake is
started: the card gets the keys of the access point, no answer with the last counter is refused, and
when the handshake is done, the card uses the key of the access point. -/
theorem handshake_agrees (net : Network) {s : Wpa} (hconnects : Wpa.Connects s)
    (hpmk : s.curApSecurity.pmk = net.pmk) (replay : Nat) {es : List Event}
    (hlegal : Along (step net) (Legal net) (begin s replay) es) :
    Along (step net) (Agrees net) (begin s replay) es ∧
      (run (step net) (begin s replay) es).Settled := by
  have hbegin : Inv net (begin s replay) := .begin hconnects.cleared.1 hpmk replay
  have hstep (l : Link) (e : Event) : Inv net l → Legal net l e → Inv net (step net l e) :=
    inv_step l e
  exact ⟨hlegal.of_inv (Inv net) hstep (fun _ e h _ => h.agrees e) hbegin,
    (hlegal.inv (Inv net) hstep hbegin).settled⟩

/-! ## A handshake without losses -/

/-- Nothing is under way. -/
def Idle (l : Link) : Prop := l.requests = [] ∧ l.answers = []

theorem idle_begin (s : Wpa) (replay : Nat) : (begin s replay).Idle := ⟨rfl, rfl⟩

/-- Every message is answered. -/
theorem Sent.newAnswers {m : Message} (h : Sent net m) (s : Wpa) :
    ∃ a, Wpa.newAnswers net.crypto s m.frame = [a] ∧ a.replay = m.replay ∧
      (m.frame.keyinfo = keyinfoMessage3 → a.keyinfo = 0x030A) := by
  cases h with
  | first hinfo =>
    refine ⟨_, Wpa.newAnswers_message1 net.crypto s hinfo, rfl, fun hthird => ?_⟩
    exact absurd (hinfo.symm.trans hthird) (by decide)
  | keys hinfo hwraps =>
    exact ⟨_, Wpa.newAnswers_loads net.crypto s hinfo, rfl, fun hthird => if_pos hthird⟩

/-- A message and its answer arrive. -/
theorem Inv.exchange (h : Inv net l) {m : Message} (hrequests : l.requests = [m])
    (hanswers : l.answers = []) (hcur : m.replay = l.ap.replay) :
    Inv net (run (step net) l [.handle, .receive]) ∧
      Idle (run (step net) l [.handle, .receive]) ∧
      (run (step net) l [.handle, .receive]).ap.replay = l.ap.replay ∧
      (∃ ptk, (run (step net) l [.handle, .receive]).ap.phase = .keyed ptk) ∧
      (m.frame.keyinfo = keyinfoMessage3 →
        (run (step net) l [.handle, .receive]).ap.done = true) := by
  obtain ⟨a, hanswer, hreplay, hkeyinfo⟩ :=
    (h.sent m (hrequests ▸ List.mem_singleton_self m)).newAnswers l.console
  have hstep : step net l .handle = { l with
      console := l.console.dataHandleAuth net.crypto m.frame
      requests := []
      answers := [a] } := by
    rw [step, hrequests]
    dsimp only
    rw [hanswers, hanswer]
    rfl
  have hhandled := h.handle
  have hone : (step net l .handle).answers = [a] := by rw [hstep]
  have hlast : a.replay = (step net l .handle).ap.replay := by
    rw [hstep]
    exact hreplay.trans hcur
  obtain ⟨hinv, hnoRequest, hnoAnswer, hsame, hphase, hdone⟩ := hhandled.receive_current hone hlast
  have hkept : (step net l .handle).ap.replay = l.ap.replay := by rw [hstep]
  exact ⟨hinv, ⟨hnoRequest, hnoAnswer⟩, hsame.trans hkept, hphase,
    fun hthird => hdone (hkeyinfo hthird)⟩

/-- Message 1/4, message 3/4, and their answers. -/
def handshake (nonce : Vector UInt8 32) (frame₁ : EapolKey) (kde : Element) (frame₃ : EapolKey) :
    List Event :=
  [.start nonce frame₁, .handle, .receive, .sendKeys kde frame₃, .handle, .receive]

/-- The first half of the handshake ends with a key. -/
theorem Inv.keyed_of_start (h : Inv net l) (hidle : l.Idle) {nonce : Vector UInt8 32}
    {frame : EapolKey} (hlegal : Legal net l (.start nonce frame)) :
    Inv net (run (step net) l [.start nonce frame, .handle, .receive]) ∧
      (run (step net) l [.start nonce frame, .handle, .receive]).Idle ∧
      (run (step net) l [.start nonce frame, .handle, .receive]).ap.replay = frame.replay ∧
      ∃ ptk, (run (step net) l [.start nonce frame, .handle, .receive]).ap.phase = .keyed ptk := by
  have hrequests : (step net l (.start nonce frame)).requests = [.first frame] :=
    congrArg (· ++ [Message.first frame]) hidle.1
  obtain ⟨hinv, hidle', hreplay, hphase, -⟩ :=
    (h.start hlegal).exchange hrequests hidle.2 rfl
  exact ⟨hinv, hidle', hreplay, hphase⟩

/-- The second half ends the handshake. -/
theorem Inv.done_of_message3 (h : Inv net l) (hidle : l.Idle) {kde : Element} {frame : EapolKey}
    (hlegal : Legal net l (.sendKeys kde frame)) (hthird : frame.keyinfo = keyinfoMessage3) :
    Inv net (run (step net) l [.sendKeys kde frame, .handle, .receive]) ∧
      (run (step net) l [.sendKeys kde frame, .handle, .receive]).ap.done = true := by
  have hsent := h.sendKeys hlegal
  obtain ⟨-, -, ptk, hphase, -⟩ := hlegal
  have hstep : step net l (.sendKeys kde frame) = _ := step_sendKeys hphase kde frame
  have hrequests : (step net l (.sendKeys kde frame)).requests = [.keys frame ptk kde] := by
    rw [hstep]
    exact congrArg (· ++ [Message.keys frame ptk kde]) hidle.1
  have hanswers : (step net l (.sendKeys kde frame)).answers = [] := by
    rw [hstep]
    exact hidle.2
  have hcur : frame.replay = (step net l (.sendKeys kde frame)).ap.replay := by rw [hstep]
  obtain ⟨hinv, -, -, -, hdone⟩ := hsent.exchange hrequests hanswers hcur
  exact ⟨hinv, hdone hthird⟩

/-- **Without losses a handshake succeeds**, whatever has happened before. -/
theorem handshake_completes (net : Network) {s : Wpa} (hconnects : Wpa.Connects s)
    (hpmk : s.curApSecurity.pmk = net.pmk) (replay : Nat) (es : List Event)
    (hidle : (run (step net) (begin s replay) es).Idle) {nonce : Vector UInt8 32}
    {frame₁ frame₃ : EapolKey} {kde : Element} (hthird : frame₃.keyinfo = keyinfoMessage3)
    (hlegal : Along (step net) (Legal net) (begin s replay)
      (es ++ handshake nonce frame₁ kde frame₃)) :
    (run (step net) (begin s replay) (es ++ handshake nonce frame₁ kde frame₃)).ap.done = true := by
  have hbegin : Inv net (begin s replay) := .begin hconnects.cleared.1 hpmk replay
  obtain ⟨hbefore, hafter⟩ := (along_append _ _).mp hlegal
  have hinv := hbefore.inv (Inv net) inv_step hbegin
  obtain ⟨hkeyed, hidle', -⟩ := hinv.keyed_of_start hidle hafter.1
  have hdone := hkeyed.done_of_message3 hidle' hafter.2.2.2.1 hthird
  rw [run_append]
  exact hdone.2

end Link

end Wifi
