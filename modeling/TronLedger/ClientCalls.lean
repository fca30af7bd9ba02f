import TronLedger.Client
import TronLedger.Consent
import TronLedger.PersonalMessage

/-!
# The other calls of the client

The calls of `tron_command_sender.py` that are one APDU, and what
`tron_response_unpacker.py` makes of a public key.

* `ClientCall.request` is what a call asks the user for.
* `clientCall_served`: the device asks for it, and puts out what the answer is.
* `getPublicKey_unpacked`: a client reads the key of its path, and its address.
-/

namespace TronLedger

/-- A call, and its arguments but the path. -/
inductive ClientCall
  | getPublicKey (confirm chaincode : Bool)
  | signHash (hashToSign : Bytes)
  | signPersonalMessage (message : Bytes)
  | signTip712 (domainHash messageHash : Bytes)
  | getEcdhSecret (pubkey : Bytes)
  deriving DecidableEq

namespace ClientCall

def ins : ClientCall → UInt8
  | getPublicKey _ _ => Ins.getPublicKey
  | signHash _ => Ins.signTxnHash
  | signPersonalMessage _ => Ins.signPersonalMessage
  | signTip712 _ _ => Ins.signTip712Message
  | getEcdhSecret _ => Ins.getEcdhSecret

def p1 : ClientCall → UInt8
  | getPublicKey true _ => 0x01
  | _ => 0x00

def p2 : ClientCall → UInt8
  | getPublicKey _ true | getEcdhSecret _ => 0x01
  | _ => 0x00

/-- The data behind the packed path. -/
def arguments : ClientCall → Bytes
  | getPublicKey _ _ => []
  | signHash hashToSign => hashToSign
  | signPersonalMessage message => beBytes 4 message.length ++ message
  | signTip712 domainHash messageHash => domainHash ++ messageHash
  | getEcdhSecret pubkey => pubkey

/-- What `exchange` sends. -/
def command (call : ClientCall) (path : Bytes) (short : (path ++ call.arguments).length < 256) : Command :=
  ⟨Ins.cla, call.ins, call.p1, call.p2, path ++ call.arguments, short⟩

/-- Hashes of 32 bytes, and an uncompressed point. -/
def WellFormed : ClientCall → Prop
  | getPublicKey _ _ | signPersonalMessage _ => True
  | signHash hashToSign => hashToSign.length = 32
  | signTip712 domainHash messageHash => domainHash.length = 32 ∧ messageHash.length = 32
  | getEcdhSecret pubkey => pubkey.length = 65

/-- It needs the setting "sign by hash". -/
def isBlind : ClientCall → Bool
  | signHash _ | signPersonalMessage _ | signTip712 _ _ => true
  | getPublicKey _ _ | getEcdhSecret _ => false

/-- What a call asks the user for; `digest` is Keccak, `context` the key at `words` with its address. -/
def request (digest : Bytes → Buf 32) (words : Bip32Path) (context : PublicKeyContext) : ClientCall → Request
  | getPublicKey _ chaincode => .address { context with getChaincode := chaincode }
  | signHash hashToSign => .sign words (Buf.ofBytes 32 hashToSign)
  | signPersonalMessage message => .sign words (digest (signMagic ++ decimal message.length ++ message))
  | signTip712 domainHash messageHash => .typed words (Buf.ofBytes 32 domainHash) (Buf.ofBytes 32 messageHash)
  | getEcdhSecret pubkey => .secret words (Buf.ofBytes 65 pubkey)

end ClientCall

section Device

variable {σ κ : Type} (sdk : Sdk σ κ) {w : World σ κ} {path : Bytes} {words : Bip32Path} {publicKey : Buf 65}
  {chainCode : Buf 32}

/-- A packed path is read in front of anything. -/
theorem PathGrammar.read (grammar : PathGrammar path words []) (behind : Bytes) (old : Bip32Path) :
    readBip32Path (path ++ behind) old = (words, some path.length) := by
  have size : path.length = 1 + 4 * words.length := by
    rw [grammar.shape, List.append_nil, List.length_cons, words_length]
    omega
  refine (readBip32Path_iff _ _ _ _).mpr ⟨behind, ⟨grammar.least, grammar.most, grammar.tron, ?_⟩, size⟩
  rw [grammar.shape, List.append_nil, List.cons_append]

/-- A plain review asks for what its globals hold. -/
theorem uxFlowDisplay_asks {state : ApprovalState} {q : Request} (running : w.app.exited = false)
    (notAddress : state ≠ .verifyAddress) (notVote : state ≠ .witnessVoteTransaction)
    (asked : w.app.requested state = q) : (uxFlowDisplay sdk state false w).Asks q := by
  obtain ⟨infos, prepared, -, -⟩ := prepareTxInfos_ready state false w.app.txContent.contractType
    (w.shownUi sdk state) (fun vote => absurd vote notVote)
  subst asked
  simp only [World.shownUi] at prepared
  simp only [uxFlowDisplay, if_neg notAddress, World.setUi, prepared]
  exact ⟨by cases state <;> rfl, running⟩

theorem personalFinalise_asks (running : w.app.exited = false)
    (key : sdk.derivePublicKey w.app.transactionContext.bip32Path = some (publicKey, chainCode)) :
    (personalFinalise sdk w).Asks
      (.sign w.app.transactionContext.bip32Path (sdk.keccak256.last w.app.personalMsgCtx.sha3).1) := by
  have derived (context : PublicKeyContext) (out : Buf 40) :
      initPublicKeyContext sdk w.app.transactionContext.bip32Path context out =
        some ({ context with publicKey := publicKey, chainCode := chainCode },
          getBase58FromPublicKey sdk publicKey.bytes out) := by
    rw [initPublicKeyContext, key]
  unfold personalFinalise
  dsimp only
  split
  · rename_i failed
    exact absurd (failed.symm.trans (derived _ _)) (by simp)
  · exact uxFlowDisplay_asks sdk running (by decide) (by decide) rfl

/-- All the bytes that were announced. -/
theorem personalChunk_asks (running : w.app.exited = false)
    (key : sdk.derivePublicKey w.app.transactionContext.bip32Path = some (publicKey, chainCode))
    {digest : Bytes → Buf 32} (ok : sdk.keccak256.Correct digest) {message : Bytes} (before : List Bytes)
    (hashed : w.app.personalMsgCtx.sha3 = sdk.keccak256.absorb before)
    (announced : w.app.txContent.dataBytes = UInt64.ofNat message.length) :
    (personalChunk sdk message w).Asks
      (.sign w.app.transactionContext.bip32Path (digest (before.flatten ++ message))) := by
  have fits : ¬w.app.txContent.dataBytes < UInt64.ofNat message.length := by
    rw [announced]
    exact UInt64.lt_irrefl _
  have done : w.app.txContent.dataBytes - UInt64.ofNat message.length = 0 := by
    rw [announced]
    exact UInt64.sub_self _
  have hash : (sdk.keccak256.last (sdk.keccak256.update w.app.personalMsgCtx.sha3 message)).1 =
      digest (before.flatten ++ message) := by
    rw [hashed, ← StreamHash.absorb_snoc, ok, List.flatten_append, List.flatten_singleton]
  rw [personalChunk, if_neg fits, ← hash]
  dsimp only
  rw [if_pos (by exact done)]
  exact personalFinalise_asks sdk running key

section Handlers

variable (running : w.app.exited = false) (grammar : PathGrammar path words [])
  (key : sdk.derivePublicKey words = some (publicKey, chainCode))

include running grammar key

theorem handleSignByHash_asks (on : w.app.settings.signByHash = true) {hashToSign : Bytes}
    (whole : hashToSign.length = 32) :
    (handleSignByHash sdk 0 0 (path ++ hashToSign) w).Asks (.sign words (Buf.ofBytes 32 hashToSign)) := by
  simp only [handleSignByHash, grammar.read, on, initPublicKeyContext, key, List.drop_left, whole, ne_eq,
    not_true_eq_false, or_self, if_false, Bool.not_true, Bool.false_eq_true]
  exact uxFlowDisplay_asks sdk running (by decide) (by decide) rfl

theorem handleECDHSecret_asks {pubkey : Bytes} (whole : pubkey.length = 65) :
    (handleECDHSecret sdk 0 1 (path ++ pubkey) w).Asks (.secret words (Buf.ofBytes 65 pubkey)) := by
  simp only [handleECDHSecret, grammar.read, initPublicKeyContext, key, List.drop_left, whole, ne_eq,
    not_true_eq_false, or_self, if_false]
  exact uxFlowDisplay_asks sdk running (by decide) (by decide) rfl

theorem handleSignPersonalMessage_asks {digest : Bytes → Buf 32} (ok : sdk.keccak256.Correct digest)
    (on : w.app.settings.signByHash = true) {message : Bytes} (short : message.length < 2 ^ 31) :
    (handleSignPersonalMessage sdk 0 0 (path ++ (beBytes 4 message.length ++ message)) w).Asks
      (.sign words (digest (signMagic ++ decimal message.length ++ message))) := by
  have four : ¬(beBytes 4 message.length ++ message).length < 4 := by
    rw [List.length_append, beBytes_length]
    omega
  have length : UInt32.ofNat (beNat (beBytes 4 message.length)) = UInt32.ofNat message.length := by
    rw [beNat_beBytes, Nat.mod_eq_of_lt (by omega)]
  have small : (UInt32.ofNat message.length).toNat = message.length := by
    rw [UInt32.toNat_ofNat', Nat.mod_eq_of_lt (by omega)]
  have announced : (UInt32.ofNat message.length).toUInt64 = UInt64.ofNat message.length := by
    apply UInt64.toNat_inj.mp
    rw [UInt32.toNat_toUInt64, small, UInt64.toNat_ofNat', Nat.mod_eq_of_lt (by omega)]
  have text : personalLength (UInt32.ofNat message.length) = decimal message.length := by
    rw [personalLength_eq (by omega), small]
  have opener : (0 : UInt8) = P1.first ∨ (0 : UInt8) = P1.sign := .inl rfl
  simp only [handleSignPersonalMessage, on, if_pos opener, personalOpen, grammar.read, List.drop_left, four,
    List.take_left' (beBytes_length 4 message.length), List.drop_left' (beBytes_length 4 message.length), length,
    Bool.not_true, Bool.false_eq_true, if_false, ne_eq, not_true_eq_false]
  let opened := World.startPersonalMessage sdk (w.setPath words) (UInt32.ofNat message.length)
  have header : opened.app.personalMsgCtx.sha3 = sdk.keccak256.absorb [signMagic, decimal message.length] := by
    rw [← text]
    rfl
  have asked := personalChunk_asks (w := opened) sdk running key ok _ header announced
  rw [List.flatten_cons, List.flatten_singleton] at asked
  exact asked

theorem handleSignTIP712Message_asks (on : w.app.settings.signByHash = true)
    {domainHash messageHash : Bytes}
    (domain : domainHash.length = 32) (message : messageHash.length = 32) :
    (handleSignTIP712Message sdk 0 0 (path ++ (domainHash ++ messageHash)) w).Asks
      (.typed words (Buf.ofBytes 32 domainHash) (Buf.ofBytes 32 messageHash)) := by
  have grammar' : PathGrammar (path ++ (domainHash ++ messageHash)) words (domainHash ++ messageHash) :=
    ⟨grammar.least, grammar.most, grammar.tron, by rw [grammar.shape, List.append_nil, List.cons_append]⟩
  have long : 64 ≤ (domainHash ++ messageHash).length := by
    rw [List.length_append]
    omega
  obtain ⟨context', parsed⟩ := parseTip712_grammar grammar' long w.app.messageSigningContext712
  obtain ⟨rest, known, -, holds⟩ := parseTip712_accepted parsed
  obtain ⟨-, rfl⟩ := grammar'.unique known
  have domainKept := holds.domainHash
  have messageKept := holds.messageHash
  rw [List.take_left' domain] at domainKept
  rw [List.drop_left' domain, List.take_of_length_le (Nat.le_of_eq message)] at messageKept
  rw [handleSignTIP712Message_eq sdk on, parsed]
  simp only [answerTip712, reviewTip712, initPublicKeyContext, key]
  refine uxFlowDisplay_asks sdk running (by decide) (by decide) ?_
  change Request.typed (context'.bip32Path.toList.take context'.pathLength.toNat) context'.domainHash
    context'.messageHash = _
  rw [holds.front, domainKept, messageKept]

/-- The key is sent at once, or shown with its address. -/
theorem handleGetPublicKey_asks (noSwap : w.app.calledFromSwap = false) (confirm chaincode : Bool) :
    ∃ context : PublicKeyContext, context.publicKey = publicKey ∧ context.chainCode = chainCode ∧
      context.getChaincode = chaincode ∧
      context.address58 = getBase58FromPublicKey sdk publicKey.bytes w.app.publicKeyContext.address58 ∧
      match confirm with
      | true => (handleGetPublicKey sdk (ClientCall.getPublicKey true chaincode).p1
          (ClientCall.getPublicKey true chaincode).p2 (path ++ []) w).Asks (.address context)
      | false => (handleGetPublicKey sdk (ClientCall.getPublicKey false chaincode).p1
          (ClientCall.getPublicKey false chaincode).p2 (path ++ []) w).trace = .reply context.response .ok :: w.trace := by
  refine ⟨⟨publicKey, _, chainCode, chaincode⟩, rfl, rfl, rfl, rfl, ?_⟩
  have noSwap' : ¬(w.app.calledFromSwap = true) := by simp [noSwap]
  cases confirm with
  | true =>
    simp only [handleGetPublicKey, ClientCall.p1, ClientCall.p2, grammar.read, initPublicKeyContext, key, if_neg noSwap']
    cases chaincode <;> exact ⟨rfl, running⟩
  | false =>
    simp only [handleGetPublicKey, ClientCall.p1, ClientCall.p2, grammar.read, initPublicKeyContext, key]
    cases chaincode <;> rfl

end Handlers

/-- A command of a user goes to its handler. -/
theorem step_dispatches {version : AppVersion} {c : Command} (idle : w.app.pending = none)
    (running : w.app.exited = false) (noSwap : w.app.calledFromSwap = false) (cla : c.cla = Ins.cla) :
    step sdk version w (.apdu c) = some (dispatchIns sdk version c (w.receive c).forgetContacts) := by
  have noSwap' : ¬((w.receive c).forgetContacts.app.calledFromSwap = true ∧ c.ins ≠ Ins.getPublicKey ∧
      c.ins ≠ Ins.sign) := by
    rintro ⟨swap, -⟩
    exact absurd (noSwap.symm.trans swap) (by decide)
  have claOk : ¬c.cla ≠ Ins.cla := not_not.mpr cla
  simp only [step, running, idle, apduDispatcher, if_neg claOk, if_neg noSwap', Bool.false_eq_true, if_false]

/-- A call whose setting is off. -/
theorem blindCall_refused {version : AppVersion} {call : ClientCall} (blind : call.isBlind = true)
    (off : w.app.settings.signByHash = false) (short : (path ++ call.arguments).length < 256) :
    (dispatchIns sdk version (call.command path short) w).trace = .reply [] .missingSettingSignByHash :: w.trace := by
  cases call with
  | getPublicKey | getEcdhSecret => simp [ClientCall.isBlind] at blind
  | signHash hashToSign =>
    change (handleSignByHash sdk 0 0 _ w).trace = _
    simp [handleSignByHash, off]
  | signPersonalMessage message =>
    change (handleSignPersonalMessage sdk 0 0 _ w).trace = _
    simp [handleSignPersonalMessage, off]
  | signTip712 domainHash messageHash =>
    change (handleSignTIP712Message sdk 0 0 _ w).trace = _
    simp [handleSignTIP712Message, off]

/-- **The device does what the client calls for.** A device that the user started asks for what the call means, and puts
out what the answer allows; a public key that needs no confirmation is sent at once. Where the setting that a call needs
is off, it is refused. The key at the path is one that can be derived. -/
theorem clientCall_served {digest : Bytes → Buf 32} (ok : sdk.keccak256.Correct digest) (version : AppVersion)
    (idle : w.app.pending = none) (running : w.app.exited = false) (noSwap : w.app.calledFromSwap = false)
    (grammar : PathGrammar path words []) (key : sdk.derivePublicKey words = some (publicKey, chainCode))
    {call : ClientCall} (wellFormed : call.WellFormed) (short : (path ++ call.arguments).length < 256) :
    ∃ c w₁, c = call.command path short ∧ step sdk version w (.apdu c) = some w₁ ∧
      if call.isBlind = true ∧ w.app.settings.signByHash = false then
        w₁.trace = .reply [] .missingSettingSignByHash :: .apdu c :: w.trace
      else
        ∃ context : PublicKeyContext, context.publicKey = publicKey ∧ context.chainCode = chainCode ∧
          context.address58 = getBase58FromPublicKey sdk publicKey.bytes w.app.publicKeyContext.address58 ∧
          match call with
          | .getPublicKey false chaincode => w₁.trace =
              .reply { context with getChaincode := chaincode }.response .ok :: .apdu c :: w.trace
          | _ => w₁.request = some (call.request digest words context) ∧ ∀ confirm, ∃ w₂,
              step sdk version w₁ (.answer confirm) = some w₂ ∧
                w₂.trace = (consentRules sdk).answer (call.request digest words context) confirm ++ w₁.trace := by
  let received := (w.receive (call.command path short)).forgetContacts
  have dispatched : step sdk version w (.apdu (call.command path short)) =
      some (dispatchIns sdk version (call.command path short) received) :=
    step_dispatches sdk idle running noSwap rfl
  refine ⟨_, _, rfl, dispatched, ?_⟩
  by_cases refused : call.isBlind = true ∧ w.app.settings.signByHash = false
  · rw [if_pos refused]
    exact blindCall_refused (w := received) sdk refused.1 refused.2 short
  rw [if_neg refused]
  have on (blind : call.isBlind = true) : w.app.settings.signByHash = true := by
    cases setting : w.app.settings.signByHash with
    | true => rfl
    | false => exact absurd ⟨blind, setting⟩ refused
  let plain : PublicKeyContext :=
    ⟨publicKey, getBase58FromPublicKey sdk publicKey.bytes w.app.publicKeyContext.address58, chainCode, false⟩
  have served {w₁ : World σ κ} {q : Request} (asks : w₁.Asks q) : w₁.request = some q ∧ ∀ confirm, ∃ w₂,
      step sdk version w₁ (.answer confirm) = some w₂ ∧ w₂.trace = (consentRules sdk).answer q confirm ++ w₁.trace :=
    ⟨asks.1, asks.answered sdk version⟩
  cases call with
  | getPublicKey confirm chaincode =>
    obtain ⟨context, rfl, rfl, rfl, address, asks⟩ :=
      handleGetPublicKey_asks (w := received) sdk running grammar key noSwap confirm chaincode
    refine ⟨context, rfl, rfl, address, ?_⟩
    cases confirm with
    | true => exact served asks
    | false => exact asks
  | signHash hashToSign =>
    exact ⟨plain, rfl, rfl, rfl,
      served (handleSignByHash_asks (w := received) sdk running grammar key (on rfl) wellFormed)⟩
  | signPersonalMessage message =>
    have size : message.length < 2 ^ 31 := by
      simp only [ClientCall.arguments, List.length_append] at short
      omega
    exact ⟨plain, rfl, rfl, rfl,
      served (handleSignPersonalMessage_asks (w := received) sdk running grammar key ok (on rfl) size)⟩
  | signTip712 domainHash messageHash =>
    exact ⟨plain, rfl, rfl, rfl, served
      (handleSignTIP712Message_asks (w := received) sdk running grammar key (on rfl) wellFormed.1 wellFormed.2)⟩
  | getEcdhSecret pubkey =>
    exact ⟨plain, rfl, rfl, rfl,
      served (handleECDHSecret_asks (w := received) sdk running grammar key wellFormed)⟩

end Device

section Unpacking

/-- `unpack_get_public_key_response`: the key, the address and the chain code, or `none` where it raises.
`encodeKey` is the address encoder of the client's package. -/
def unpackGetPublicKeyResponse (encodeKey : Bytes → Bytes) (response : Bytes) (requestChaincode : Bool) :
    Option (Bytes × Bytes × Option Bytes) :=
  match response[0]? with
  | none => none
  | some publicKeyLen =>
    let offset := 1 + publicKeyLen.toNat
    let publicKey := (response.drop 1).take publicKeyLen.toNat
    match response[offset]? with
    | none => none
    | some addressLen =>
      let offset := offset + 1
      let address := (response.drop offset).take addressLen.toNat
      let offset := offset + addressLen.toNat
      let (chaincode, offset) :=
        if requestChaincode then (some ((response.drop offset).take 32), offset + 32) else (none, offset)
      -- what is not ASCII is not decoded
      if address.any (128 ≤ ·) then none
      else if response.length = offset ∧ publicKey.length = 65 ∧ encodeKey publicKey = address then
        some (publicKey, address, chaincode)
      else none

variable {σ κ : Type} {sdk : Sdk σ κ}

theorem base58_ascii (bs : Bytes) : ∀ c ∈ Base58.text bs, c < 128 := by
  have symbol : ∀ d < 58, Base58.symbol d < 128 := by decide
  intro c among
  rw [Base58.text_eq] at among
  rcases List.mem_append.mp among with lead | digit
  · rw [List.eq_of_mem_replicate lead]
    decide
  · obtain ⟨d, found, rfl⟩ := List.mem_map.mp digit
    exact symbol d (Nat.digits_lt_base (by decide) (List.mem_reverse.mp found))

/-- The address of a key, in the buffer of its context. -/
theorem publicKey_address (encodes : sdk.EncodesBase58) (publicKey : Bytes) (old : Buf 35) :
    (getBase58FromPublicKey sdk publicKey old).bytes.take 34 =
        base58Check sdk (getAddressFromPublicKey sdk publicKey) ∧
      (base58Check sdk (getAddressFromPublicKey sdk publicKey)).length = 34 := by
  have bytes : (getAddressFromPublicKey sdk publicKey).bytes =
      0x41 :: (sdk.cxHashKeccak256 (publicKey.drop 1)).bytes.drop 12 :=
    Buf.bytes_ofBytes (by rw [List.length_cons, List.length_drop, Buf.size])
  have mainnet : (getAddressFromPublicKey sdk publicKey).bytes.head? = some 0x41 := by
    rw [bytes]
    rfl
  have whole : (base58Check sdk (getAddressFromPublicKey sdk publicKey)).length = 34 := base58Check_mainnet mainnet
  have room : 0 + 35 ≤ 35 := Nat.le_refl 35
  have shown := (getBase58FromAddress_str encodes _ old room).mpr (.inl whole)
  have front : base58Check sdk (getAddressFromPublicKey sdk publicKey) <+:
      (getBase58FromPublicKey sdk publicKey old).bytes := by
    rw [← shown]
    exact List.takeWhile_prefix _
  have cut := List.prefix_iff_eq_take.mp front
  rw [whole] at cut
  exact ⟨cut.symm, whole⟩

theorem unpack_fields {encodeKey : Bytes → Bytes} {key code : Bytes} (size : key.length = 65)
    (whole : (encodeKey key).length = 34) (rest : code.length = 32) (ascii : ∀ c ∈ encodeKey key, c < 128)
    (requested : Bool) :
    unpackGetPublicKeyResponse encodeKey (65 :: (key ++ 34 :: (encodeKey key ++ if requested then code else [])))
      requested = some (key, encodeKey key, if requested then some code else none) := by
  have decodes : ¬((encodeKey key).any (128 ≤ ·)) = true := by
    rw [List.any_eq_true]
    rintro ⟨c, among, large⟩
    exact absurd (ascii c among) (UInt8.not_lt.mpr (by simpa using large))
  generalize tail_eq : (if requested then code else []) = tail
  have second : (65 :: (key ++ 34 :: (encodeKey key ++ tail)))[1 + 65]? = some 34 := by
    rw [Nat.add_comm, List.getElem?_cons_succ, List.getElem?_append_right (by omega), size]
    rfl
  have front : (65 :: (key ++ 34 :: (encodeKey key ++ tail))).drop 1 = key ++ 34 :: (encodeKey key ++ tail) := rfl
  have middle : (65 :: (key ++ 34 :: (encodeKey key ++ tail))).drop (1 + 65 + 1) = encodeKey key ++ tail := by
    have grouped : 65 :: (key ++ 34 :: (encodeKey key ++ tail)) = (65 :: (key ++ [34])) ++ (encodeKey key ++ tail) := by
      simp
    rw [grouped, List.drop_left' (by simp [size])]
  have back : (65 :: (key ++ 34 :: (encodeKey key ++ tail))).drop (1 + 65 + 1 + 34) = tail := by
    rw [← List.drop_drop, middle, List.drop_left' whole]
  have first : (65 : UInt8).toNat = 65 := rfl
  have length : (34 : UInt8).toNat = 34 := rfl
  simp only [unpackGetPublicKeyResponse, List.getElem?_cons_zero, first, second, length, front, middle, back,
    List.take_left' size, List.take_left' whole, if_neg decodes]
  cases requested with
  | true =>
    obtain rfl := tail_eq
    simp [size, whole, rest, List.take_of_length_le (Nat.le_of_eq rest)]
  | false =>
    obtain rfl := tail_eq
    simp [size, whole]

/-- A client reads the key, its address and the chain code. -/
theorem unpack_response (encodes : sdk.EncodesBase58) {encodeKey : Bytes → Bytes}
    (encoder : ∀ key, encodeKey key = base58Check sdk (getAddressFromPublicKey sdk key)) {context : PublicKeyContext}
    {old : Buf 35} (address : context.address58 = getBase58FromPublicKey sdk context.publicKey.bytes old) :
    unpackGetPublicKeyResponse encodeKey context.response context.getChaincode =
      some (context.publicKey.bytes, encodeKey context.publicKey.bytes,
        if context.getChaincode then some context.chainCode.bytes else none) := by
  obtain ⟨text, whole⟩ := publicKey_address encodes context.publicKey.bytes old
  rw [← address, ← encoder] at text
  rw [← encoder] at whole
  have shape : context.response = 65 :: (context.publicKey.bytes ++ 34 :: (encodeKey context.publicKey.bytes ++
      if context.getChaincode then context.chainCode.bytes else [])) := by
    rw [PublicKeyContext.response, text]
    simp
  rw [shape]
  refine unpack_fields context.publicKey.size whole context.chainCode.size ?_ context.getChaincode
  rw [encoder]
  exact base58_ascii _

/-- **A client gets the key of its path**: with or without a confirmation, it reads the key, the address of the key and
the chain code it asked for. -/
theorem getPublicKey_unpacked (encodes : sdk.EncodesBase58) {encodeKey : Bytes → Bytes}
    (encoder : ∀ key, encodeKey key = base58Check sdk (getAddressFromPublicKey sdk key)) (version : AppVersion)
    {w : World σ κ} {path : Bytes} {words : Bip32Path} {publicKey : Buf 65} {chainCode : Buf 32}
    (idle : w.app.pending = none) (running : w.app.exited = false) (noSwap : w.app.calledFromSwap = false)
    (grammar : PathGrammar path words []) (key : sdk.derivePublicKey words = some (publicKey, chainCode))
    (confirm chaincode : Bool) (short : (path ++ []).length < 256) :
    ∃ w' data, exec (step sdk version) anyStep w
        (.apdu ((ClientCall.getPublicKey confirm chaincode).command path short) ::
          if confirm then [.answer true] else []) = some w' ∧
      w'.trace.head? = some (.reply data .ok) ∧
      unpackGetPublicKeyResponse encodeKey data chaincode =
        some (publicKey.bytes, encodeKey publicKey.bytes, if chaincode then some chainCode.bytes else none) := by
  let received := (w.receive ((ClientCall.getPublicKey confirm chaincode).command path short)).forgetContacts
  obtain ⟨context, rfl, rfl, rfl, address, asks⟩ :=
    handleGetPublicKey_asks (w := received) sdk running grammar key noSwap confirm chaincode
  let call := ClientCall.getPublicKey confirm context.getChaincode
  have dispatched : step sdk version w (.apdu (call.command path short)) =
      some (handleGetPublicKey sdk call.p1 call.p2 (path ++ []) received) :=
    step_dispatches sdk idle running noSwap rfl
  have unpacked := unpack_response encodes encoder address
  simp only [exec, call] at dispatched ⊢
  rw [dispatched]
  cases confirm with
  | true =>
    obtain ⟨w', stepped, trace⟩ := World.Asks.answered sdk asks version true
    refine ⟨w', context.response, ?_, by rw [trace]; rfl, unpacked⟩
    simp only [if_true, exec, stepped, anyStep]
  | false => exact ⟨_, context.response, rfl, congrArg List.head? asks, unpacked⟩

end Unpacking

section Device

theorem device_encodes : device.EncodesBase58 := fun _ _ => rfl

theorem clientCall_served_message : ∃ w₁ context,
    step device deviceVersion (boot device deviceBoot)
      (.apdu ((ClientCall.signPersonalMessage (ascii "hi")).command (pathBytes 0) (by decide))) = some w₁ ∧
    w₁.request = some ((ClientCall.signPersonalMessage (ascii "hi")).request Keccak.hash
      [0x8000002c, 0x800000c3, 0x80000000] context) := by
  have short : (pathBytes 0 ++ (ClientCall.signPersonalMessage (ascii "hi")).arguments).length < 256 := by decide
  have wellFormed : (ClientCall.signPersonalMessage (ascii "hi")).WellFormed := trivial
  obtain ⟨_, w₁, rfl, stepped, served⟩ := clientCall_served (w := boot device deviceBoot) device device_keccak256 deviceVersion
    rfl rfl rfl pathBytes_grammar rfl wellFormed short
  have on : ¬((ClientCall.signPersonalMessage (ascii "hi")).isBlind = true ∧
      (boot device deviceBoot).app.settings.signByHash = false) := by decide
  rw [if_neg on] at served
  obtain ⟨context, -, -, -, asked, -⟩ := served
  exact ⟨w₁, context, stepped, asked⟩

theorem getPublicKey_unpacked_confirmed : ∃ w' data, exec (step device deviceVersion) anyStep (boot device deviceBoot)
    [.apdu ((ClientCall.getPublicKey true true).command (pathBytes 0) (by decide)), .answer true] = some w' ∧
    w'.trace.head? = some (.reply data .ok) ∧
    (unpackGetPublicKeyResponse (fun key => base58Check device (getAddressFromPublicKey device key)) data true).isSome := by
  obtain ⟨w', data, ran, replied, unpacked⟩ := getPublicKey_unpacked (w := boot device deviceBoot) device_encodes
    (fun _ => rfl) deviceVersion rfl rfl rfl pathBytes_grammar rfl true true (by decide)
  exact ⟨w', data, ran, replied, by rw [unpacked]; rfl⟩

end Device

end TronLedger
