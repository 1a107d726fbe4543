import SlotWallet.Proofs.SealedSeed
import SlotWallet.Proofs.Sending
import SlotWallet.Proofs.SlotStore

/-!
# Who pays

A slot tells the key of its wallet twice: in the clear, which is shown as the sender, and
by the seed that the password opens, which signs and pays. Only what is sealed is
authenticated, so the two agree where they were written together and need not agree
elsewhere (`pays_from_opened_key`, `mislabelled_pays`).
-/

namespace SlotWallet

-- ---------------------------------------------------------------------------
-- Keys
-- ---------------------------------------------------------------------------

namespace StoredKey

variable {key : StoredKey} {password : Bytes} {iterations : UInt32}

theorem unlock_ok {keys : KeyPair} :
    key.unlock password iterations = .ok keys ↔
      ∃ seed, key.sealedSeed.openSeed password iterations = .ok seed ∧ .ofSeed seed = keys := by
  rw [unlock, bind_ok]
  simp only [pure_ok]

theorem publicKey_of_ofKeys {keys : KeyPair} {seed : Seed} {source rest : Bytes}
    (h : ofKeys keys password iterations source = .ok (key, rest))
    (hopen : key.sealedSeed.openSeed password iterations = .ok seed) :
    key.publicKey = Ed25519.publicKey seed := by
  obtain ⟨sealed, _, hsealed, hpure⟩ := Drawing.bind_ok.mp h
  obtain ⟨rfl, rfl⟩ := Drawing.pure_ok.mp hpure
  cases (SealedSeed.openSeed_ofSeed hsealed).symm.trans hopen
  exact keys.publicKey_eq

end StoredKey

-- ---------------------------------------------------------------------------
-- Messages
-- ---------------------------------------------------------------------------

/-- The message that a call submits: what its text holds behind the number of signatures
and one signature. -/
def Call.message? (call : Call) : Option Bytes :=
  match call.params with
  | .array [.string text, _] => (Base64.decodeChars text.toList).map (List.drop 65)
  | _ => none

theorem message?_sendCall (t : SignedTransfer) :
    (Client.sendCall (Base64.encode t.framed)).message? = some t.message.bytes := by
  change (Base64.decodeChars (Base64.encode t.framed).toList).map (List.drop 65) = _
  rw [Base64.encode, String.toList_ofList, Base64.decodeChars_encodeChars, Option.map_some,
    SignedTransfer.drop_framed]

namespace Command

open Wallet (Submits)

variable {config : Config} {args : SendArgs} {host : Host} {p : Plan} {keys : KeyPair}

theorem Delivers.payer {calls : List Call} {call : Call}
    (h : Delivers config args host p keys calls) (hcall : call ∈ calls)
    (hmethod : call.method = "sendTransaction") :
    ∃ (bytes : Bytes) (message : Message), call.message? = some bytes ∧
      (bytes.drop 4).take 32 = keys.publicKey.bytes ∧ Message.read bytes = some message ∧
      message.keys.head? = some keys.publicKey ∧
      message.orders? = some (.pay keys.publicKey p.recipient p.lamports.toNat ::
        (p.memo.map fun memo => Order.note memo.bytes).toList) := by
  obtain ⟨compiled, ⟨result, hash, -, -, hcompile⟩, rfl⟩ := h.submits hcall hmethod
  obtain ⟨-, -, hbytes⟩ := TransferRequest.compile_ok.mp hcompile
  refine ⟨compiled.bytes, _, message?_sendCall ⟨_, compiled⟩, ?_,
    TransferRequest.read_bytes_compile hcompile, ?_, TransferRequest.orders?_message _ _⟩
  · rw [hbytes]
    exact TransferRequest.take_drop_message _ _
  · rw [TransferRequest.message_keys]
    rfl

theorem send_delivers (config : Config) (args : SendArgs) (host : Host) :
    ∃ requests,
      (runFrom (send config args) host).2.node.requests = host.node.requests ++ requests ∧
      ∀ request ∈ requests, ∃ p keys calls more,
        (runFrom (send config args) host).2.output = host.output ++ details args.slot p ++ more ∧
        Delivers config args host p keys calls ∧ request.call ∈ calls := by
  obtain ⟨result, shown, events, next, hrun, hfollows, hends⟩ := send_ends config args host
  obtain ⟨requests, hrequests, hseen⟩ := hfollows.requests
  obtain ⟨more, hmore⟩ := hfollows.output
  rw [hrun]
  refine ⟨requests, hrequests, fun request hrequest => ?_⟩
  have hcall := hseen.subset (List.mem_map_of_mem hrequest)
  obtain rfl | ⟨p, keys, rfl, hdelivers⟩ := hends.delivers
  · exact absurd hcall List.not_mem_nil
  · exact ⟨p, keys, _, more, hmore, hdelivers, hcall⟩

theorem SubmitEnds.asks {passwords : List String} {reply : Nat → Except WalletError Json}
    {result : Except CommandError Unit} {events : List Event}
    (h : SubmitEnds config args p passwords reply result events)
    (hkeys : Unlocks config passwords p.key keys) :
    transferCalls keys p (reply 0) <+: events.filterMap Event.call? := by
  cases h with
  | locked hno => exact absurd hkeys (hno keys)
  | failed hkeys' _ =>
    cases hkeys.unique hkeys'
    rw [Event.filterMap_asked]
  | submitted hkeys' _ _ =>
    cases hkeys.unique hkeys'
    rw [Event.filterMap_asked]
  | awaited hkeys' _ _ _ _ =>
    cases hkeys.unique hkeys'
    rw [List.filterMap_append, Event.filterMap_asked]
    exact List.prefix_append _ _

theorem send_submits {compiled : WireBuffer} (hp : Planned config args host.files p)
    (hagreed : Agreed args host.answer) (hkeys : Unlocks config host.passwords p.key keys)
    (hopen : (host.link config.rpcUrl).isOpen = true)
    (hcompiled : Submits keys p.recipient p.lamports p.memo ((host.link config.rpcUrl).reply 0)
      compiled) :
    ∃ requests request more,
      (runFrom (send config args) host).2.node.requests = host.node.requests ++ requests ∧
      (runFrom (send config args) host).2.output = host.output ++ details args.slot p ++ more ∧
      request ∈ requests ∧ request.call.method = "sendTransaction" ∧
      request.call.message? = some compiled.bytes := by
  obtain ⟨result, shown, events, next, hrun, hfollows, hends⟩ := send_ends config args host
  cases hends with
  | refused hnone => exact absurd hp (hnone p)
  | declined _ hno => exact absurd hagreed hno
  | @agreed p' _ _ hp' _ hends =>
    cases (plan_looks config args host).unique hp hp'
    obtain ⟨requests, hrequests, hcalls, -⟩ := hfollows.requests_eq
    obtain ⟨more, hmore⟩ := hfollows.output
    rw [if_pos hopen] at hcalls
    have hasked : Client.sendCall (Base64.encode
        (SignedTransfer.framed ⟨keys.sign compiled.bytes, compiled⟩)) ∈ requests.map (·.call) := by
      rw [hcalls]
      refine (hends.asks hkeys).subset (List.mem_cons_of_mem _ ?_)
      exact Wallet.mem_submissionCalls.mpr ⟨compiled, hcompiled, rfl⟩
    obtain ⟨request, hrequest, hcall⟩ := List.mem_map.mp hasked
    rw [hrun]
    refine ⟨requests, request, more, hrequests, hmore, hrequest, ?_, ?_⟩
    · rw [hcall]
      rfl
    · rw [hcall]
      exact message?_sendCall ⟨_, compiled⟩

-- ---------------------------------------------------------------------------
-- Labels
-- ---------------------------------------------------------------------------

/-- The payer of every message that is submitted, in its bytes and in what it brings about,
is the key of the seed that the first password opens from the slot. It is the key that was
shown as the sender exactly if the slot's label is the key of that seed, and it is where the
slot was written for a pair of keys under this password. -/
theorem pays_from_opened_key (config : Config) (args : SendArgs) (host : Host) :
    let run := runFrom (send config args) host
    ∃ requests, run.2.node.requests = host.node.requests ++ requests ∧
      ∀ request ∈ requests, request.call.method = "sendTransaction" →
        ∃ (p : Plan) (more password : String) (rest : List String) (seed : Seed) (bytes : Bytes)
            (message : Message),
          Planned config args host.files p ∧ Agreed args host.answer ∧
          run.2.output = host.output ++ details args.slot p ++ more ∧
          (∀ other, details args.slot other = details args.slot p →
            other.key.publicKey = p.key.publicKey) ∧
          host.passwords = password :: rest ∧
          p.key.sealedSeed.openSeed (Text.toBytes password.toList) config.kdfIterations =
            .ok seed ∧
          request.call.message? = some bytes ∧
          (bytes.drop 4).take 32 = (Ed25519.publicKey seed).bytes ∧
          Message.read bytes = some message ∧
          message.keys.head? = some (Ed25519.publicKey seed) ∧
          message.orders? = some (.pay (Ed25519.publicKey seed) p.recipient p.lamports.toNat ::
            (p.memo.map fun memo => Order.note memo.bytes).toList) ∧
          ((bytes.drop 4).take 32 = p.key.publicKey.bytes ↔
            p.key.publicKey = Ed25519.publicKey seed) ∧
          ∀ keys source left,
            StoredKey.ofKeys keys (Text.toBytes password.toList) config.kdfIterations source =
              .ok (p.key, left) →
            (bytes.drop 4).take 32 = p.key.publicKey.bytes := by
  intro run
  obtain ⟨requests, hrequests, hdelivered⟩ := send_delivers config args host
  refine ⟨requests, hrequests, fun request hrequest hmethod => ?_⟩
  obtain ⟨p, keys, calls, more, hmore, hdelivers, hcall⟩ := hdelivered request hrequest
  obtain ⟨password, rest, hpasswords, hunlock⟩ := hdelivers.unlocked
  obtain ⟨seed, hopen, rfl⟩ := StoredKey.unlock_ok.mp hunlock
  obtain ⟨bytes, message, hbytes, hsender, hread, hhead, horders⟩ :=
    hdelivers.payer hcall hmethod
  refine ⟨p, more, password, rest, seed, bytes, message, hdelivers.planned, hdelivers.agreed,
    hmore, fun other hother => (details_inj hother).1, hpasswords, hopen, hbytes, hsender, hread,
    hhead, horders, ?_, fun pair source left hwritten => ?_⟩
  · rw [hsender]
    exact ⟨fun h => FixedBytes.ext_bytes h.symm, fun h => congrArg FixedBytes.bytes h.symm⟩
  · rw [StoredKey.publicKey_of_ofKeys hwritten hopen]
    exact hsender

/-- A seed of 32 zeros as it is sealed under the password `a`, behind a label that is the
key of another seed or of none. -/
def mislabelled : StoredKey where
  publicKey := ⟨List.replicate 32 7, rfl⟩
  sealedSeed := .sealBytes [0x61] ((FixedBytes.zero 32).append (Ed25519.publicKey (.zero 32)))
    ⟨List.replicate 16 1, rfl⟩ ⟨List.replicate 12 2, rfl⟩ 1

def mislabelledHost : Host where
  random := []
  passwords := ["a"]
  input := []
  files := ⟨[("Str0.bin", .file FileTree.privateMode (157 :: mislabelled.payload))], []⟩
  node :=
    { reachable := true
      replies := [
        .answer 200 ("\x7b\"result\":\x7b\"value\":\x7b\"blockhash\":" ++
          "\"11111111111111111111111111111111\"\x7d\x7d\x7d"),
        .answer 200 "\x7b\"result\":\"x\"\x7d"]
      requests := [] }
  nextId := HttpLink.firstId
  output := ""
  errors := ""
  linePrompts := []

theorem load_mislabelled :
    StoredKey.load (SlotDirectory.mk "/" mislabelledHost.files) ⟨0⟩ = .ok mislabelled := by
  have hfollow : mislabelledHost.files.follow [] ["", "Str0.bin"] = .ok ["Str0.bin"] := by
    have hshort : FileTree.tooLong "Str0.bin" = false := by decide
    simp [FileTree.follow, FileTree.step, FileTree.isIdle, FileTree.lookup?, FileEntry.find?,
      mislabelledHost, hshort, bind, Except.bind, pure, Except.pure]
  have hnames : FileTree.namesOf "/Str0.bin" = ["", "Str0.bin"] := by decide +kernel
  have hread : mislabelledHost.files.read "/Str0.bin" = .ok (157 :: mislabelled.payload) := by
    refine FileTree.read_ok.mpr ⟨by decide +kernel, ["Str0.bin"], FileTree.privateMode, ?_, ?_⟩
    · rw [hnames]
      exact hfollow
    · simp [FileTree.lookup?, FileEntry.find?, mislabelledHost]
  have hunframe : Frame.unframe (157 :: mislabelled.payload) = .ok mislabelled.payload :=
    Frame.unframe_frame (by rw [Frame.frame, StoredKey.length_payload]; rfl)
  exact bind_ok.mpr ⟨_, SlotDirectory.fetch_ok.mpr ⟨_, hread, hunframe⟩,
    StoredKey.ofPayload_payload _⟩

theorem unlocks_mislabelled {config : Config} (h : config.kdfIterations = 1) :
    Unlocks config mislabelledHost.passwords mislabelled (.ofSeed (.zero 32)) := by
  have hpassword : Text.toBytes "a".toList = [0x61] := by decide +kernel
  have hopen : mislabelled.sealedSeed.openSeed [0x61] 1 = _ :=
    SealedSeed.openSeed_sealBytes ((FixedBytes.zero 32).append (Ed25519.publicKey (.zero 32)))
      ⟨List.replicate 16 1, rfl⟩ ⟨List.replicate 12 2, rfl⟩ (List.cons_ne_nil _ _) (by decide)
  rw [FixedBytes.firstHalf_append] at hopen
  refine ⟨"a", [], rfl, StoredKey.unlock_ok.mpr ⟨.zero 32, ?_, rfl⟩⟩
  rw [hpassword, h]
  exact hopen

/-- The key that is shown need not be the one that pays. -/
theorem mislabelled_pays :
    let config : Config := { Config.default "/" with slotsDir := "/", kdfIterations := 1 }
    let args : SendArgs := ⟨⟨0⟩, "11111111111111111111111111111112", "1", none, true, true, true⟩
    let run := runFrom (send config args) mislabelledHost
    ∃ (p : Plan) (more : String) (request : HttpRequest) (bytes : Bytes),
      Planned config args mislabelledHost.files p ∧
      p.key.publicKey = ⟨List.replicate 32 7, rfl⟩ ∧
      run.2.output = details args.slot p ++ more ∧
      request ∈ run.2.node.requests ∧ request.call.method = "sendTransaction" ∧
      request.call.message? = some bytes ∧
      (bytes.drop 4).take 32 = (Ed25519.publicKey (.zero 32)).bytes ∧
      (bytes.drop 4).take 32 ≠ p.key.publicKey.bytes := by
  intro config args run
  let recipient : PublicKey := ⟨List.replicate 31 0 ++ [1], rfl⟩
  let p : Plan := ⟨mislabelled, 1, recipient, none⟩
  let keys : KeyPair := .ofSeed (.zero 32)
  have hplanned : Planned config args mislabelledHost.files p := by
    refine ⟨by decide +kernel, ?_, by decide +kernel, by decide +kernel, .without (.inl rfl),
      by decide⟩
    exact load_mislabelled
  have hunlocks : Unlocks config mislabelledHost.passwords p.key keys := unlocks_mislabelled rfl
  have hoffers : ((mislabelledHost.link config.rpcUrl).reply 0 >>= Client.readBlockhash).isOk =
      true := by
    decide +kernel
  have hfault : ∀ hash, TransferRequest.fault? ⟨recipient, 1, hash, none⟩ keys.publicKey =
      none := by
    intro hash
    have hnone : TransferRequest.fault? ⟨recipient, 1, .zero 32, none⟩ keys.publicKey = none := by
      decide +kernel
    exact hnone
  obtain ⟨hash, hhash⟩ := exists_ok hoffers
  obtain ⟨result, hresult, hread⟩ := bind_ok.mp hhash
  obtain ⟨compiled, hcompile⟩ := TransferRequest.exists_compile (hfault hash)
  obtain ⟨requests, request, more, hrequests, hmore, hrequest, hmethod, hbytes⟩ :=
    send_submits hplanned (.inl rfl) hunlocks (by decide +kernel)
      ⟨result, hash, hresult, Client.readBlockhash_ok.mp hread, hcompile⟩
  obtain ⟨-, -, hmessage⟩ := TransferRequest.compile_ok.mp hcompile
  have hsender : (compiled.bytes.drop 4).take 32 = (Ed25519.publicKey (.zero 32)).bytes := by
    rw [hmessage]
    exact TransferRequest.take_drop_message _ _
  have hother : (Ed25519.publicKey (.zero 32)).bytes ≠ List.replicate 32 7 := by decide +kernel
  have hrun : run.2.node.requests = requests := hrequests
  refine ⟨p, more, request, compiled.bytes, hplanned, rfl, hmore, hrun ▸ hrequest, hmethod,
    hbytes, hsender, ?_⟩
  rw [hsender]
  exact hother

end Command

end SlotWallet
