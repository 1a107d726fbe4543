import SlotWallet.Proofs.NewPassword
import SlotWallet.Proofs.SlotFiles
import SlotWallet.Proofs.SlotHistory

/-!
# A wallet is made or nothing is lost

A run that makes a wallet asks for a password until one is accepted (`Chooses`) and then
fails, and no slot has changed, or the slot holds a new wallet that this password opens
(`Created`). Where a slot is taken, it comes to that only by force or with a yes
(`create_ends`). Whether it is taken is asked before the directory is made, so a step up
from a directory that is missing gets past the question (`create_unasked`).
-/

namespace SlotWallet

-- ---------------------------------------------------------------------------
-- Prompts
-- ---------------------------------------------------------------------------

/-- One host comes after another with nothing done but to print a text and to take answers. -/
structure Host.Talks (host : Host) (shown : String) (next : Host) : Prop where
  files : next.files = host.files
  random : next.random = host.random
  output : next.output = host.output ++ shown

namespace Host.Talks

variable {host next last : Host} {shown later : String}

theorem refl (host : Host) : Talks host "" host := ⟨rfl, rfl, by simp⟩

theorem trans (h : Talks host shown next) (h' : Talks next later last) :
    Talks host (shown ++ later) last :=
  ⟨h'.files.trans h.files, h'.random.trans h.random, by
    rw [h'.output, h.output, String.append_assoc]⟩

theorem print (host : Host) (text : String) : Talks host text (host.print text) := ⟨rfl, rfl, rfl⟩

theorem complain (host : Host) (text : String) : Talks host "" (host.complain text) :=
  ⟨rfl, rfl, by simp [Host.complain]⟩

theorem nextPassword (host : Host) : Talks host "" host.nextPassword :=
  ⟨rfl, rfl, by simp [Host.nextPassword]⟩

theorem nextLine (host : Host) : Talks host "" host.nextLine :=
  ⟨rfl, rfl, by simp [Host.nextLine]⟩

end Host.Talks

namespace Command

/-- The password that is accepted of some answers: the first that is not empty and comes twice
in a row, as they are asked for. -/
inductive Chooses : List String → String → Prop
  | twice {password : String} {rest : List String} : password ≠ "" →
      Chooses (password :: password :: rest) password
  | empty {answers : List String} {password : String} : Chooses answers password →
      Chooses ("" :: answers) password
  | differing {first second : String} {answers : List String} {password : String} :
      first ≠ "" → first ≠ second → Chooses answers password →
      Chooses (first :: second :: answers) password

theorem talks_prompted (host : Host) (prompt : String) :
    host.Talks prompt (host.prompted prompt) := by
  simpa [Host.prompted] using (Host.Talks.print host prompt).trans (.nextPassword _)

theorem talks_askedTwice (host : Host) :
    host.Talks ("Enter password: " ++ "Confirm password: ") (askedTwice host) :=
  (talks_prompted host _).trans (talks_prompted _ _)

theorem Reads.talks {host : Host} {outcome : Except CommandError String × Host}
    (h : Reads host outcome) :
    ∃ shown, host.Talks shown outcome.2 ∧
      ∀ password, outcome.1 = .ok password → Chooses host.passwords password := by
  induction h with
  | unanswered => exact ⟨_, talks_prompted _ _, nofun⟩
  | empty hanswers _ ih =>
    obtain ⟨shown, htalks, hchosen⟩ := ih
    refine ⟨_, ((talks_prompted _ _).trans (.complain _ _)).trans htalks, ?_⟩
    intro password hpassword
    have hrest := hchosen password hpassword
    simp only [passwords_complain, passwords_prompted, hanswers, List.tail_cons] at hrest ⊢
    exact .empty hrest
  | unconfirmed => exact ⟨_, talks_askedTwice _, nofun⟩
  | differing hanswers hne hdiffer _ ih =>
    obtain ⟨shown, htalks, hchosen⟩ := ih
    refine ⟨_, ((talks_askedTwice _).trans (.complain _ _)).trans htalks, ?_⟩
    intro password hpassword
    have hrest := hchosen password hpassword
    simp only [passwords_complain, passwords_askedTwice, hanswers, List.tail_cons] at hrest ⊢
    exact .differing hne hdiffer hrest
  | confirmed hanswers hne =>
    refine ⟨_, talks_askedTwice _, ?_⟩
    intro password hpassword
    obtain rfl := Except.ok.inj hpassword
    rw [hanswers]
    exact .twice hne

theorem newPassword_talks (host : Host) :
    ∃ result shown next, runFrom newPassword host = (result, next) ∧ host.Talks shown next ∧
      ∀ password, result = .ok password → Chooses host.passwords password := by
  obtain ⟨shown, htalks, hchosen⟩ := (newPassword_reads host).talks
  exact ⟨_, shown, _, rfl, htalks, hchosen⟩

-- ---------------------------------------------------------------------------
-- The wallet
-- ---------------------------------------------------------------------------

def report (config : Config) (slot : Slot) (key : StoredKey) : List String :=
  ["",
    coloured 32 s!"Encrypted keypair stored in {slot.name}.",
    "",
    "Public key (base58):",
    "  " ++ key.publicKey.address,
    "",
    "Saved to: " ++ FileTree.join config.slotsDir (slot.name ++ ".bin"),
    "",
    coloured 33 "Warning:" ++ " " ++ "The key cannot be recovered without this password."]

def KeepsSlots (config : Config) (host next : Host) : Prop :=
  ∀ slot, SlotDirectory.file? ⟨config.slotsDir, next.files⟩ slot =
    SlotDirectory.file? ⟨config.slotsDir, host.files⟩ slot

/-- A slot holds a new wallet, of which a report was printed and which the accepted password
opens, and the other slots' files have not changed. -/
structure Created (config : Config) (slot : Slot) (host next : Host) (password : String)
    (key : StoredKey) : Prop where
  chosen : Chooses host.passwords password
  printed : ∃ shown, next.output = host.output ++ shown ++ Host.unlines (report config slot key)
  loaded : StoredKey.load (SlotDirectory.mk config.slotsDir next.files) slot = .ok key
  opened : ∃ keys, key.unlock (Text.toBytes password.toList) config.kdfIterations = .ok keys ∧
    keys.publicKey = key.publicKey ∧ keys.seed.bytes = host.random.take 32
  others : ∀ other, other ≠ slot → SlotDirectory.file? ⟨config.slotsDir, next.files⟩ other =
    SlotDirectory.file? ⟨config.slotsDir, host.files⟩ other

variable {config : Config} {slot : Slot} {host : Host}

section Store

variable {password : Bytes} {iterations : UInt32} {source : Bytes} {before after : SlotDirectory}

theorem path_create {result : Except WalletError StoredKey}
    (h : Wallet.create before slot password iterations source = (result, after)) :
    after.path = before.path := by
  cases result with
  | error e =>
    obtain rfl | ⟨payload, fault, hstore⟩ := Wallet.create_error h
    · rfl
    · exact SlotDirectory.path_store hstore
  | ok key => exact SlotDirectory.path_store (Wallet.create_ok h).2

theorem file?_create_error {e : WalletError}
    (h : Wallet.create before slot password iterations source = (.error e, after))
    (hstraight : before.files.Straight before.path) (other : Slot) :
    after.file? other = before.file? other := by
  obtain rfl | ⟨payload, fault, hstore⟩ := Wallet.create_error h
  · rfl
  · exact SlotDirectory.file?_store_error hstore hstraight other

theorem load_create {key : StoredKey}
    (h : Wallet.create before slot password iterations source = (.ok key, after)) :
    StoredKey.load after slot = .ok key :=
  StoredKey.load_of_fetch (LawfulSlotStore.fetch_stored (Wallet.create_ok h).2)

theorem unlock_create {key : StoredKey}
    (h : Wallet.create before slot password iterations source = (.ok key, after)) :
    ∃ keys, key.unlock password iterations = .ok keys ∧ keys.publicKey = key.publicKey ∧
      keys.seed.bytes = source.take 32 := by
  obtain ⟨⟨rest, hmade⟩, -⟩ := Wallet.create_ok h
  obtain ⟨seed, hseed, hpublic, hunlock⟩ := Wallet.generateStored_ok hmade
  exact ⟨_, hunlock, hpublic.symm, hseed⟩

end Store

theorem KeepsSlots.of_talks {next : Host} {shown : String} (h : host.Talks shown next) :
    KeepsSlots config host next := fun slot => by rw [h.files]

/-- What a run does once a password is accepted is what making the wallet does. -/
theorem generateUnder_run {asked : Host} {shown password : String} {files : FileTree}
    {made : Except WalletError StoredKey} (htalks : host.Talks shown asked)
    (hmade : Wallet.create (SlotDirectory.mk config.slotsDir host.files) slot
      (Text.toBytes password.toList) config.kdfIterations host.random =
        (made, ⟨config.slotsDir, files⟩)) :
    ∃ next, runFrom (generateUnder config slot password) asked =
        ((made.mapError .failed).map fun _ => (), next) ∧
      next.files = files ∧ next.linePrompts = asked.linePrompts ∧
      ∀ key, made = .ok key →
        ∃ shown, next.output = host.output ++ shown ++ Host.unlines (report config slot key) := by
  have htold := (htalks.trans (.print _ ("" ++ "\n"))).trans
    (.print _ ("Encrypting new key..." ++ "\n"))
  have hprompts : ((asked.print ("" ++ "\n")).print ("Encrypting new key..." ++ "\n")).linePrompts =
    asked.linePrompts := rfl
  rw [generateUnder, runFrom_bind_ok (runFrom_line _ _), runFrom_bind_ok (runFrom_line _ _)]
  generalize (asked.print ("" ++ "\n")).print ("Encrypting new key..." ++ "\n") = told
    at htold hprompts ⊢
  have hslots : runFrom (slots config) told = (.ok ⟨config.slotsDir, told.files⟩, told) := rfl
  have hget : runFrom get told = (.ok told, told) := rfl
  rw [runFrom_bind_ok hslots, runFrom_bind_ok hget]
  dsimp only
  rw [← htold.files, ← htold.random] at hmade
  rw [hmade]
  have hset : runFrom (set { told with files := files }) told =
    (.ok (), { told with files := files }) := rfl
  rw [runFrom_bind_ok hset]
  cases made with
  | error e => exact ⟨_, runFrom_bind_error (runFrom_lift _ _), rfl, hprompts, nofun⟩
  | ok key =>
    refine ⟨({ told with files := files } : Host).printLines (report config slot key),
      ?_, ?_, ?_, ?_⟩
    · rw [runFrom_bind_ok (runFrom_lift _ _)]
      simp only [runFrom_bind_ok (runFrom_line _ _), runFrom_bind_ok (runFrom_success _ _), report,
        Host.printLines, List.foldl_cons, List.foldl_nil]
      rfl
    · rw [Host.printLines_eq]
      rfl
    · rw [Host.printLines_eq]
      exact hprompts
    · rintro key' hkey
      obtain rfl : key = key' := Except.ok.inj hkey
      exact ⟨_, by rw [Host.printLines_eq, Host.print, htold.output]⟩

theorem generateUnder_ends (slot : Slot) {asked : Host} {shown password : String}
    (hstraight : host.files.Straight config.slotsDir) (htalks : host.Talks shown asked)
    (hchosen : Chooses host.passwords password) :
    ∃ result next, runFrom (generateUnder config slot password) asked = (result, next) ∧
      ((∃ e, result = .error e) ∧ KeepsSlots config host next ∨
        result = .ok () ∧ ∃ key, Created config slot host next password key) := by
  obtain ⟨made, ⟨path, files⟩, hmade⟩ : ∃ made store, Wallet.create
    (SlotDirectory.mk config.slotsDir host.files) slot (Text.toBytes password.toList)
    config.kdfIterations host.random = (made, store) := ⟨_, _, rfl⟩
  obtain rfl : path = config.slotsDir := path_create hmade
  obtain ⟨next, hrun, hfiles, -, hprinted⟩ := generateUnder_run htalks hmade
  refine ⟨_, next, hrun, ?_⟩
  cases made with
  | error e =>
    refine .inl ⟨⟨_, rfl⟩, fun other => ?_⟩
    rw [hfiles, file?_create_error hmade hstraight]
  | ok key =>
    refine .inr ⟨rfl, key, hchosen, hprinted key rfl, ?_, unlock_create hmade, ?_⟩
    · exact hfiles ▸ load_create hmade
    · intro other hother
      exact hfiles ▸ SlotDirectory.file?_store_ok (Wallet.create_ok hmade).2 hstraight hother

theorem generate_ends (slot : Slot) {asked : Host} {shown : String}
    (hstraight : host.files.Straight config.slotsDir) (htalks : host.Talks shown asked)
    (hanswers : asked.passwords = host.passwords) :
    ∃ result next, runFrom (generate config slot) asked = (result, next) ∧
      ((∃ e, result = .error e) ∧ KeepsSlots config host next ∨
        result = .ok () ∧ ∃ password key, Created config slot host next password key) := by
  obtain ⟨chosen, _, given, hask, hgiven, hchosen⟩ := newPassword_talks asked
  cases chosen with
  | error e =>
    exact ⟨_, given, runFrom_bind_error hask, .inl ⟨⟨e, rfl⟩, .of_talks (htalks.trans hgiven)⟩⟩
  | ok password =>
    obtain ⟨result, next, hrun, hends⟩ := generateUnder_ends slot hstraight
      (htalks.trans hgiven) (hanswers ▸ hchosen password rfl)
    refine ⟨result, next, (runFrom_bind_ok hask).trans hrun, hends.imp_right ?_⟩
    rintro ⟨hresult, key, hcreated⟩
    exact ⟨hresult, password, key, hcreated⟩

-- ---------------------------------------------------------------------------
-- Slots that are taken
-- ---------------------------------------------------------------------------

def question (config : Config) (slot : Slot) : String :=
  "Path: " ++ FileTree.join config.slotsDir (slot.name ++ ".bin") ++ "\n" ++
    "Overwrite the existing wallet? [y/N]: "

def decision : Bool → String
  | true => coloured 33 "Warning:" ++ " " ++
      "The existing key will be lost unless you have a copy!" ++ "\n"
  | false => "Aborted.\n"

theorem mayReplace_talks (config : Config) (slot : Slot) (host : Host) :
    ∃ next, runFrom (mayReplace ⟨config.slotsDir, host.files⟩ slot) host =
        (.ok (isYes host.answer), next) ∧
      host.Talks (question config slot ++ decision (isYes host.answer)) next ∧
      next.passwords = host.passwords := by
  let asked := (((host.complain s!"{slot.name} already holds a wallet").print ("Path: " ++
    FileTree.join config.slotsDir (slot.name ++ ".bin") ++ "\n")).print
      "Overwrite the existing wallet? [y/N]: ").nextLine
  have hasked : host.Talks (question config slot) asked := by
    simpa [question] using (((Host.Talks.complain host _).trans (.print _ _)).trans
      (.print _ _)).trans (.nextLine _)
  refine ⟨asked.print (decision (isYes host.answer)), ?_, hasked.trans (.print asked _), rfl⟩
  rw [mayReplace, runFrom_bind_ok (runFrom_complain _ _), runFrom_bind_ok (runFrom_line _ _),
    runFrom_bind_ok (runFrom_confirm _ _)]
  change runFrom (if isYes host.answer = true then _ else _) asked = _
  cases isYes host.answer <;> rfl

/-- A run that makes a wallet fails and leaves all slots' files, is called off at a slot that is
taken and leaves all files, or has made a wallet: the slot holds it, the accepted password
opens it, its address was printed, and the other slots' files are left. A slot that is taken
comes to that by force or with a yes. No step up may be taken from what is missing of the
directory. -/
theorem create_ends (config : Config) (slot : Slot) (force : Bool) (host : Host)
    (hstraight : host.files.Straight config.slotsDir) :
    let taken := (SlotDirectory.mk config.slotsDir host.files).holds slot
    ∃ result next, runFrom (create config slot force) host = (result, next) ∧
      (((∃ e, result = .error e) ∧ KeepsSlots config host next) ∨
      (result = .ok () ∧ taken = true ∧ force = false ∧ isYes host.answer = false ∧
        next.output = host.output ++ question config slot ++ "Aborted.\n" ∧
        next.files = host.files) ∨
      (result = .ok () ∧ (taken = true → force = true ∨ isYes host.answer = true) ∧
        ∃ password key, Created config slot host next password key)) := by
  intro taken
  have hslots : runFrom (slots config) host = (.ok ⟨config.slotsDir, host.files⟩, host) := rfl
  rw [create, runFrom_bind_ok hslots]
  by_cases hask : (taken && !force) = true
  · rw [if_pos hask]
    obtain ⟨htaken, hforce⟩ : taken = true ∧ force = false := by simpa using hask
    obtain ⟨asked, hrun, htalks, hanswers⟩ := mayReplace_talks config slot host
    rw [runFrom_bind_ok hrun]
    cases hyes : isYes host.answer with
    | true =>
      obtain ⟨result, next, hrun, hends⟩ :=
        generate_ends slot hstraight htalks hanswers
      refine ⟨result, next, hrun, hends.imp_right fun hcreated => .inr ?_⟩
      exact ⟨hcreated.1, fun _ => .inr rfl, hcreated.2⟩
    | false =>
      refine ⟨_, asked, runFrom_pure () asked, .inr (.inl ⟨rfl, htaken, hforce, rfl, ?_, ?_⟩)⟩
      · rw [htalks.output, hyes, String.append_assoc]
        rfl
      · exact htalks.files
  · rw [if_neg hask]
    obtain ⟨result, next, hrun, hends⟩ :=
      generate_ends slot hstraight (.refl host) rfl
    refine ⟨result, next, hrun, hends.imp_right fun hcreated => .inr ?_⟩
    refine ⟨hcreated.1, fun htaken => .inl ?_, hcreated.2⟩
    simpa [htaken] using hask

def configAt (slotsDir : String) : Config :=
  { Config.default "/" with slotsDir, kdfIterations := 1 }

/-- A host with two slots taken, a password that is given twice alike, and a no. -/
def takenHost : Host where
  random := List.replicate 60 7
  passwords := ["a", "a"]
  input := ['n', '\n']
  files := ⟨[("Str0.bin", .file FileTree.privateMode [1, 0]),
    ("Str1.bin", .file FileTree.privateMode [1, 1])], []⟩
  node := { reachable := false, replies := [], requests := [] }
  nextId := HttpLink.firstId
  output := ""
  errors := ""
  linePrompts := []

/-- A slot that is taken, and a no. -/
theorem create_ends_declined :
    ∃ next, runFrom (create (configAt ".") ⟨0⟩ false) takenHost = (.ok (), next) ∧
      next.files = takenHost.files := by
  have hthere : takenHost.files.checkDirectory "." = .ok () := rfl
  have hstraight : takenHost.files.Straight (configAt ".").slotsDir := fun hmissing =>
    nomatch hthere.symm.trans hmissing
  have htaken : (SlotDirectory.mk "." takenHost.files).holds ⟨0⟩ = true := rfl
  obtain ⟨result, next, hrun, ⟨⟨e, rfl⟩, -⟩ | ⟨rfl, -, -, -, -, hfiles⟩ | ⟨-, hallowed, -⟩⟩ :=
    create_ends (configAt ".") ⟨0⟩ false takenHost hstraight
  · have hok : (runFrom (create (configAt ".") ⟨0⟩ false) takenHost).1 = .ok () := rfl
    exact nomatch (congrArg Prod.fst hrun).symm.trans hok
  · exact ⟨next, hrun, hfiles⟩
  · have hdeclined : isYes takenHost.answer = false := rfl
    exact absurd (hallowed htaken) (by simp [hdeclined])

/-- The files of that host once a wallet has been made in the first slot of `missing/..`. -/
def replacedFiles (key : StoredKey) : FileTree :=
  ⟨[("Str0.bin", .file FileTree.privateMode key.form), ("missing", .directory []),
    ("Str1.bin", .file FileTree.privateMode [1, 1])], []⟩

theorem store_replaced (key : StoredKey) :
    SlotStore.store (SlotDirectory.mk "missing/.." takenHost.files) ⟨0⟩ key.payload =
      (.ok (), ⟨"missing/..", replacedFiles key⟩) := by
  simp only [SlotStore.store, SlotDirectory.store, key.frame_payload]
  rfl

/-- Behind a step up from a directory that is missing, a slot that is taken is not seen to be:
nothing is asked, its wallet is replaced, and another slot is taken once the directory has
been made. -/
theorem create_unasked :
    ∃ next, runFrom (create (configAt "missing/..") ⟨0⟩ false) takenHost = (.ok (), next) ∧
      isYes takenHost.answer = false ∧ next.linePrompts = [] ∧
      takenHost.files.file? "Str0.bin" = some ⟨FileTree.privateMode, [1, 0]⟩ ∧
      next.files.file? "Str0.bin" ≠ some ⟨FileTree.privateMode, [1, 0]⟩ ∧
      (SlotDirectory.mk "missing/.." takenHost.files).holds ⟨1⟩ = false ∧
      (SlotDirectory.mk "missing/.." next.files).holds ⟨1⟩ = true := by
  obtain ⟨key, hkey⟩ := Wallet.exists_generateStored (show ([0x61] : Bytes) ≠ [] by decide)
    (show (1 : UInt32) ≠ 0 by decide) (show 60 ≤ takenHost.random.length by decide)
  have hpassword : Text.toBytes "a".toList = [0x61] := by decide +kernel
  have hmade : Wallet.create (SlotDirectory.mk (configAt "missing/..").slotsDir takenHost.files) ⟨0⟩
      (Text.toBytes "a".toList) (configAt "missing/..").kdfIterations takenHost.random =
        (.ok key, ⟨(configAt "missing/..").slotsDir, replacedFiles key⟩) := by
    rw [hpassword]
    exact Wallet.create_of_save hkey (store_replaced key)
  obtain ⟨asked, hask, htalks, hprompts⟩ : ∃ asked, runFrom newPassword takenHost =
    (.ok "a", asked) ∧ takenHost.Talks "Enter password: Confirm password: " asked ∧
      asked.linePrompts = [] := ⟨_, rfl, ⟨rfl, rfl, rfl⟩, rfl⟩
  obtain ⟨next, hgenerate, hfiles, hlines, -⟩ := generateUnder_run htalks hmade
  have hfree : (SlotDirectory.mk "missing/.." takenHost.files).holds ⟨0⟩ = false := rfl
  have hslots : runFrom (slots (configAt "missing/..")) takenHost =
    (.ok ⟨"missing/..", takenHost.files⟩, takenHost) := rfl
  refine ⟨next, ?_, rfl, hlines.trans hprompts, ?_, ?_, rfl, ?_⟩
  · rw [create, runFrom_bind_ok hslots, hfree]
    exact (runFrom_bind_ok hask).trans hgenerate
  · exact FileTree.file?_eq_some.mpr (FileTree.lookup_ok.mpr ⟨["Str0.bin"], rfl, rfl⟩)
  · have hafter : next.files.file? "Str0.bin" = some ⟨FileTree.privateMode, key.form⟩ := by
      rw [hfiles]
      exact FileTree.file?_eq_some.mpr (FileTree.lookup_ok.mpr ⟨["Str0.bin"], rfl, rfl⟩)
    rw [hafter]
    simp [StoredKey.form]
  · have hpath : FileTree.join "missing/.." (Slot.name ⟨1⟩ ++ ".bin") = "missing/../Str1.bin" := by
      decide +kernel
    rw [hfiles, SlotDirectory.holds, SlotDirectory.slotPath, hpath]
    rfl

end Command

end SlotWallet
