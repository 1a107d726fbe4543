import SlotWallet.Proofs.NodeAddress
import SlotWallet.Proofs.Trimmed

/-!
# Only secure addresses are called

Every configuration that is loaded has an `https` address with no blanks around it: that of the
environment or of the file, or the default in place of one that is not secure. A run of the
program posts there, and is led elsewhere by redirects only (`posts_securely`).
-/

namespace SlotWallet

namespace Config

structure Secure (url : String) : Prop where
  https : "https://".toList <+: url.toList
  bare : Text.Bare url.toList

def SecureWithin (text : String) : Prop := "https://".toList <+: Text.trim text.toList

instance (text : String) : Decidable (SecureWithin text) :=
  inferInstanceAs (Decidable ("https://".toList <+: Text.trim text.toList))

def Parses (files : FileTree) (home path : String) (read : Config) : Prop :=
  ∃ bytes text, files.read path = .ok bytes ∧ Text.ofBytes? bytes = some text ∧
    parse? home text.toList = some read

/-- The configuration before the environment is asked: that of the file that is named, else of
the default file, else the default. -/
inductive Given (files : FileTree) (home : String) : Option String → Config → Prop
  | named {path : String} {read : Config} (hread : Parses files home path read) :
      Given files home (some path) read
  | found {read : Config} (hthere : files.exists? (defaultPath home) = true)
      (hread : Parses files home (defaultPath home) read) : Given files home none read
  | absent (hmissing : files.exists? (defaultPath home) = false) :
      Given files home none (default home)

def Silent (value : Option String) : Prop := ∀ text ∈ value, Text.trim text.toList = []

/-- The address that is called, of what the environment says and of what is configured. -/
inductive Endpoint : Option String → String → String → Prop
  | overridden {text configured : String} (hsecure : SecureWithin text) :
      Endpoint (some text) configured (String.ofList (Text.trim text.toList))
  | insecure {text configured : String} (hspoken : Text.trim text.toList ≠ [])
      (hinsecure : ¬SecureWithin text) : Endpoint (some text) configured defaultRpcUrl
  | configured {value : Option String} {configured : String} (hsilent : Silent value)
      (hsecure : SecureWithin configured) :
      Endpoint value configured (String.ofList (Text.trim configured.toList))
  | fallback {value : Option String} {configured : String} (hsilent : Silent value)
      (hinsecure : ¬SecureWithin configured) : Endpoint value configured defaultRpcUrl

-- ---------------------------------------------------------------------------
-- Addresses
-- ---------------------------------------------------------------------------

section Addresses

variable {text url : String} {value : Option String} {config : Config}

theorem isSecure_iff {url : List Char} : isSecure url = true ↔ "https://".toList <+: url :=
  List.isPrefixOf_iff_prefix

theorem secure_default : Secure defaultRpcUrl :=
  ⟨by decide +kernel, Text.bare_of_all (by decide +kernel)⟩

theorem SecureWithin.secure (h : SecureWithin text) :
    Secure (String.ofList (Text.trim text.toList)) := by
  have htext := String.toList_ofList (l := Text.trim text.toList)
  constructor
  · rwa [htext]
  · rw [htext]
    exact Text.bare_trim text.toList

theorem SecureWithin.ne_nil (h : SecureWithin text) : Text.trim text.toList ≠ [] := by
  intro hnil
  rw [SecureWithin, hnil] at h
  simp at h

theorem resolveRpcUrl_secure (h : SecureWithin text) :
    resolveRpcUrl (some text) = String.ofList (Text.trim text.toList) :=
  if_pos (isSecure_iff.mpr h)

theorem resolveRpcUrl_insecure (h : ¬SecureWithin text) :
    resolveRpcUrl (some text) = defaultRpcUrl :=
  if_neg fun hsecure => h (isSecure_iff.mp hsecure)

theorem overrideRpcUrl_silent (h : Silent value) :
    config.overrideRpcUrl value =
      { config with rpcUrl := resolveRpcUrl (some config.rpcUrl) } := by
  cases value with
  | none => rfl
  | some text => simp only [overrideRpcUrl, h text rfl, if_true]

theorem overrideRpcUrl_some (h : Text.trim text.toList ≠ []) :
    config.overrideRpcUrl (some text) = { config with rpcUrl := resolveRpcUrl (some text) } := by
  simp only [overrideRpcUrl, h, if_false]

theorem exists_endpoint (value : Option String) (configured : String) :
    ∃ url, Endpoint value configured url := by
  by_cases hsilent : Silent value
  · by_cases hsecure : SecureWithin configured
    · exact ⟨_, .configured hsilent hsecure⟩
    · exact ⟨_, .fallback hsilent hsecure⟩
  · cases value with
    | none => exact absurd nofun hsilent
    | some text =>
      by_cases hsecure : SecureWithin text
      · exact ⟨_, .overridden hsecure⟩
      · refine ⟨_, .insecure ?_ hsecure⟩
        intro hblank
        refine hsilent fun other hother => ?_
        rwa [← Option.some.inj hother]

theorem overrideRpcUrl_eq (h : Endpoint value config.rpcUrl url) :
    config.overrideRpcUrl value = { config with rpcUrl := url } := by
  cases h with
  | overridden hsecure => rw [overrideRpcUrl_some hsecure.ne_nil, resolveRpcUrl_secure hsecure]
  | insecure hspoken hinsecure =>
    rw [overrideRpcUrl_some hspoken, resolveRpcUrl_insecure hinsecure]
  | configured hsilent hsecure =>
    rw [overrideRpcUrl_silent hsilent, resolveRpcUrl_secure hsecure]
  | fallback hsilent hinsecure =>
    rw [overrideRpcUrl_silent hsilent, resolveRpcUrl_insecure hinsecure]

theorem Endpoint.secure {configured : String} (h : Endpoint value configured url) : Secure url := by
  cases h with
  | overridden hsecure => exact hsecure.secure
  | insecure => exact secure_default
  | configured _ hsecure => exact hsecure.secure
  | fallback => exact secure_default

theorem endpoint_of_secure (hsilent : Silent value) (h : Secure url) : Endpoint value url url := by
  have htrim : Text.trim url.toList = url.toList := Text.trim_eq_self h.bare
  have hwithin : SecureWithin url := by
    rw [SecureWithin, htrim]
    exact h.https
  have hurl := Endpoint.configured hsilent hwithin
  rwa [htrim, String.ofList_toList] at hurl

theorem Endpoint.again {configured : String} (h : Endpoint value configured url) :
    Endpoint value url url := by
  cases h with
  | overridden hsecure => exact .overridden hsecure
  | insecure hspoken hinsecure => exact .insecure hspoken hinsecure
  | configured hsilent hsecure => exact endpoint_of_secure hsilent hsecure.secure
  | fallback hsilent => exact endpoint_of_secure hsilent secure_default

end Addresses

-- ---------------------------------------------------------------------------
-- Loading
-- ---------------------------------------------------------------------------

section Loading

variable {files : FileTree} {home : String} {path value : Option String} {config read : Config}

theorem loadFile_ok {path : String} :
    loadFile files home path = .ok read ↔ Parses files home path read := by
  unfold loadFile Parses
  cases files.read path with
  | error e => simp [throw, throwThe, MonadExceptOf.throw]
  | ok bytes =>
    cases hbytes : Text.ofBytes? bytes with
    | none => simp [hbytes, throw, throwThe, MonadExceptOf.throw]
    | some text =>
      cases hparse : parse? home text.toList with
      | none => simp [hbytes, hparse, throw, throwThe, MonadExceptOf.throw]
      | some read => simp [hbytes, hparse, pure, Except.pure]

theorem given_some {path : String} :
    Given files home (some path) read ↔ Parses files home path read := by
  constructor
  · rintro ⟨hread⟩
    exact hread
  · exact .named

theorem given_none_of_there (h : files.exists? (defaultPath home) = true) :
    Given files home none read ↔ Parses files home (defaultPath home) read := by
  constructor
  · intro hgiven
    cases hgiven with
    | found _ hread => exact hread
    | absent hmissing => exact nomatch h.symm.trans hmissing
  · exact .found h

theorem given_none_of_missing (h : files.exists? (defaultPath home) = false) :
    Given files home none read ↔ default home = read := by
  constructor
  · intro hgiven
    cases hgiven with
    | found hthere => exact nomatch h.symm.trans hthere
    | absent => rfl
  · rintro rfl
    exact .absent h

theorem load_ok_iff : load files home path value = .ok config ↔
    ∃ read, Given files home path read ∧ read.overrideRpcUrl value = config := by
  unfold load
  cases path with
  | some path => simp only [bind_ok, pure_ok, loadFile_ok, given_some]
  | none =>
    cases hthere : files.exists? (defaultPath home) with
    | true => simp only [if_true, bind_ok, pure_ok, loadFile_ok, given_none_of_there hthere]
    | false =>
      simp only [Bool.false_eq_true, if_false, bind_ok, pure_ok, given_none_of_missing hthere]

theorem load_ok : load files home path value = .ok config ↔
    ∃ read url, Given files home path read ∧ Endpoint value read.rpcUrl url ∧
      config = { read with rpcUrl := url } := by
  rw [load_ok_iff]
  constructor
  · rintro ⟨read, hgiven, rfl⟩
    obtain ⟨url, hurl⟩ := exists_endpoint value read.rpcUrl
    exact ⟨read, url, hgiven, hurl, overrideRpcUrl_eq hurl⟩
  · rintro ⟨read, url, hgiven, hurl, rfl⟩
    exact ⟨read, hgiven, overrideRpcUrl_eq hurl⟩

theorem load_secure (h : load files home path value = .ok config) :
    Secure config.rpcUrl ∧ config.overrideRpcUrl value = config ∧
      config.overrideRpcUrl none = config := by
  obtain ⟨read, url, -, hurl, rfl⟩ := load_ok.mp h
  exact ⟨hurl.secure, overrideRpcUrl_eq hurl.again,
    overrideRpcUrl_eq (endpoint_of_secure nofun hurl.secure)⟩

end Loading

end Config

namespace Program

theorem execute_requests (env : Environment) (invocation : CommandLine.Invocation) (host : Host) :
    ∃ new, (Command.runFrom (execute env invocation) host).2.node.requests =
        host.node.requests ++ new ∧
      ∀ request ∈ new, ∃ config,
        Config.load host.files env.home invocation.config env.rpcUrl = .ok config ∧
        (host.link config.rpcUrl).Posted request := by
  have hget : Command.runFrom get host = (.ok host, host) := rfl
  rw [execute, Command.runFrom_bind_ok hget]
  cases hload : Config.load host.files env.home invocation.config env.rpcUrl with
  | error fault => exact ⟨[], (List.append_nil _).symm, nofun⟩
  | ok config =>
    obtain ⟨events, hfollows⟩ := Command.dispatch_callsAt
      { config with slotsDir := invocation.slotsDir.getD config.slotsDir } invocation.command host
    obtain ⟨new, hnew, -, hposted⟩ := hfollows.requests_eq
    exact ⟨new, hnew, fun request hrequest => ⟨config, rfl, hposted request hrequest⟩⟩

theorem run_requests (env : Environment) (args : List String) (host : Host) :
    ∃ new, (run env args host).host.node.requests = host.node.requests ++ new ∧
      ∀ request ∈ new, ∃ invocation config, CommandLine.parse args = .ok invocation ∧
        Config.load host.files env.home invocation.config env.rpcUrl = .ok config ∧
        (host.link config.rpcUrl).Posted request := by
  unfold run
  cases hparse : CommandLine.parse args with
  | error stop =>
    refine ⟨[], ?_, nofun⟩
    cases stop <;> exact (List.append_nil _).symm
  | ok invocation =>
    obtain ⟨new, hnew, hloaded⟩ := execute_requests env invocation host
    refine ⟨new, ?_, ?_⟩
    · rw [← hnew, Command.runFrom]
      dsimp only
      rcases (execute env invocation).run.run host with ⟨_ | _, next⟩ <;> rfl
    · intro request hrequest
      obtain ⟨config, hload, hposted⟩ := hloaded request hrequest
      exact ⟨invocation, config, rfl, hload, hposted⟩

/-- A configuration is loaded exactly if it is that of the file, or the default without a file, but
for the address, and that is the secure one of the environment, of the file or by default. To
override the address once more, with the same or with nothing, changes nothing. Whatever a run of
the program posts, it posts to the address of the configuration that it loads, and from there it
is led nowhere but where a reply leads. -/
theorem posts_securely :
    (∀ files home path value config,
      (Config.load files home path value = .ok config ↔
        ∃ read url, Config.Given files home path read ∧ Config.Endpoint value read.rpcUrl url ∧
          config = { read with rpcUrl := url }) ∧
      (Config.load files home path value = .ok config →
        Config.Secure config.rpcUrl ∧ config.overrideRpcUrl value = config ∧
          config.overrideRpcUrl none = config)) ∧
    ∀ env args host, ∃ new,
      (run env args host).host.node.requests = host.node.requests ++ new ∧
      ∀ request ∈ new, Config.Secure request.url ∧
        (∀ hop ∈ request.hops, ∃ reply ∈ host.node.replies, reply.Redirects hop) ∧
        ∃ invocation config, CommandLine.parse args = .ok invocation ∧
          Config.load host.files env.home invocation.config env.rpcUrl = .ok config ∧
          request.url = config.rpcUrl := by
  refine ⟨fun files home path value config => ⟨Config.load_ok, Config.load_secure⟩, ?_⟩
  intro env args host
  obtain ⟨new, hnew, hloaded⟩ := run_requests env args host
  refine ⟨new, hnew, fun request hrequest => ?_⟩
  obtain ⟨invocation, config, hparse, hload, hurl, hhops⟩ := hloaded request hrequest
  refine ⟨?_, hhops, invocation, config, hparse, hload, hurl⟩
  rw [hurl]
  exact (Config.load_secure hload).1

/-- A node that is called at a secure address may lead the client to another one. -/
theorem redirected_insecurely :
    let host : Host :=
      { random := [], passwords := [], input := [], files := ⟨[], []⟩
        node := ⟨true, [.answer 307 "" (some "http://127.0.0.1/")], []⟩
        nextId := HttpLink.firstId, output := "", errors := "", linePrompts := [] }
    let args := ["balance", "--address", "11111111111111111111111111111111"]
    let requests := (run ⟨"/", none⟩ args host).host.node.requests
    requests.map (fun request => (request.verb, request.url, request.hops)) =
        [("POST", Config.defaultRpcUrl, [.repeated "http://127.0.0.1/"])] ∧
      ¬Config.Secure "http://127.0.0.1/" := by
  refine ⟨by decide +kernel, ?_⟩
  rintro ⟨hhttps, -⟩
  exact absurd hhttps (by decide +kernel)

/-- Without a file, an address that is not secure is replaced by the default one. -/
theorem posts_securely_insecure :
    ∃ config, Config.load ⟨[], []⟩ "/" none (some " http://localhost:8899 ") = .ok config ∧
      config.rpcUrl = Config.defaultRpcUrl ∧ Config.Secure config.rpcUrl := by
  have hmissing : FileTree.exists? ⟨[], []⟩ (Config.defaultPath "/") = false := by decide +kernel
  have hload := (posts_securely.1 ⟨[], []⟩ "/" none (some " http://localhost:8899 ") _).1.mpr
    ⟨_, _, .absent hmissing, .insecure (by decide +kernel) (by decide +kernel), rfl⟩
  exact ⟨_, hload, rfl, ((posts_securely.1 _ _ _ _ _).2 hload).1⟩

end Program

end SlotWallet
