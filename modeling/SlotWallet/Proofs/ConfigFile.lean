import Mathlib.Algebra.Group.Nat.Defs
import SlotWallet.Config.File
import SlotWallet.Proofs.MissingDirectory
import SlotWallet.Proofs.TomlDocument

/-!
# Saved configurations are loaded

A configuration is written exactly if its numbers fit 64 bits with their sign, and then what
was written is read as the same configuration, under any home directory. Where it is not
written, no file has changed.
-/

namespace SlotWallet.Config

open Toml (Assignment document)

variable {config : Config} {files : FileTree} {path : String}

def numbers (config : Config) : List Nat :=
  [config.rpcTimeoutMs.toNat, config.pollIntervalMs.toNat, config.airdropTimeoutSecs.toNat,
    config.transferTimeoutSecs.toNat, config.kdfIterations.toNat]

-- ---------------------------------------------------------------------------
-- Text
-- ---------------------------------------------------------------------------

theorem fitsSigned_iff {n : Nat} : Toml.fitsSigned n = true ↔ n ≤ 2 ^ 63 - 1 := by
  simp only [Toml.fitsSigned, Bool.and_eq_true, decide_eq_true_eq]
  omega

def lines (config : Config) (h : ∀ n ∈ config.numbers, n ≤ 2 ^ 63 - 1) : List Assignment :=
  have fits {n : Nat} (hn : n ∈ config.numbers) : Toml.fitsSigned n := fitsSigned_iff.mpr (h n hn)
  [.ofText "rpc_url" config.rpcUrl (by decide),
    .ofNumber "rpc_timeout_ms" config.rpcTimeoutMs.toNat (fits (by simp [numbers])) (by decide),
    .ofText "slots_dir" config.slotsDir (by decide),
    .ofNumber "poll_interval_ms" config.pollIntervalMs.toNat (fits (by simp [numbers])) (by decide),
    .ofNumber "airdrop_timeout_secs" config.airdropTimeoutSecs.toNat (fits (by simp [numbers]))
      (by decide),
    .ofNumber "transfer_timeout_secs" config.transferTimeoutSecs.toNat (fits (by simp [numbers]))
      (by decide),
    .ofText "default_memo" config.defaultMemo (by decide),
    .ofNumber "kdf_iterations" config.kdfIterations.toNat (fits (by simp [numbers])) (by decide)]

theorem write?_of_fits (h : ∀ n ∈ config.numbers, n ≤ 2 ^ 63 - 1) :
    config.write? = some (document (config.lines h)) := by
  have hfits : ∀ n ∈ config.numbers, Toml.fitsSigned n = true :=
    fun n hn => fitsSigned_iff.mpr (h n hn)
  simp only [numbers, List.mem_cons, forall_eq_or_imp] at hfits
  obtain ⟨htimeout, hinterval, hairdrop, htransfer, -⟩ := hfits
  simp [write?, htimeout, hinterval, hairdrop, htransfer, lines, document, Assignment.line,
    Assignment.ofText, Assignment.ofNumber]

theorem write?_eq_none (h : ∃ n ∈ config.numbers, 2 ^ 63 - 1 < n) : config.write? = none := by
  obtain ⟨n, hn, hlarge⟩ := h
  have hfits : Toml.fitsSigned n = false := by
    rw [Bool.eq_false_iff, ne_eq, fitsSigned_iff]
    omega
  have hkdf := config.kdfIterations.toNat_lt
  simp only [numbers, List.mem_cons, List.not_mem_nil, or_false] at hn
  obtain rfl | rfl | rfl | rfl | rfl := hn
  · simp [write?, hfits]
  · simp [write?, hfits]
  · simp [write?, hfits]
  · simp [write?, hfits]
  · omega

theorem textAt?_of_lookup {table : Toml.Members} {key fallback text : String}
    (h : table.lookup key = some (.string text)) : textAt? table key fallback = some text := by
  rw [textAt?, h]

theorem numberAt?_of_lookup {table : Toml.Members} {key : String} {fallback limit n : Nat}
    (h : table.lookup key = some (.integer n)) (hn : n < limit) :
    numberAt? table key fallback limit = some n := by
  have hrange : (0 : Int) ≤ n ∧ (n : Int) < limit := by omega
  simp only [numberAt?, h, if_pos hrange, Int.toNat_natCast]

theorem parse?_document (home : String) (h : ∀ n ∈ config.numbers, n ≤ 2 ^ 63 - 1) :
    parse? home (document (config.lines h)) = some config := by
  have hkeys : ((config.lines h).map (·.key)).Nodup := by
    change ["rpc_url", "rpc_timeout_ms", "slots_dir", "poll_interval_ms", "airdrop_timeout_secs",
      "transfer_timeout_secs", "default_memo", "kdf_iterations"].Nodup
    decide
  have hlookup : ∀ a ∈ config.lines h, _ := fun a ha => Toml.lookup_of_mem hkeys ha
  rw [parse?, Toml.readDocument?_document hkeys, Option.bind_eq_bind, Option.bind_some]
  generalize (config.lines h).map (fun a => (a.key, a.value)) = table at *
  simp only [lines, Assignment.ofText, Assignment.ofNumber, List.mem_cons,
    forall_eq_or_imp] at hlookup
  obtain ⟨hurl, htimeout, hslots, hinterval, hairdrop, htransfer, hmemo, hkdf, -⟩ := hlookup
  have word {key : String} {fallback : Nat} {n : UInt64}
      (hn : table.lookup key = some (.integer n.toNat)) :
      numberAt? table key fallback UInt64.size = some n.toNat :=
    numberAt?_of_lookup hn n.toNat_lt
  have hiterations : numberAt? table "kdf_iterations" (default home).kdfIterations.toNat
      UInt32.size = some config.kdfIterations.toNat :=
    numberAt?_of_lookup hkdf config.kdfIterations.toNat_lt
  simp only [ofTable?, textAt?_of_lookup hurl, textAt?_of_lookup hslots, textAt?_of_lookup hmemo,
    word htimeout, word hinterval, word hairdrop, word htransfer, hiterations]
  simp

-- ---------------------------------------------------------------------------
-- Files
-- ---------------------------------------------------------------------------

/-- The directories above the path can be made, and then something can be written to it. -/
def Writable (files : FileTree) (path : String) : Prop :=
  ∃ prepared, files.makeDirectories (FileTree.above path) = (.ok (), prepared) ∧
    ∃ mode contents written, prepared.write path mode contents = .ok written

theorem save_of_none {prepared : FileTree}
    (hmade : files.makeDirectories (FileTree.above path) = (.ok (), prepared))
    (h : config.write? = none) : config.save files path = (.error .cannotSerialize, prepared) := by
  unfold save
  -- otherwise reducing the match would have the written text evaluated
  generalize config.write? = text at h ⊢
  rw [h, hmade]

theorem save_of_some {prepared written : FileTree} {text : List Char}
    (hmade : files.makeDirectories (FileTree.above path) = (.ok (), prepared))
    (h : config.write? = some text)
    (hwrite : prepared.write path FileTree.sharedMode (Text.toBytes text) = .ok written) :
    config.save files path = (.ok (), written) := by
  unfold save
  generalize config.write? = text at h ⊢
  rw [h, hmade]
  dsimp only
  rw [hwrite]

theorem loadFile_write {prepared written : FileTree} {mode : Nat} (home : String)
    (h : ∀ n ∈ config.numbers, n ≤ 2 ^ 63 - 1)
    (hwrite : prepared.write path mode (Text.toBytes (document (config.lines h))) = .ok written) :
    loadFile written home path = .ok config := by
  have hread := FileTree.read_write hwrite
  simp only [loadFile, hread, Text.ofBytes?_toBytes, String.toList_ofList, parse?_document]
  rfl

/-- A configuration with a number beyond 63 bits is not saved, and every file is where and as it
was; any other is saved so that it is loaded as it was, whatever its texts. -/
theorem loadFile_save (config : Config) {files : FileTree} {path : String} (home : String)
    (h : Writable files path) :
    ((∃ n ∈ config.numbers, 2 ^ 63 - 1 < n) ∧
      ∃ prepared, config.save files path = (.error .cannotSerialize, prepared) ∧
        files.SameFiles prepared ∧
        ∀ file, files.file? path = some file → prepared.file? path = some file) ∨
    ((∀ n ∈ config.numbers, n ≤ 2 ^ 63 - 1) ∧
      ∃ written, config.save files path = (.ok (), written) ∧
        loadFile written home path = .ok config) := by
  obtain ⟨prepared, hmade, mode, contents, other, hother⟩ := h
  by_cases hfits : ∀ n ∈ config.numbers, n ≤ 2 ^ 63 - 1
  · obtain ⟨held, hheld⟩ := FileTree.holdsAt_of_write hother
    obtain ⟨written, hwrite, -⟩ :=
      hheld.write FileTree.sharedMode (Text.toBytes (document (config.lines hfits)))
    exact .inr ⟨hfits, written, save_of_some hmade (write?_of_fits hfits) hwrite,
      loadFile_write home hfits hwrite⟩
  · obtain ⟨n, hn⟩ := Classical.not_forall.mp hfits
    obtain ⟨hmem, hle⟩ := Classical.not_imp.mp hn
    have hlarge : ∃ n ∈ config.numbers, 2 ^ 63 - 1 < n := ⟨n, hmem, Nat.lt_of_not_le hle⟩
    refine .inl ⟨hlarge, prepared, save_of_none hmade (write?_eq_none hlarge), ?_, ?_⟩
    · have hsame := FileTree.sameFiles_makeDirectories files (FileTree.above path)
      rwa [hmade] at hsame
    · intro file hfile
      have hkept := FileTree.file?_makeDirectories_of_some (FileTree.above path) hfile
      rwa [hmade] at hkept

/-- Texts with quotes, a backslash, line ends and a control, under a directory to be made. -/
def quotedConfig : Config where
  rpcUrl := "'\"\"\"\\"
  rpcTimeoutMs := 0
  slotsDir := "a\r\nb\t\u007f"
  pollIntervalMs := 0x7FFFFFFFFFFFFFFF
  airdropTimeoutSecs := 30
  transferTimeoutSecs := 60
  defaultMemo := ""
  kdfIterations := 1

theorem loadFile_save_quoted :
    Writable ⟨[], []⟩ "wallet/config.toml" ∧
      ∃ written, quotedConfig.save ⟨[], []⟩ "wallet/config.toml" = (.ok (), written) ∧
        loadFile written "/home" "wallet/config.toml" = .ok quotedConfig := by
  have hwritable : Writable ⟨[], []⟩ "wallet/config.toml" := ⟨_, rfl, 0, [], _, rfl⟩
  refine ⟨hwritable, ?_⟩
  obtain ⟨⟨n, hn, hlarge⟩, -⟩ | ⟨-, hsaved⟩ := loadFile_save quotedConfig "/home" hwritable
  · exact absurd hlarge (by revert n; decide)
  · exact hsaved

end SlotWallet.Config
