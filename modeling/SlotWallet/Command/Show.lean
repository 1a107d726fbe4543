import SlotWallet.Command.Basic

/-!
# Showing a wallet

The public key, on request the sealed seed in hexadecimal, and on request a check
of the password.
-/

namespace SlotWallet.Command

def showWallet (config : Config) (slot : Slot) (verify raw : Bool) : Command Unit := do
  let key ← loadWallet config slot
  line s!"Wallet in {slot.name}:"
  line ("  Public key: " ++ key.publicKey.address)
  if raw then line ("  Blob:       " ++ Bytes.hex key.sealedSeed.toBytes)
  if verify then
    line ""
    let keys ← unlock config key
    if keys.publicKey = key.publicKey then
      success "Password verified; the key matches the stored public key."
    else
      warning "The decrypted key does not match the stored public key."
      line ("  Derived public key: " ++ keys.address)

end SlotWallet.Command
