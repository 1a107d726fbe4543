import SlotWallet.Command.Basic
import SlotWallet.Wallet

/-!
# Making a wallet

A slot that already holds something is replaced only after a yes, or by force.
The new password is asked for until it is not empty and given twice alike.
-/

namespace SlotWallet.Command

def newPasswordWithin : Nat → Command String
  | 0 => throw .noPassword
  | tries + 1 => do
    let password ← askPassword "Enter password: "
    if password = "" then
      complain "Password must not be empty"
      newPasswordWithin tries
    else
      let again ← askPassword "Confirm password: "
      if password = again then pure password
      else
        complain "Passwords do not match"
        newPasswordWithin tries

/-- Each try takes an answer, so the answers that are left bound the tries. -/
def newPassword : Command String := do
  newPasswordWithin ((← get).passwords.length + 1)

def mayReplace (store : SlotDirectory) (slot : Slot) : Command Bool := do
  complain s!"{slot.name} already holds a wallet"
  line ("Path: " ++ store.slotPath slot)
  if ← confirm "Overwrite the existing wallet?" then
    warning "The existing key will be lost unless you have a copy!"
    pure true
  else
    line "Aborted."
    pure false

def generateUnder (config : Config) (slot : Slot) (password : String) : Command Unit := do
  line ""
  line "Encrypting new key..."
  let store ← slots config
  let host ← get
  let (result, store) :=
    Wallet.create store slot (Text.toBytes password.toList) config.kdfIterations host.random
  set { host with files := store.files }
  let key ← lift result
  line ""
  success s!"Encrypted keypair stored in {slot.name}."
  line ""
  line "Public key (base58):"
  line ("  " ++ key.publicKey.address)
  line ""
  line ("Saved to: " ++ store.slotPath slot)
  line ""
  warning "The key cannot be recovered without this password."

def generate (config : Config) (slot : Slot) : Command Unit := do
  generateUnder config slot (← newPassword)

def create (config : Config) (slot : Slot) (force : Bool) : Command Unit := do
  let store ← slots config
  if store.holds slot && !force then
    if ← mayReplace store slot then generate config slot
  else generate config slot

end SlotWallet.Command
