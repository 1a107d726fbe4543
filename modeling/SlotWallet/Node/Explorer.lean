/-!
# Explorer links

Where a transaction can be looked at. The cluster is guessed from the address of
the node; main net is the explorer's own default.
-/

namespace SlotWallet.Explorer

def occursIn (part : List Char) : List Char → Bool
  | [] => part = []
  | c :: rest => part.isPrefixOf (c :: rest) || occursIn part rest

def cluster (url : Option String) : Option String :=
  match url with
  | none => some "devnet"
  | some url =>
    let text := url.toList
    if occursIn "devnet".toList text then some "devnet"
    else if occursIn "testnet".toList text then some "testnet"
    else if occursIn "mainnet".toList text then none
    else some "custom"

def link (signature : String) (url : Option String) : String :=
  match cluster url with
  | some name => s!"https://solscan.io/tx/{signature}?cluster={name}"
  | none => s!"https://solscan.io/tx/{signature}"

end SlotWallet.Explorer
