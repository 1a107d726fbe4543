import SlotWallet.Error

/-!
# Calls to a node

A call names a method and its parameters. A transport is any state that answers
calls one after the other and can wait between them.
-/

namespace SlotWallet

structure Call where
  method : String
  params : Json

class Transport (σ : Type) where
  call : σ → Call → Except WalletError Json × σ
  sleep : σ → Nat → σ

/-- A computation that may call a node through a transport of state `σ`. -/
abbrev Client (σ : Type) := ExceptT WalletError (StateM σ)

namespace Client

variable {σ : Type} [Transport σ]

def ask (call : Call) : Client σ Json := ExceptT.mk fun s => Transport.call s call

def lift {α : Type} : Except WalletError α → Client σ α
  | .ok a => pure a
  | .error e => throw e

end Client

end SlotWallet
