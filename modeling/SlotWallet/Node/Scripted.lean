import SlotWallet.Node.Call

/-!
# Scripted nodes

A scripted node has its answers ready and keeps what it was asked. Once the
script is at its end, every call fails.
-/

namespace SlotWallet

structure ScriptedNode where
  replies : List (Except WalletError Json)
  calls : List Call
  slept : List Nat

namespace ScriptedNode

def ofReplies (replies : List (Except WalletError Json)) : ScriptedNode := ⟨replies, [], []⟩

def exhausted : WalletError := .transport (.noted "script exhausted")

def call (node : ScriptedNode) (call : Call) : Except WalletError Json × ScriptedNode :=
  match node.replies with
  | reply :: rest => (reply, { node with replies := rest, calls := node.calls ++ [call] })
  | [] => (.error exhausted, { node with calls := node.calls ++ [call] })

def sleep (node : ScriptedNode) (nanoseconds : Nat) : ScriptedNode :=
  { node with slept := node.slept ++ [nanoseconds] }

instance : Transport ScriptedNode := ⟨call, sleep⟩

theorem calls_call (node : ScriptedNode) (c : Call) :
    (node.call c).2.calls = node.calls ++ [c] := by
  unfold call
  split <;> rfl

end ScriptedNode

end SlotWallet
