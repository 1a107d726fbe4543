import SlotWallet.KeyPair
import SlotWallet.Transfer.Memo
import SlotWallet.Transfer.WireBuffer

/-!
# Transfer messages

A message has a header, a table of keys, a recent blockhash and instructions. A
transfer is one instruction of the system program, and a memo is one more of the
memo program, whose key is in the table only then.

    header        1, 0, keys - 2
    keys          length, then 32 bytes each: sender, recipient, system, memo program
    blockhash     32 bytes
    instructions  length, then each: program index, accounts behind their length,
                  data behind its length

`Message.read` is the reader of this grammar.
-/

namespace SlotWallet

abbrev Blockhash := FixedBytes 32

def blockhashLength : Nat := 32

def systemProgram : PublicKey := .zero 32

def memoProgramAddress : String := "MemoSq4gqABAXKb96qnH8TysNcWxMyWCqXgDLGmfcHr"

def memoProgram : PublicKey :=
  ⟨[0x05, 0x4a, 0x53, 0x5a, 0x99, 0x29, 0x21, 0x06, 0x4d, 0x24, 0xe8, 0x71, 0x60, 0xda, 0x38,
    0x7c, 0x7c, 0x35, 0xb5, 0xdd, 0xbc, 0x92, 0xbb, 0x81, 0xe4, 0x1f, 0xa8, 0x40, 0x41, 0x05,
    0x44, 0x8d], rfl⟩

theorem encode_memoProgram : Base58.encode memoProgram.bytes = memoProgramAddress := by
  cbv

structure TransferRequest where
  recipient : PublicKey
  lamports : UInt64
  blockhash : Blockhash
  memo : Option Memo

namespace TransferRequest

def messageCapacity : Nat := 512

def keys (request : TransferRequest) (sender : PublicKey) : List PublicKey :=
  [sender, request.recipient, systemProgram] ++
    (if request.memo.isSome then [memoProgram] else [])

/-- The programs that this transfer calls; none of them can be paid. -/
def programs (request : TransferRequest) : List PublicKey :=
  systemProgram :: (if request.memo.isSome then [memoProgram] else [])

def transferTag : Bytes := [2, 0, 0, 0]

def transferData (request : TransferRequest) : Bytes :=
  transferTag ++ Bytes.ofLittleEndian 8 request.lamports.toNat

def fault? (request : TransferRequest) (sender : PublicKey) : Option InputFault :=
  if request.lamports = 0 then some .zeroAmount
  else if request.recipient = sender then some .selfTransfer
  else if request.recipient ∈ request.programs then some .programRecipient
  else none

def pushMemo (memo : Memo) (b : WireBuffer) : Except InputFault WireBuffer := do
  let b ← b.push 3
  let b ← b.pushLength 0
  let b ← b.pushLength memo.bytes.length
  b.append memo.bytes

def write (request : TransferRequest) (sender : PublicKey) : Except InputFault WireBuffer := do
  let keys := request.keys sender
  let b ← (WireBuffer.empty messageCapacity).append [1, 0, UInt8.ofNat (keys.length - 2)]
  let b ← b.pushLength keys.length
  let b ← keys.foldlM (fun (b : WireBuffer) key => b.append key.bytes) b
  let b ← b.append request.blockhash.bytes
  let b ← b.pushLength (if request.memo.isSome then 2 else 1)
  let b ← b.push 2
  let b ← b.pushLength 2
  let b ← b.append [0, 1]
  let b ← b.pushLength request.transferData.length
  let b ← b.append request.transferData
  match request.memo with
  | some memo => pushMemo memo b
  | none => pure b

def compile (request : TransferRequest) (sender : PublicKey) : Except InputFault WireBuffer :=
  match request.fault? sender with
  | some fault => throw fault
  | none => request.write sender

end TransferRequest

structure Instruction where
  program : UInt8
  accounts : List UInt8
  data : Bytes
deriving DecidableEq

structure Message where
  signers : UInt8
  readonlySigned : UInt8
  readonlyUnsigned : UInt8
  keys : List (FixedBytes 32)
  blockhash : FixedBytes 32
  instructions : List Instruction
deriving DecidableEq

namespace Message

def readLength (bytes : Bytes) : Option (Nat × Bytes) :=
  match CompactLength.decode bytes with
  | .ok (n, used) => some (n, bytes.drop used)
  | .error _ => none

def readFixed (n : Nat) (bytes : Bytes) : Option (FixedBytes n × Bytes) :=
  (FixedBytes.ofBytes? (bytes.take n)).map fun a => (a, bytes.drop n)

def readCounted (bytes : Bytes) : Option (Bytes × Bytes) := do
  let (n, rest) ← readLength bytes
  if n ≤ rest.length then some (rest.take n, rest.drop n) else none

def readMany {α : Type} (part : Bytes → Option (α × Bytes)) : Nat → Bytes → Option (List α × Bytes)
  | 0, bytes => some ([], bytes)
  | count + 1, bytes => do
    let (a, bytes) ← part bytes
    let (rest, bytes) ← readMany part count bytes
    pure (a :: rest, bytes)

def readInstruction : Bytes → Option (Instruction × Bytes)
  | [] => none
  | program :: bytes => do
    let (accounts, bytes) ← readCounted bytes
    let (data, bytes) ← readCounted bytes
    pure (⟨program, accounts, data⟩, bytes)

def read : Bytes → Option Message
  | a :: b :: c :: bytes => do
    let (keyCount, bytes) ← readLength bytes
    let (keys, bytes) ← readMany (readFixed 32) keyCount bytes
    let (blockhash, bytes) ← readFixed 32 bytes
    let (instructionCount, bytes) ← readLength bytes
    let (instructions, bytes) ← readMany readInstruction instructionCount bytes
    if bytes = [] then some ⟨a, b, c, keys, blockhash, instructions⟩ else none
  | _ => none

end Message

end SlotWallet
