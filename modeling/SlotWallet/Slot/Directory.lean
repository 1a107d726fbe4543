import SlotWallet.FileTree.Directories
import SlotWallet.Slot.Store

/-!
# Slots as files

One file a slot, `Str0.bin` to `Str9.bin`, in one directory that the first write
makes. A file holds the framed payload.
-/

namespace SlotWallet

structure SlotDirectory where
  path : String
  files : FileTree

namespace SlotDirectory

def slotPath (d : SlotDirectory) (slot : Slot) : String :=
  FileTree.join d.path (slot.name ++ ".bin")

def holds (d : SlotDirectory) (slot : Slot) : Bool :=
  d.files.exists? (d.slotPath slot)

def store (d : SlotDirectory) (slot : Slot) (payload : Bytes) :
    Except WalletError Unit × SlotDirectory :=
  match Frame.frame payload with
  | .error fault => (.error (.invalidInput fault), d)
  | .ok framed =>
    match d.files.makeDirectories d.path with
    | (.error e, files) => (.error (.storage (.cannotCreate d.path e)), { d with files })
    | (.ok (), files) =>
      let d := { d with files }
      match files.write (d.slotPath slot) FileTree.privateMode framed with
      | .error e => (.error (.storage (.cannotWrite (d.slotPath slot) e)), d)
      | .ok files => (.ok (), { d with files })

def fetch (d : SlotDirectory) (slot : Slot) : Except WalletError Bytes :=
  match d.files.read (d.slotPath slot) with
  | .ok framed => (Frame.unframe framed).mapError .storage
  | .error .notFound => throw (.storage (.emptySlot slot.name))
  | .error e => throw (.storage (.cannotRead (d.slotPath slot) e))

instance : SlotStore SlotDirectory := ⟨store, fetch⟩

end SlotDirectory

end SlotWallet
