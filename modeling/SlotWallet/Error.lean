import SlotWallet.Json.Printer
import SlotWallet.Text.Quoted

/-!
# Wallet errors

Each kind of error carries its cause, and the wording of every cause is in one
place. Each kind has one more constructor, `noted`, for a text that was received
rather than made here.
-/

namespace SlotWallet

inductive InputFault where
  | base58Character (c : Char) (position : Nat)
  | base58NonAscii (position : Nat)
  | base58Length (expected found : Nat)
  | emptyPassword
  | noIterations
  | compactLength
  | bufferFull (appended capacity : Nat)
  | emptyMemo
  | longMemo (length limit : Nat)
  | unprintableMemo
  | zeroAmount
  | selfTransfer
  | programRecipient
  | emptyAmount
  | solAmount (text : List Char)
  | lamportAmount (text : List Char)
  | hugeAmount
  | dustAmount
  | slotIndex (index count : Nat)
  | slotName (text : List Char)
  | longPayload (length limit : Nat)
  | noted (text : String)
deriving DecidableEq

inductive TransportFault where
  | badUrl
  | unreachable
  | tooManyHops
  | noted (text : String)
deriving DecidableEq

inductive ProtocolFault where
  | unparseable
  | missingResult
  | missingField (path : String)
  | notText (expected : String) (found : Json)
  | blockhashNotText
  | badBlockhash (cause : InputFault)
  | balanceNotUnsigned
  | noted (text : String)

inductive OsError where
  | notFound
  | notDirectory
  | isDirectory
  | exists
  | nameTooLong
  | invalidName
deriving DecidableEq

inductive StorageFault where
  | emptySlot (slot : String)
  | noLength
  | lengthMismatch (length found : Nat)
  | walletLength (expected found : Nat)
  | cannotCreate (path : String) (cause : OsError)
  | cannotWrite (path : String) (cause : OsError)
  | cannotRead (path : String) (cause : OsError)
  | noted (text : String)
deriving DecidableEq

inductive WalletError where
  | invalidInput (fault : InputFault)
  /-- A wrong password, an altered blob and a failed random source all look the
  same. -/
  | crypto
  | transport (fault : TransportFault)
  | httpStatus (status : Nat) (body : String)
  | rpc (code : Int) (message : String)
  | protocol (fault : ProtocolFault)
  | timeout (signature : String)
  | transactionFailed (signature reason : String)
  | storage (fault : StorageFault)

def OsError.message : OsError → String
  | .notFound => "No such file or directory (os error 2)"
  | .notDirectory => "Not a directory (os error 20)"
  | .isDirectory => "Is a directory (os error 21)"
  | .exists => "File exists (os error 17)"
  | .nameTooLong => "File name too long (os error 36)"
  | .invalidName => "file name contained an unexpected NUL byte"

def InputFault.message : InputFault → String
  | .base58Character c position =>
    "invalid base58: provided string contained invalid character " ++ Text.quotedChar c ++
      s!" at byte {position}"
  | .base58NonAscii position =>
    s!"invalid base58: provided string contained non-ascii character starting at byte {position}"
  | .base58Length expected found => s!"expected {expected} bytes of base58 data, got {found}"
  | .emptyPassword => "password must not be empty"
  | .noIterations => "iteration count must be positive"
  | .compactLength => "truncated or oversized shortvec"
  | .bufferFull appended capacity =>
    s!"append of {appended} bytes overflows the {capacity} byte buffer"
  | .emptyMemo => "memo must not be empty"
  | .longMemo length limit => s!"memo is {length} characters, the limit is {limit}"
  | .unprintableMemo => "memo may only contain printable ASCII characters"
  | .zeroAmount => "amount must be greater than zero"
  | .selfTransfer => "recipient is the sending account"
  | .programRecipient => "recipient is a program account"
  | .emptyAmount => "amount cannot be empty"
  | .solAmount text => "invalid SOL amount: " ++ Text.quoted text
  | .lamportAmount text => "invalid lamport amount: " ++ Text.quoted text
  | .hugeAmount => "amount exceeds the maximum supported size"
  | .dustAmount => "amount is too small to send"
  | .slotIndex index count => s!"slot index {index} out of range (0-{count - 1})"
  | .slotName text => "invalid slot name: " ++ Text.quoted text
  | .longPayload length limit => s!"payload of {length} bytes exceeds the {limit} byte slot limit"
  | .noted text => text

def TransportFault.message : TransportFault → String
  | .badUrl => "builder error"
  | .unreachable => "error sending request for url"
  | .tooManyHops => "error following redirect for url"
  | .noted text => text

def ProtocolFault.message : ProtocolFault → String
  | .unparseable => "unparseable RPC response"
  | .missingResult => "missing result in RPC response"
  | .missingField path => "missing field " ++ Text.quoted path.toList
  | .notText expected found => s!"expected {expected} string, got " ++ found.print
  | .blockhashNotText => "blockhash is not a string"
  | .badBlockhash cause => "bad blockhash: invalid input: " ++ cause.message
  | .balanceNotUnsigned => "balance is not an unsigned integer"
  | .noted text => text

def StorageFault.message : StorageFault → String
  | .emptySlot slot => s!"slot {slot} is empty"
  | .noLength => "slot contents are empty"
  | .lengthMismatch length found =>
    s!"slot length prefix says {length} bytes but {found} follow"
  | .walletLength expected found =>
    s!"expected a {expected} byte wallet payload, found {found} bytes"
  | .cannotCreate path cause => s!"cannot create {path}: " ++ cause.message
  | .cannotWrite path cause => s!"cannot write {path}: " ++ cause.message
  | .cannotRead path cause => s!"cannot read {path}: " ++ cause.message
  | .noted text => text

def WalletError.message : WalletError → String
  | .invalidInput fault => "invalid input: " ++ fault.message
  | .crypto => "authentication or format failure"
  | .transport fault => "transport failure: " ++ fault.message
  | .httpStatus status body => s!"HTTP error {status}: {body}"
  | .rpc code message => s!"RPC error {code}: {message}"
  | .protocol fault => "protocol failure: " ++ fault.message
  | .timeout signature => s!"timed out waiting for confirmation of {signature}"
  | .transactionFailed signature reason => s!"transaction {signature} failed: {reason}"
  | .storage fault => "storage failure: " ++ fault.message

end SlotWallet
