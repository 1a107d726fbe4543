import SlotWallet.Main
import SlotWallet.Node.Scripted
import SlotWallet.Proofs.SlotHistory
import SlotWallet.Proofs.Transfer
import SlotWallet.Proofs.Base58Form
import SlotWallet.Proofs.Base64
import SlotWallet.Proofs.Signed
import SlotWallet.Proofs.Acceptance
import SlotWallet.Proofs.Binary64
import SlotWallet.Proofs.Amount
import SlotWallet.Proofs.LargestAmount
import SlotWallet.Proofs.Client
import SlotWallet.Proofs.Submission
import SlotWallet.Proofs.SealedForm
import SlotWallet.Proofs.PasswordKey
import SlotWallet.Proofs.Polling
import SlotWallet.Proofs.HttpNode
import SlotWallet.Proofs.HttpCalls
import SlotWallet.Proofs.Command
import SlotWallet.Proofs.Sending
import SlotWallet.Proofs.Payer
import SlotWallet.Proofs.SlotRefinement
import SlotWallet.Proofs.FileModes
import SlotWallet.Proofs.Creating
import SlotWallet.Proofs.PollBudget
import SlotWallet.Proofs.TypedCalls
import SlotWallet.Proofs.ConfigFile
import SlotWallet.Proofs.Base64Form
import SlotWallet.Proofs.NewPassword
import SlotWallet.Proofs.Trimmed
import SlotWallet.Proofs.WholeAmount
import SlotWallet.Proofs.NodeAddress
import SlotWallet.Proofs.SecureEndpoint
import SlotWallet.Proofs.BufferRun
import SlotWallet.Proofs.Base58Length
import SlotWallet.Proofs.SlotName
