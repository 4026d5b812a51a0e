import SealedReceipts.Bank.Arguments
import SealedReceipts.Bank.Counters
import SealedReceipts.Bank.Ledger
import SealedReceipts.Bank.Server
import SealedReceipts.Bank.Service
import SealedReceipts.Bank.Settings
import SealedReceipts.Bank.Store
import SealedReceipts.Bank.Submission
import SealedReceipts.Bank.Sweeper
import SealedReceipts.Bank.Webhook
import SealedReceipts.Binary64
import SealedReceipts.Binary64.FromDecimal
import SealedReceipts.Binary64.Shortest
import SealedReceipts.Bytes
import SealedReceipts.Calendar
import SealedReceipts.Catalog
import SealedReceipts.Catalog.Document
import SealedReceipts.Cipher.Aes
import SealedReceipts.Cipher.Gcm
import SealedReceipts.Configuration
import SealedReceipts.Configuration.Document
import SealedReceipts.Curve.Ecdsa
import SealedReceipts.Curve.Modular
import SealedReceipts.Curve.P256
import SealedReceipts.Curve.PointText
import SealedReceipts.Digits
import SealedReceipts.Digits.Bounded
import SealedReceipts.Duration
import SealedReceipts.Hash.Hmac
import SealedReceipts.Hash.Sha256
import SealedReceipts.Json.Decode
import SealedReceipts.Json.Document
import SealedReceipts.Json.Numeral
import SealedReceipts.Json.Token
import SealedReceipts.Json.Value
import SealedReceipts.LineItem
import SealedReceipts.Main
import SealedReceipts.Money
import SealedReceipts.OneTimeKey
import SealedReceipts.Proofs.Bank.Call
import SealedReceipts.Proofs.Bank.History
import SealedReceipts.Proofs.Bank.Ledger
import SealedReceipts.Proofs.Bank.Mirror
import SealedReceipts.Proofs.Bank.Store
import SealedReceipts.Proofs.Binary64.Rounding
import SealedReceipts.Proofs.Bytes
import SealedReceipts.Proofs.Calendar
import SealedReceipts.Proofs.Checks
import SealedReceipts.Proofs.Cipher.Aes
import SealedReceipts.Proofs.Cipher.Gcm
import SealedReceipts.Proofs.Curve.Field
import SealedReceipts.Proofs.Curve.Modular
import SealedReceipts.Proofs.Curve.PointText
import SealedReceipts.Proofs.Digits
import SealedReceipts.Proofs.Money
import SealedReceipts.Proofs.Receipt.AmountWords
import SealedReceipts.Proofs.Receipt.Decoding
import SealedReceipts.Proofs.Receipt.Encoding
import SealedReceipts.Proofs.Receipt.Identifier
import SealedReceipts.Proofs.Receipt.Reader
import SealedReceipts.Proofs.Receipt.Reencoding
import SealedReceipts.Proofs.Receipt.RoundTrip
import SealedReceipts.Proofs.Receipt.StoredForm
import SealedReceipts.Proofs.Register.AllOrNothing
import SealedReceipts.Proofs.Register.Attempt
import SealedReceipts.Proofs.Register.Issuance
import SealedReceipts.Proofs.Register.Recovery
import SealedReceipts.Proofs.Seal
import SealedReceipts.Receipt
import SealedReceipts.Receipt.Decoding
import SealedReceipts.Receipt.Document
import SealedReceipts.Receipt.Encoding
import SealedReceipts.Receipt.Field
import SealedReceipts.Receipt.Identifier
import SealedReceipts.Receipt.Record
import SealedReceipts.Receipt.Signed
import SealedReceipts.Register
import SealedReceipts.Register.Draft
import SealedReceipts.Register.Fault
import SealedReceipts.Register.Issuance
import SealedReceipts.Register.LocalBank
import SealedReceipts.Register.Sequence
import SealedReceipts.Register.Services
import SealedReceipts.Register.Submission
import SealedReceipts.Remote.Client
import SealedReceipts.Remote.Fault
import SealedReceipts.Seal
import SealedReceipts.SecretBuffer
import SealedReceipts.TaxBreakdown
import SealedReceipts.TaxRate
import SealedReceipts.Text.Base64
import SealedReceipts.Text.Blank
import SealedReceipts.Text.CombiningClass
import SealedReceipts.Text.Composed
import SealedReceipts.Text.Composite
import SealedReceipts.Text.Fields
import SealedReceipts.Text.Mark
import SealedReceipts.Text.Percent
import SealedReceipts.Text.Quoted
import SealedReceipts.Text.Ranges
import SealedReceipts.Text.Rows
import SealedReceipts.Text.Terminal
import SealedReceipts.Text.Unprintable
import SealedReceipts.Web.Address
import SealedReceipts.Web.Domain
import SealedReceipts.Web.Domain.Direction
import SealedReceipts.Web.Domain.Joining
import SealedReceipts.Web.Domain.Mapping
import SealedReceipts.Web.Http
import SealedReceipts.Web.MediaType
import SealedReceipts.Web.Punycode
import SealedReceipts.Web.Status
import SealedReceipts.Web.Url
import SealedReceipts.Proofs.Curve.Forms
import SealedReceipts.Proofs.Register.Lines
import SealedReceipts.Proofs.Register.Sales
import SealedReceipts.Proofs.Seal.Draws
import SealedReceipts.Proofs.Bank.Requests
import SealedReceipts.Proofs.Bank.ServiceHistory
import SealedReceipts.Proofs.Bank.HandedOut
import SealedReceipts.Proofs.Receipt.IdentifierForm
import SealedReceipts.Proofs.Checks.FirstFault
import SealedReceipts.Proofs.Receipt.Refusals
import SealedReceipts.Proofs.Register.Calls
import SealedReceipts.Proofs.Register.States
import SealedReceipts.Proofs.Register.OwnBank
import SealedReceipts.Proofs.Json.Texts
import SealedReceipts.Proofs.Remote.Client
import SealedReceipts.Proofs.Receipt.Content
import SealedReceipts.Proofs.Receipt.Ends
import SealedReceipts.Proofs.Register.Numbers
import SealedReceipts.Proofs.Register.LocalBank
import SealedReceipts.Proofs.Bank.InProcess
import SealedReceipts.Proofs.Register.WholePrices
import SealedReceipts.Proofs.Money.Range
import SealedReceipts.Proofs.Receipt.StoredAmounts
import SealedReceipts.Proofs.Receipt.Positions
import SealedReceipts.Proofs.Receipt.DecodeFaults
import SealedReceipts.Proofs.Bank.Expiry
import SealedReceipts.Proofs.Bank.KeyText
import SealedReceipts.Proofs.Seal.Opening
import SealedReceipts.Proofs.Seal.Consumption
import SealedReceipts.Proofs.Calendar.Counting
import SealedReceipts.Proofs.Receipt.IdentifierReading
import SealedReceipts.Proofs.Register.Stamping
import SealedReceipts.Proofs.Binary64.Counts
import SealedReceipts.Proofs.Binary64.Errors
import SealedReceipts.Proofs.Money.Storable
import SealedReceipts.Proofs.Receipt.Totals
import SealedReceipts.Proofs.Register.OutOfRange
import SealedReceipts.Proofs.Receipt.StoredSums
import SealedReceipts.Proofs.Register.PositiveTotals
import SealedReceipts.Proofs.Bank.Inverse
import SealedReceipts.Proofs.Bank.Notices
