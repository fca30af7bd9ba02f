import TronLedger.Lib.Keccak
import TronLedger.Lib.Sha256
import TronLedger.Lib.Buffer
import TronLedger.Lib.Base58
import TronLedger.Lib.StreamHash
import TronLedger.Lib.KeyedList
import TronLedger.Lib.Run
import TronLedger.Nanopb.Stream
import TronLedger.Nanopb.Decode
import TronLedger.Proto
import TronLedger.UInt256
import TronLedger.Amount
import TronLedger.Tokens
import TronLedger.Parse
import TronLedger.ProcessTx
import TronLedger.State
import TronLedger.ReviewMenu
import TronLedger.Swap
import TronLedger.Render
import TronLedger.Sign
import TronLedger.Handlers
import TronLedger.AppMain
import TronLedger.Lib.ExceptState
import TronLedger.Moves
import TronLedger.DataGate
import TronLedger.SessionContract
import TronLedger.ContentRule
import TronLedger.ContractSlice
import TronLedger.ChunkMerge
import TronLedger.Chunking
import TronLedger.WhatIsSigned
import TronLedger.OneContract
import TronLedger.RenderShown
import TronLedger.SwapShown
import TronLedger.BlindReviews
import TronLedger.ReviewBuffers
import TronLedger.AddressText
import TronLedger.Nanopb.LastWins
import TronLedger.WireValues
import TronLedger.CallData
import TronLedger.TokenCall
import TronLedger.SwapPayment
import TronLedger.SwapSteps
import TronLedger.SwapReport
import TronLedger.SwapRuns
import TronLedger.SwapBinding
import TronLedger.AddressReview
import TronLedger.VoteReview
import TronLedger.TokenDecimals
import TronLedger.SessionFee
import TronLedger.AmountReview
import TronLedger.TokenNames
import TronLedger.NativeAmounts
import TronLedger.ExchangeMetadata
import TronLedger.ExchangeLabels
import TronLedger.PermissionReview
import TronLedger.ResourceLabels
import TronLedger.Lib.Place
import TronLedger.Lib.Output
import TronLedger.Lib.Halves
import TronLedger.Lib.LongDivision
import TronLedger.Lib.Columns
import TronLedger.UInt256Value
import TronLedger.UInt256Memory
import TronLedger.UInt256Division
import TronLedger.UInt256Product
import TronLedger.UInt256Helpers
import TronLedger.UInt256Text
import TronLedger.AmountBuffer
import TronLedger.AdjustBounds
import TronLedger.MetadataBuffers
import TronLedger.SignatureFormat
import TronLedger.PathGrammar
import TronLedger.FinalChunk
import TronLedger.Lib.Decimal
import TronLedger.AmountValue
import TronLedger.CanonicalAmount
import TronLedger.AddressBook
import TronLedger.Labels
import TronLedger.LabelRuns
import TronLedger.SwapAmounts
import TronLedger.PrintableAmount
import TronLedger.PathIntegrity
import TronLedger.SessionClosed
import TronLedger.PersonalMessage
import TronLedger.Lib.Base128
import TronLedger.Nanopb.Encode
import TronLedger.Nanopb.RoundTrip
import TronLedger.Nanopb.Carries
import TronLedger.Encoding
import TronLedger.TxFixture
import TronLedger.Client
import TronLedger.Lib.Consent
import TronLedger.Consent
import TronLedger.Replies
import TronLedger.ClientCalls
import TronLedger.Lib.Refinement
import TronLedger.Screens
import TronLedger.TransactionEnd
import TronLedger.ReviewLines
import TronLedger.ShownLines
import TronLedger.WhatIsShown
import TronLedger.Lib.Lockstep
import TronLedger.Isolation
