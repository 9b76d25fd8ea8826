import AS4.SignatureWrapping
import AS4.ForgedSignals
import AS4.PayloadCoverage
import AS4.ExchangeInvariants
import AS4.RecordedExchange
import AS4.RecordLaws
import AS4.RecordReloads
import AS4.TrustChain
import AS4.CertifiedAccessPoint
import AS4.SignalRefusals
import AS4.DecryptionOracle
import AS4.SignalBuilding
import AS4.ReceivingRuns
import AS4.RestoredReceivers
import AS4.RestoredSenders
import AS4.PolicyStrictness
import AS4.MessageReadings
import AS4.BuiltMessages
import AS4.LooseMessages
import AS4.BuiltSignals
import AS4.NonRepudiation
import AS4.SignalDeliveries
import AS4.EarlyReadings
import AS4.DecryptionGates
import AS4.GzipStreams
import AS4.PayloadDecompression
import AS4.RepeatedReferences
import AS4.EmittedSignals
import AS4.TwinReadings
import AS4.CommentedMessages
import AS4.AnsweredRequests
import AS4.DocumentIdentifiers
import AS4.PathLengths
import AS4.RepeatedEntries
import AS4.RoutingHook
import AS4.InspectedExchanges
import AS4.ElementClasses
import AS4.WrappedMessages
import AS4.EnvelopedDocuments
import AS4.BuiltUserMessages
import AS4.AcceptedBuilds
import AS4.CompletedExchanges
import AS4.ExchangeNetwork
import AS4.MimeFormat
import AS4.TransportedMessages
import AS4.PinnedSigners
import AS4.PeppolMessages
