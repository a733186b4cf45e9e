import TelcoVecchio.RustText
import TelcoVecchio.HexText
import TelcoVecchio.Gsm0338
import TelcoVecchio.CapturePattern
import TelcoVecchio.LabelledRun
import TelcoVecchio.FramedStream
import TelcoVecchio.HandleLedger
import TelcoVecchio.Common
import TelcoVecchio.Status
import TelcoVecchio.SshUtils
import TelcoVecchio.SmsUtils
import TelcoVecchio.Request
import TelcoVecchio.Service
import TelcoVecchio.TunnelReferences
import TelcoVecchio.ProcessOwnership
import TelcoVecchio.TunnelPairs
import TelcoVecchio.FailedRequests
import TelcoVecchio.SmsDeliver
import TelcoVecchio.PhoneNumbers
import TelcoVecchio.SenderAuthentication
import TelcoVecchio.PduReading
import TelcoVecchio.MessageRoundTrip
import TelcoVecchio.MainLoop
import TelcoVecchio.Replies
import TelcoVecchio.ExpiryCleaning
import TelcoVecchio.SmsSubmit
import TelcoVecchio.SentPdu
import TelcoVecchio.ReplyAddress
import TelcoVecchio.DeliverFields
import TelcoVecchio.PrefixScan
import TelcoVecchio.OutputPatterns
import TelcoVecchio.UrlReading
import TelcoVecchio.TunnelSetup
import TelcoVecchio.SerialLine
import TelcoVecchio.Init
import TelcoVecchio.ModemAnswers
import TelcoVecchio.DeferredNotices
import TelcoVecchio.ServiceScript
import TelcoVecchio.TurnLoop
import TelcoVecchio.StartUpLoop
import TelcoVecchio.AtTransaction
import TelcoVecchio.SendingResult
import TelcoVecchio.AnnouncedLength
import TelcoVecchio.TunnelClosing
import TelcoVecchio.AnsweredHosts
import TelcoVecchio.Simulation
import TelcoVecchio.LoopRefinement
import TelcoVecchio.MapOrder
import TelcoVecchio.WordGrammar
import TelcoVecchio.RequestLanguage
import TelcoVecchio.Conversation
import TelcoVecchio.Contacts
import TelcoVecchio.DaemonSurvival
import TelcoVecchio.WireExchange
import TelcoVecchio.PipedChild
import TelcoVecchio.ProcessPipes
import TelcoVecchio.IdleLoop
import TelcoVecchio.ModemSetup
import TelcoVecchio.StatusText
import TelcoVecchio.CapturedOnce
import TelcoVecchio.DaemonLives
import TelcoVecchio.DaemonOnLine
import TelcoVecchio.MessageBudget
