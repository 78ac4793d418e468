import Iperf.Loop
import Iperf.Transition
import Iperf.LongestMatch
import Iperf.LinkedQueue
import Iperf.DoublyLinked
import Iperf.SequenceLedger
import Iperf.Dialogue
import Iperf.Time
import Iperf.TimeArithmetic
import Iperf.TestState
import Iperf.MachineWords
import Iperf.Transfer
import Iperf.UdpReceive
import Iperf.QuicStream
import Iperf.QuicReceive
import Iperf.QuicSend
import Iperf.QuicContext
import Iperf.QuicOwnership
import Iperf.QuicWakeup
import Iperf.QuicHandles
import Iperf.QuicLifecycle
import Iperf.Timers
import Iperf.TimerOrder
import Iperf.ControlProtocol
import Iperf.ControlExchange
import Iperf.Json
import Iperf.Config
import Iperf.Parameters
import Iperf.Arguments
import Iperf.AcceptedConfig
import Iperf.ParameterExchange
import Iperf.ServerRound
import Iperf.ServerReset
import Iperf.ServerConfig
import Iperf.ServerLimits
import Iperf.ServerTimers
import Iperf.IntervalCounters
import Iperf.DiskFile
import Iperf.StreamResults
import Iperf.SentBytes
import Iperf.ResultsExchange
import Iperf.Outcome
import Iperf.DescriptorLedger
import Iperf.ServerLoop
import Iperf.ServerAdmission
import Iperf.ServerMessages
import Iperf.ServerPhases
import Iperf.ServerOutsider
import Iperf.ServerDescriptors
import Iperf.CyclicBuffer
import Iperf.RateLimit
import Iperf.RateLimitBounds
import Iperf.UdpSend
import Iperf.UdpOmit
import Iperf.UdpJitter
import Iperf.Base64Text
import Iperf.FormattedText
import Iperf.Rsa
import Iperf.FixedPoint
import Iperf.UnitPrinting
import Iperf.FloatText
import Iperf.FloatStandard
import Iperf.UnitParsing
import Iperf.AuthToken
import Iperf.RsaTokens
import Iperf.StreamPairs
import Iperf.SelectTimeout
import Iperf.StallDetection
import Iperf.TimerRun
import Iperf.ServerRelease
import Iperf.AuthorizedUsers
import Iperf.TokenBuffers
import Iperf.Goals
import Iperf.Pacing
import Iperf.ControlStream
import Iperf.FinalReport
import Iperf.TimerEffects
import Iperf.TimerTimeout
import Iperf.TimerFiring
import Iperf.TimerTermination
import Iperf.UdpDatagrams
import Iperf.UdpHeaders
import Iperf.SkipRxCopy
import Iperf.SocketWrites
import Iperf.ControlWrites
import Iperf.TcpSend
import Iperf.BlockCounts
import Iperf.DiskBuffer
import Iperf.QuicHandshake
import Iperf.NewStream
import Iperf.KeyedWrites
import Iperf.CommandLine
import Iperf.OptionSettings
import Iperf.OptionEffects
import Iperf.ComputedMode
import Iperf.OptionOrder
import Iperf.UnitOptions
import Iperf.ArgumentsView
import Iperf.BinaryFloat
import Iperf.GeneralFormat
import Iperf.CjsonNumber
import Iperf.CjsonString
import Iperf.CjsonItem
import Iperf.CjsonPrint
import Iperf.CjsonParse
import Iperf.CjsonRoundtrip
import Iperf.CjsonMessages
import Iperf.LinkedRing
import Iperf.CjsonHeap
import Iperf.CjsonForest
import Iperf.CjsonEdits
import Iperf.CjsonObjects
import Iperf.CjsonOwnership
import Iperf.CjsonEvents
import Iperf.ClientHoldings
import Iperf.ClientRuns
