import Ammc.ByteMemory
import Ammc.SerialProgram
import Ammc.Crc
import Ammc.Packet
import Ammc.Datagram
import Ammc.DcMotorSpeed
import Ammc.MasterSerial
import Ammc.MasterCommunication
import Ammc.MasterOperations
import Ammc.MasterHandler
import Ammc.MasterReceive
import Ammc.MasterServe
import Ammc.MasterStream
import Ammc.ClientSerial
import Ammc.ClientCommunication
import Ammc.ClientReceive
import Ammc.ClientBounds
import Ammc.ClientFrames
import Ammc.ClientCommands
import Ammc.EchoString
import Ammc.EchoBounds
import Ammc.Exchange
import Ammc.SendHistory
import Ammc.ClearLine
import Ammc.DrainedSession
import Ammc.SerialProcess
import Ammc.SerialGuard
import Ammc.EchoReply
import Ammc.CommandShape
import Ammc.CorruptedExchange
import Ammc.SerialLoop
import Ammc.MasterLoop
import Ammc.Interleaving
import Ammc.ClientGuard
import Ammc.SoundSession
import Ammc.MasterFollows
import Ammc.InterleavingRuns
import Ammc.TwiStatus
import Ammc.SlaveTwi
import Ammc.SlaveLoop
import Ammc.SlaveBus
import Ammc.SlaveStages
import Ammc.SlaveTransfers
import Ammc.SpeedReadout
import Ammc.SlaveSchedule
import Ammc.ShiftRegister
import Ammc.CrcErrors
import Ammc.PacketRoundTrip
import Ammc.MotorRequests
import Ammc.MotorPid
import Ammc.SpeedRegulation
import Ammc.CircularQueue
import Ammc.Ringbuffer
import Ammc.Reception
import Ammc.RelatedRuns
import Ammc.MasterTraffic
import Ammc.StaleMemory
import Ammc.MasterTwi
import Ammc.SelectedSlave
import Ammc.NetworkWrites
import Ammc.SlaveCalls
import Ammc.SpeedCommands
import Ammc.TwiBus
import Ammc.TwiTransfers
import Ammc.DamagedPackets
import Ammc.PolynomialRegister
import Ammc.CrcPolynomial
import Ammc.RefusedReplies
import Ammc.TwiOutcomes
import Ammc.SpeedOutcomes
import Ammc.SlaveBounds
import Ammc.SlaveFrames
import Ammc.BoundedFifo
import Ammc.ClientRingbuffer
import Ammc.RingbufferFifo
import Ammc.MasterTransmitter
import Ammc.Numerals
import Ammc.SentPackets
import Ammc.ClientArguments
import Ammc.Tokens
import Ammc.ShellLine
import Ammc.ShortTransfers
import Ammc.SerialTransfers
import Ammc.Behaviours
import Ammc.FailingReads
import Ammc.ClientDescriptors
import Ammc.ConnectionRuns
import Ammc.ShellLoop
import Ammc.ShellTermination
import Ammc.TextPieces
import Ammc.ShellLines
import Ammc.ExecutedLines
import Ammc.EventRuns
import Ammc.MasterReceiver
import Ammc.SleepingCore
import Ammc.SleepUtil
import Ammc.SlaveSleep
import Ammc.MasterSleep
import Ammc.Quadrature
import Ammc.Encoder
import Ammc.KeyedCells
import Ammc.SlaveRenames
import Ammc.FleetCommands
import Ammc.SortedTable
import Ammc.ShellLookup
import Ammc.ClientShell
import Ammc.FleetScript
import Ammc.Linearizability
import Ammc.LockedObject
import Ammc.LockedEffects
import Ammc.LockedRingbuffer
import Ammc.RingbufferTraffic
import Ammc.WiredLine
import Ammc.NetworkReads
import Ammc.SlaveQueries
import Ammc.FleetReadings
import Ammc.FleetReplies
import Ammc.FleetSessions
import Ammc.MasterReading
import Ammc.Receipts
import Ammc.Reconnection
