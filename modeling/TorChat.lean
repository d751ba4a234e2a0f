import TorChat.Library.Machine
import TorChat.Library.HashMap
import TorChat.Jni.KeyFile
import TorChat.Util.KeyState
import TorChat.Message.Message
import TorChat.Message.RoundTrip
import TorChat.Util.FileTask
import TorChat.Library.Chunks
import TorChat.Transfer.Chunking
import TorChat.Util.DemoPlatform
import TorChat.Keys.Agreement
import TorChat.Message.DataMessage
import TorChat.Message.FileMessage
import TorChat.Util.Decoding
import TorChat.Message.MetaRoundTrip
import TorChat.Message.HandShakeMessage
import TorChat.Keys.Decryption
import TorChat.Keys.SlotUse
import TorChat.Server.Connections
import TorChat.Server.Device
import TorChat.Server.Handlers
import TorChat.Server.Step
import TorChat.Server.SendCalls
import TorChat.Server.FileState
import TorChat.Server.FileEffects
import TorChat.Server.ConnectionState
import TorChat.Server.ConnectionEffects
import TorChat.Server.ConnectionSlot
import TorChat.Server.PipelinedCells
import TorChat.Server.SessionOrder
import TorChat.Server.StatusChecker
import TorChat.Server.SessionKeys
import TorChat.Server.Outbox
import TorChat.Server.Emissions
import TorChat.Server.SendQueue
import TorChat.Server.Integrity
import TorChat.Server.Authentication
import TorChat.Server.Network
import TorChat.Server.FileRuns
import TorChat.Transfer.Isolation
import TorChat.Transfer.Resume
import TorChat.Transfer.Confidentiality
import TorChat.Transfer.MetaFirst
import TorChat.Transfer.HeldPieces
import TorChat.Transfer.MergeOverOld
import TorChat.Transfer.MergeCompletion
import TorChat.Library.Interleaving
import TorChat.Keys.IndexRace
import TorChat.Library.Path
import TorChat.Transfer.PathConfinement
import TorChat.Transfer.FileStages
import TorChat.Transfer.FileCells
import TorChat.Transfer.FileTraffic
import TorChat.Transfer.FileHandling
import TorChat.Transfer.OwnCells
import TorChat.Transfer.FileMoves
import TorChat.Transfer.DevicePair
import TorChat.Transfer.TransferCompletion
import TorChat.Library.BlockCipher
import TorChat.Message.Wire
import TorChat.Message.DataCell
import TorChat.Message.HandShakeCell
import TorChat.Text.TextAck
import TorChat.Text.Acknowledgement
import TorChat.Text.Framing
import TorChat.Text.TextStream
import TorChat.Text.Resend
import TorChat.Text.FailedQueue
import TorChat.Text.DataBeforeKeys
import TorChat.Library.Base64
import TorChat.Offline.FileExchange
import TorChat.Offline.TextRouting
import TorChat.Contacts.MailList
import TorChat.Library.Segments
import TorChat.Server.CellReader
import TorChat.Server.ClientReader
import TorChat.Server.ConnectThread
import TorChat.Server.ConnectionChoice
import TorChat.Server.ConcurrentLookup
import TorChat.Server.ConnectionRemoval
import TorChat.Server.AddConnection
import TorChat.Server.WriterConservation
import TorChat.Transfer.PieceArithmetic
import TorChat.Jni.InnerEncryption
import TorChat.Util.ResetFile
import TorChat.Util.CutFile
import TorChat.Jni.KeySlots
import TorChat.Library.Latest
import TorChat.Keys.RecordConvergence
import TorChat.Offline.UploadReport
import TorChat.Library.Fields
import TorChat.Jni.HeaderInsertion
import TorChat.Library.Decimal
import TorChat.Library.FileTree
import TorChat.Util.BinFile
import TorChat.Util.BinFileNames
import TorChat.Library.Delimited
import TorChat.Offline.MultipartBody
import TorChat.Library.LastOfEach
import TorChat.Contacts.LastMessages
import TorChat.Contacts.AddressBook
import TorChat.Offline.ChatHistory
import TorChat.Util.RandomUtil
import TorChat.Offline.MsgTable
import TorChat.Offline.OfflineFetch
import TorChat.Offline.OfflineScreen
import TorChat.Offline.OfflineRetry
import TorChat.Offline.DeliveryMarks
import TorChat.Library.Resolution
import TorChat.Play.DelFolder
import TorChat.Play.Wipe
import TorChat.Library.Binary64
import TorChat.Library.DoubleText
import TorChat.Play.Calculator
import TorChat.Play.Evaluation
import TorChat.Play.CalculatorEnds
import TorChat.Play.DecoyScreen
import TorChat.Util.Base64
import TorChat.Util.Base64Text
import TorChat.Library.Ledger
import TorChat.Server.TextQueue
import TorChat.Server.TextRuns
import TorChat.Text.TextOrigin
import TorChat.Server.ContactsOnly
import TorChat.Library.AckChannel
import TorChat.Text.Conversation
import TorChat.Text.FirstConversation
import TorChat.Server.HandShakeReading
import TorChat.Server.HandShakeCompletion
