import CloudDrive.Accounts
import CloudDrive.BasicHandlers
import CloudDrive.BucketIndex
import CloudDrive.ByteOrder
import CloudDrive.ByteStrings
import CloudDrive.CanonicalPaths
import CloudDrive.ChainedBuckets
import CloudDrive.ClientCommands
import CloudDrive.ClientDownloads
import CloudDrive.ClientEnvironment
import CloudDrive.ClientTasks
import CloudDrive.ClientTransfers
import CloudDrive.ConcurrentDirectories
import CloudDrive.ConcurrentTasks
import CloudDrive.ConcurrentUploads
import CloudDrive.ConnectionPool
import CloudDrive.ControlConnection
import CloudDrive.DaoAnswers
import CloudDrive.DaoConsistency
import CloudDrive.DaoOutcomes
import CloudDrive.DaoPrograms
import CloudDrive.Database
import CloudDrive.DbSession
import CloudDrive.Dialogue
import CloudDrive.DirectoryListing
import CloudDrive.DoublyLinkedBuckets
import CloudDrive.DownloadDialogue
import CloudDrive.DownloadFraming
import CloudDrive.DownloadRuns
import CloudDrive.DownloadTargets
import CloudDrive.ErrorNumbers
import CloudDrive.FileMetadata
import CloudDrive.Files
import CloudDrive.Framing
import CloudDrive.HandlerAnswers
import CloudDrive.HandlerCalls
import CloudDrive.HandlerKnowledge
import CloudDrive.HandlerResponses
import CloudDrive.InstantUploads
import CloudDrive.Interaction
import CloudDrive.Interleaving
import CloudDrive.LinkedChains
import CloudDrive.LinkedQueues
import CloudDrive.LookupTexts
import CloudDrive.ManagedTransfers
import CloudDrive.ObjectNames
import CloudDrive.PathBuffers
import CloudDrive.PathResolution
import CloudDrive.PromptInput
import CloudDrive.Protocol
import CloudDrive.ReferenceCounts
import CloudDrive.RequestingUser
import CloudDrive.Runs
import CloudDrive.SerialOperations
import CloudDrive.ServerCustody
import CloudDrive.ServerLoop
import CloudDrive.ServerRuns
import CloudDrive.ServerSteps
import CloudDrive.SessionCalls
import CloudDrive.SessionHistory
import CloudDrive.SessionLinkage
import CloudDrive.SessionMemory
import CloudDrive.SessionRegistry
import CloudDrive.SessionRepresentation
import CloudDrive.SessionTable
import CloudDrive.SessionTableLinks
import CloudDrive.SqlFormats
import CloudDrive.SqlLexer
import CloudDrive.StatementLengths
import CloudDrive.StatementRuns
import CloudDrive.Statements
import CloudDrive.TaskEnvironment
import CloudDrive.TaskOps
import CloudDrive.ThreadPool
import CloudDrive.TimerLinkage
import CloudDrive.TimerMemory
import CloudDrive.TimerRepresentation
import CloudDrive.TimerWheel
import CloudDrive.TimerWheelDeadlines
import CloudDrive.TimerWheelExpiry
import CloudDrive.TimerWheelLinks
import CloudDrive.TimerWheelRuns
import CloudDrive.TimerWheelSizes
import CloudDrive.TransferDialogue
import CloudDrive.TransferHandlers
import CloudDrive.TransferRoundTrip
import CloudDrive.UploadAttempts
import CloudDrive.UploadDialogue
import CloudDrive.UploadLookups
import CloudDrive.UploadPhases
import CloudDrive.UploadReceiver
import CloudDrive.UploadResume
import CloudDrive.UploadRuns
import CloudDrive.UploadSource
import CloudDrive.VerifiedDownloads
import CloudDrive.VirtualPaths
import CloudDrive.WorkingDirectories
