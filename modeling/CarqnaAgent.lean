import CarqnaAgent.Foundations.Text
import CarqnaAgent.Foundations.Integers
import CarqnaAgent.Foundations.Datetimes
import CarqnaAgent.Foundations.Calendars
import CarqnaAgent.Foundations.IsoOrder
import CarqnaAgent.Foundations.Dicts
import CarqnaAgent.Foundations.SortedMaps
import CarqnaAgent.Foundations.Programs
import CarqnaAgent.Foundations.StableFacts
import CarqnaAgent.Foundations.Observations
import CarqnaAgent.Foundations.Transcripts
import CarqnaAgent.Foundations.Cleanup
import CarqnaAgent.Foundations.SerialOrder
import CarqnaAgent.Foundations.LocalPrograms
import CarqnaAgent.Foundations.Tables
import CarqnaAgent.Foundations.Stamps
import CarqnaAgent.Foundations.Turns
import CarqnaAgent.Foundations.Worklists
import CarqnaAgent.Foundations.Refinement
import CarqnaAgent.Foundations.Layers
import CarqnaAgent.Foundations.Replacement
import CarqnaAgent.Foundations.Newlines
import CarqnaAgent.Foundations.Surrogates
import CarqnaAgent.Foundations.Urls
import CarqnaAgent.Foundations.Globs
import CarqnaAgent.Storage.ObjectStore
import CarqnaAgent.Storage.S3Backend
import CarqnaAgent.Storage.Addressing
import CarqnaAgent.Storage.Confinement
import CarqnaAgent.Storage.Listings
import CarqnaAgent.Storage.Snapshots
import CarqnaAgent.Storage.Downloads
import CarqnaAgent.Storage.RoundTrips
import CarqnaAgent.Storage.Directories
import CarqnaAgent.Storage.TreeWalk
import CarqnaAgent.Storage.ConcurrentEdits
import CarqnaAgent.Storage.ConcurrentReads
import CarqnaAgent.Storage.AllOrNothing
import CarqnaAgent.Storage.FileMap
import CarqnaAgent.Storage.GlobLines
import CarqnaAgent.Storage.GlobOrder
import CarqnaAgent.Storage.GrepSnapshot
import CarqnaAgent.Storage.LineEndings
import CarqnaAgent.Storage.Exceptions
import CarqnaAgent.Storage.Serializability
import CarqnaAgent.Corpus.InsuranceBackend
import CarqnaAgent.Corpus.SyncDocs
import CarqnaAgent.Corpus.Permissions
import CarqnaAgent.Corpus.Uploads
import CarqnaAgent.Auth.Verification
import CarqnaAgent.Auth.Middleware
import CarqnaAgent.Auth.IdentityIsolation
import CarqnaAgent.Sessions.Store
import CarqnaAgent.Sessions.Outcomes
import CarqnaAgent.Sessions.Isolation
import CarqnaAgent.Sessions.Interleavings
import CarqnaAgent.Sessions.Commits
import CarqnaAgent.Sessions.Presence
import CarqnaAgent.Sessions.SerialRuns
import CarqnaAgent.Sessions.Histories
import CarqnaAgent.Graph.McpTools
import CarqnaAgent.Graph.Creation
import CarqnaAgent.Server.Endpoints
import CarqnaAgent.Server.SessionCreation
import CarqnaAgent.Server.Ownership
import CarqnaAgent.Server.SessionThreads
import CarqnaAgent.Server.FreshSessions
import CarqnaAgent.Server.Gateway
import CarqnaAgent.Server.Mediation
import CarqnaAgent.Server.CreatedSessions
import CarqnaAgent.Server.Lifespan
import CarqnaAgent.Cli.LocalSessions
import CarqnaAgent.Cli.FindOrCreate
import CarqnaAgent.Cli.SessionTable
import CarqnaAgent.Cli.Overtaking
import CarqnaAgent.Cli.Processes
import CarqnaAgent.Cli.Dialogues
import CarqnaAgent.Cli.Conversations
