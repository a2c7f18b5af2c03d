import ConfluxQuery.Lib.History
import ConfluxQuery.Lib.Pool
import ConfluxQuery.Lib.Alone
import ConfluxQuery.Lib.Prog
import ConfluxQuery.Lib.Registry
import ConfluxQuery.Core.Driver
import ConfluxQuery.Core.Session
import ConfluxQuery.Core.SessionRuns
import ConfluxQuery.Cluster.Memory
import ConfluxQuery.Cluster.Postgres
import ConfluxQuery.Cluster.Store
import ConfluxQuery.Service.Gateway
import ConfluxQuery.Service.Handler
import ConfluxQuery.Service.Prepared
import ConfluxQuery.Service.Queries
import ConfluxQuery.Service.Reads
import ConfluxQuery.Service.Records
import ConfluxQuery.Service.Registries
import ConfluxQuery.Service.Results
import ConfluxQuery.Service.Sessions
import ConfluxQuery.Service.Types
import ConfluxQuery.Service.World
import ConfluxQuery.Verif.Answers
import ConfluxQuery.Verif.CollectorCalls
import ConfluxQuery.Verif.Conformance
import ConfluxQuery.Verif.Evidence
import ConfluxQuery.Verif.Handling
import ConfluxQuery.Verif.Lifecycle
import ConfluxQuery.Verif.PreparedCalls
import ConfluxQuery.Verif.Protocol
import ConfluxQuery.Verif.QueryCalls
import ConfluxQuery.Verif.ReadCalls
import ConfluxQuery.Verif.RecordHistory
import ConfluxQuery.Verif.Retention
import ConfluxQuery.Verif.Runs
import ConfluxQuery.Verif.SessionCalls
import ConfluxQuery.Verif.SessionHistory
import ConfluxQuery.Cluster.Leases
import ConfluxQuery.Cluster.CompareAndSwap
import ConfluxQuery.Cluster.Isolation
import ConfluxQuery.Cluster.Quota
import ConfluxQuery.Driver.Trino
import ConfluxQuery.Verif.TrinoSubmission
import ConfluxQuery.Lib.Gate
import ConfluxQuery.Verif.Footprints
import ConfluxQuery.Verif.Globs
import ConfluxQuery.Verif.Submissions
import ConfluxQuery.Verif.Admission
import ConfluxQuery.Verif.Limits
import ConfluxQuery.Verif.QueryQuota
import ConfluxQuery.Verif.StoreHistory
import ConfluxQuery.Verif.SessionQuota
import ConfluxQuery.Http.Api
import ConfluxQuery.Verif.PlainReads
import ConfluxQuery.Verif.Shutdown
import ConfluxQuery.Verif.SharedMutations
import ConfluxQuery.Verif.ResultSources
import ConfluxQuery.Verif.EventStream
import ConfluxQuery.Verif.Tokens
import ConfluxQuery.Verif.Identities
import ConfluxQuery.Flight.Tokens
import ConfluxQuery.Verif.Hydration
import ConfluxQuery.Verif.Paging
import ConfluxQuery.Verif.MetadataCache
import ConfluxQuery.Verif.Partitions
import ConfluxQuery.Verif.ResultAccounting
import ConfluxQuery.Verif.EventHistory
import ConfluxQuery.Verif.StatementLimit
import ConfluxQuery.Verif.StatementOwnership
import ConfluxQuery.Verif.TrinoValues
import ConfluxQuery.Verif.NativeTypes
import ConfluxQuery.Verif.AdvertisedTypes
import ConfluxQuery.Driver.Databricks
import ConfluxQuery.Lib.Numerals
import ConfluxQuery.Driver.Snowflake
import ConfluxQuery.Output.Decimals
import ConfluxQuery.Verif.ConfigValues
import ConfluxQuery.Verif.DelimitedOutput
import ConfluxQuery.Verif.TrinoMetadataSql
import ConfluxQuery.Verif.UseStatements
import ConfluxQuery.Repl.Namespaces
import ConfluxQuery.Verif.ConfigResolution
import ConfluxQuery.Verif.Durations
import ConfluxQuery.Verif.ApiKeys
import ConfluxQuery.Verif.SessionOptions
import ConfluxQuery.Verif.ArrowPages
import ConfluxQuery.Verif.DatabricksCancellation
import ConfluxQuery.Verif.QueryHandle
import ConfluxQuery.Verif.Slices
import ConfluxQuery.Verif.Statements
import ConfluxQuery.Verif.JdbcUrls
import ConfluxQuery.Verif.Conduct
import ConfluxQuery.Verif.PageTokens
