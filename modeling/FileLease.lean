import FileLease.Call
import FileLease.Command
import FileLease.Failure.Basic
import FileLease.Failure.Rejection
import FileLease.Failure.Transport
import FileLease.FileTree
import FileLease.Guid
import FileLease.Handle
import FileLease.Http.Client
import FileLease.Http.Headers
import FileLease.Http.Message
import FileLease.Http.Network
import FileLease.Http.Refusal
import FileLease.Instant.Basic
import FileLease.Instant.Date
import FileLease.Instant.Rfc2822
import FileLease.Instant.Rfc3339
import FileLease.Instant.Scan
import FileLease.Json.Basic
import FileLease.Json.Lexeme
import FileLease.Json.Printer
import FileLease.Json.Problem
import FileLease.Json.Reader
import FileLease.Json.Record
import FileLease.Json.Skip
import FileLease.Main
import FileLease.Program
import FileLease.Release
import FileLease.Resource
import FileLease.Scope
import FileLease.Script
import FileLease.Service
import FileLease.Session
import FileLease.Settings.Basic
import FileLease.Settings.Environment
import FileLease.Settings.Json
import FileLease.Settings.Load
import FileLease.Settings.Toml
import FileLease.SharePath
import FileLease.Snapshot
import FileLease.Text.Base64
import FileLease.Text.Blank
import FileLease.Text.ByteSet
import FileLease.Text.Charset
import FileLease.Text.CodeRange
import FileLease.Text.Composed
import FileLease.Text.Mark
import FileLease.Text.MediaType
import FileLease.Text.Numeral
import FileLease.Text.Punycode
import FileLease.Text.Quoted
import FileLease.Text.Shortest
import FileLease.Text.Taken
import FileLease.Text.Visible
import FileLease.Toml.Lexeme
import FileLease.Toml.Printer
import FileLease.Toml.Reader
import FileLease.Toml.Tree
import FileLease.Url.Address
import FileLease.Url.Basic
import FileLease.Url.Domain
import FileLease.Url.Domain.Direction
import FileLease.Url.Domain.Joining
import FileLease.Url.Domain.Label
import FileLease.Url.Domain.Mapping
import FileLease.Url.Domain.Permitted
import FileLease.Url.Form
import FileLease.Url.Path
import FileLease.Url.Percent
import FileLease.Url.Reader
import FileLease.Url.Reference
import FileLease.Proofs.LeaseExclusion
import FileLease.Proofs.ScopeContract
import FileLease.Proofs.ScopedWork
import FileLease.Proofs.HandleIds
import FileLease.Proofs.HandleTurns
import FileLease.Proofs.RefusalKinds
import FileLease.Proofs.NumeralWidths
import FileLease.Proofs.RevisionOrder
import FileLease.Proofs.Calendar
import FileLease.Proofs.HttpDates
import FileLease.Proofs.WireReplies
import FileLease.Proofs.WireCalls
import FileLease.Proofs.TransportAgreement
import FileLease.Proofs.RedirectChains
import FileLease.Proofs.ScopeRequests
import FileLease.Proofs.PercentCoding
import FileLease.Proofs.PrintedToken
import FileLease.Proofs.SharePaths
import FileLease.Proofs.ShareRoutes
import FileLease.Proofs.CanonicalUrls
import FileLease.Proofs.UrlTexts
import FileLease.Proofs.LeaseUrls
import FileLease.Proofs.FormQueries
import FileLease.Proofs.LeaseHeaders
import FileLease.Proofs.LeaseTimes
import FileLease.Proofs.LeaseQueries
import FileLease.Proofs.FileUrls
import FileLease.Proofs.SeparateFiles
import FileLease.Proofs.InjectedTimeouts
import FileLease.Proofs.KeptRecords
import FileLease.Proofs.LateReleases
import FileLease.Proofs.EqualTags
import FileLease.Proofs.FoundPieces
import FileLease.Proofs.TomlTexts
import FileLease.Proofs.SettingLayers
import FileLease.Proofs.SettingsFiles
import FileLease.Proofs.JsonTexts
import FileLease.Proofs.InstantTexts
import FileLease.Proofs.SnapshotTexts
import FileLease.Proofs.CommandLines
import FileLease.Proofs.CommandRuns
import FileLease.Proofs.FileArguments
import FileLease.Proofs.GuidTexts
import FileLease.Proofs.ErrorCodes
import FileLease.Proofs.UnsentRequests
import FileLease.Proofs.ElementTexts
import FileLease.Proofs.RefusalCodes
import FileLease.Proofs.TagPlaces
import FileLease.Proofs.RefusalBodies
import FileLease.Proofs.VariableTexts
import FileLease.Proofs.VariableLists
import FileLease.Proofs.VariableNumbers
import FileLease.Proofs.VariableSettings
