import Stars.AccessControl.FirstMatch
import Stars.AccessControl.MaskWalk
import Stars.AccessControl.DecidedBits
import Stars.AccessControl.PossibleSets
import Stars.Core.FileSystem
import Stars.Core.Diagnostics
import Stars.Core.Input
import Stars.Core.Result
import Stars.PermissionEngine.DaclWalk
import Stars.PermissionEngine.Evaluate
import Stars.PermissionEngine.AccessCheck
import Stars.PermissionEngine.Bounds
import Stars.PermissionEngine.Report
import Stars.PermissionEngine.Ownership
import Stars.PermissionEngine.ExactResult
import Stars.ShareScanner.ShareWalk
import Stars.ShareScanner.Agreement
import Stars.AdResolver.SelectiveAuth
import Stars.Collections.KeyedList
import Stars.Collections.Fallible
import Stars.Graph.Bfs
import Stars.Graph.Distances
import Stars.AdResolver.RawEntry
import Stars.AdResolver.Routes
import Stars.AdResolver.Memberships
import Stars.AdResolver.Reachability
import Stars.AdResolver.Trusts
import Stars.AdResolver.Resolver
import Stars.AdResolver.Principal
import Stars.AdResolver.Trusted
import Stars.AdResolver.ResourceGroups
import Stars.AdResolver.Pipeline
import Stars.AdResolver.Silence
import Stars.AdResolver.Reordering
import Stars.AdResolver.Arrangement
import Stars.AdResolver.OrderIndependence
import Stars.AdResolver.Chains
import Stars.Validation.Path
import Stars.Graph.StackWalk
import Stars.Graph.Landscape
import Stars.Graph.WalkRun
import Stars.Graph.Recursion
import Stars.Graph.Routes
import Stars.FsScanner.Walker
import Stars.FsScanner.Completeness
import Stars.FsScanner.Recursion
import Stars.FsScanner.Loops
import Stars.Order.Comparison
import Stars.UpdateManager.Version
import Stars.UpdateManager.Verifier
import Stars.Core.Explanation
import Stars.Order.Sorting
import Stars.Order.Conflicts
import Stars.Persistence.Delta
import Stars.Persistence.Difference
import Stars.PermissionEngine.Rights
import Stars.RiskEngine.Rules
import Stars.RiskEngine.Findings
import Stars.PermissionEngine.Markers
import Stars.PermissionEngine.LogonRefusal
import Stars.Persistence.StoredRow
import Stars.Persistence.History
import Stars.Storage.Transaction
import Stars.Persistence.ScanStore
import Stars.Persistence.Atomicity
import Stars.Persistence.StoredScans
import Stars.Persistence.Queries
import Stars.Collections.BestPerKey
import Stars.Collections.FirstAppearance
import Stars.Collections.JoinedPerKey
import Stars.Core.Merging
import Stars.PermissionEngine.Explanation
import Stars.PermissionEngine.Withdrawal
import Stars.PermissionEngine.CompactRows
import Stars.PermissionEngine.CanonicalOrder
import Stars.PermissionEngine.Provenance
import Stars.ShareScanner.Decisions
import Stars.PermissionEngine.Filtering
import Stars.PermissionEngine.ExplainedBounds
import Stars.FsScanner.Acl
import Stars.FsScanner.AclLosses
import Stars.FsScanner.RawAccess
import Stars.PermissionEngine.LocalGroups
import Stars.PermissionEngine.TraceGroups
import Stars.Graph.Placement
import Stars.Viz.Graph
import Stars.Viz.Routes
import Stars.PermissionEngine.CollapsedSteps
import Stars.Graph.Bypass
import Stars.AdResolver.AlsoVia
import Stars.Core.MergedRoutes
import Stars.Core.GroupHistory
import Stars.AdResolver.TrustClassification
import Stars.AdResolver.FilterReport
import Stars.AdResolver.CrossTrust
import Stars.AdResolver.RangeRetrieval
import Stars.Bytes.Fields
import Stars.Bytes.Checked
import Stars.AdResolver.BinarySid
import Stars.AdResolver.DescriptorBytes
import Stars.Text.Numbers
import Stars.Text.Pieces
import Stars.AdResolver.SidText
import Stars.Bytes.Decoder
import Stars.AdResolver.ForestTrustInfo
import Stars.PermissionEngine.MembershipView
import Stars.PermissionEngine.ListedLayers
import Stars.Cli.ScanHeader
import Stars.Text.Utf16
import Stars.FsScanner.ReparseData
import Stars.Windows.Paths
import Stars.Validation.Net
import Stars.Validation.PathChecks
import Stars.Validation.NormalForm
import Stars.Validation.OpenedPath
import Stars.UpdateManager.ManifestPath
import Stars.UpdateManager.SemVer
import Stars.Json.Writing
import Stars.UpdateManager.Integrity
import Stars.RiskEngine.BroadWrite
import Stars.Collections.Marked
import Stars.Exporter.Csv
import Stars.Collections.CheckedMemo
import Stars.FsScanner.SdCache
import Stars.AccessControl.BitParts
import Stars.PermissionEngine.RightsLabels
import Stars.Ldap.FilterText
import Stars.AdResolver.LdapFilters
import Stars.Cli.MembershipCsv
import Stars.Collections.Runs
import Stars.Html.Tokens
import Stars.Exporter.HtmlSteps
import Stars.AdResolver.LocalGroupPath
import Stars.Analysis.Dfs
import Stars.Persistence.Migrations
import Stars.Exporter.CsvFile
import Stars.Graph.Marking
import Stars.Viz.BoxText
import Stars.Viz.BoxRights
import Stars.Viz.Highlight
import Stars.Collections.AskOnce
import Stars.AdResolver.SidNames
import Stars.PermissionEngine.ExplanationPath
import Stars.PermissionEngine.StatedReasons
import Stars.PermissionEngine.ShownNames
import Stars.ShareScanner.ShareRead
import Stars.ShareScanner.Resolution
import Stars.Exporter.Trustees
import Stars.Analysis.ScanRows
import Stars.Exporter.CsvOutcome
import Stars.Storage.Steps
import Stars.Cli.ScanRun
import Stars.AdResolver.LocalGroupTable
import Stars.AdResolver.UacPolicy
import Stars.Analysis.LocalGroups
import Stars.Analysis.AnalyzedPath
import Stars.AdResolver.MembershipSearch
import Stars.AdResolver.Members
import Stars.AdResolver.GroupViews
