import TableGraph.Main
import TableGraph.Workspace
import TableGraph.Proofs.Relationships.Covering
import TableGraph.Proofs.Schema.Constraints
import TableGraph.Proofs.Text.Lowercase
import TableGraph.Proofs.Inference.Rules
import TableGraph.Proofs.Inference.Run
import TableGraph.Proofs.Relationships.Duplicates
import TableGraph.Proofs.Schema.ForeignFlags
import TableGraph.Proofs.Inference.KeyIndex
import TableGraph.Proofs.Inference.KeyGroups
import TableGraph.Proofs.Inference.Naming
import TableGraph.Proofs.Inference.DistinctNames
import TableGraph.Proofs.Inference.FixedPoint
import TableGraph.Proofs.Inference.CommonKeys
import TableGraph.Proofs.Inference.SharedKeys
import TableGraph.Proofs.LetterCase.Names
import TableGraph.Proofs.LetterCase.Script
import TableGraph.Proofs.LetterCase.Inference
import TableGraph.Proofs.LetterCase.Analysis
import TableGraph.Proofs.Ranks.Arrows
import TableGraph.Proofs.Ranks.Paths
import TableGraph.Proofs.Ranks.Sweeps
import TableGraph.Proofs.Ranks.LongestPath
import TableGraph.Proofs.Ranks.Forward
import TableGraph.Proofs.Ranks.Gaps
import TableGraph.Proofs.Schema.Declared
import TableGraph.Proofs.Sql.DeclaredKeys
import TableGraph.Proofs.Schema.Exchange
import TableGraph.Proofs.Sql.KeyForms
import TableGraph.Proofs.Layout.Separation
import TableGraph.Proofs.Inference.Extension
import TableGraph.Proofs.Ddl.Cutting
import TableGraph.Proofs.Ddl.Reading
import TableGraph.Proofs.Ddl.Types
import TableGraph.Proofs.Ddl.PlainTypes
import TableGraph.Proofs.Ddl.NestedTypes
import TableGraph.Proofs.Ddl.Columns
import TableGraph.Proofs.Ddl.Tables
import TableGraph.Proofs.Ddl.ReadBack
import TableGraph.Proofs.Inference.GenericKey
import TableGraph.Proofs.Graph.EdgeIds
import TableGraph.Proofs.Graph.Neighbors
import TableGraph.Proofs.Graph.Search
import TableGraph.Proofs.Schema.FirstMet
import TableGraph.Proofs.Statistics.MostConnected
import TableGraph.Proofs.Statistics.Groups
import TableGraph.Proofs.Layout.Places
import TableGraph.Proofs.Layout.Positions
import TableGraph.Proofs.Layout.Mirror
import TableGraph.Proofs.Sql.Detection
import TableGraph.Proofs.CommandLine.Agreement
